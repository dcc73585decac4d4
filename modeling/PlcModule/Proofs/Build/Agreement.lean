import PlcModule.Proofs.Build.Trace
import PlcModule.Proofs.FileTree.Alongside

/-! Two builds of one module, side by side. Their steps agree if from files that are related they
run the same tools and come to the same result. What they tell the user may differ, and so may
what they remember. -/
namespace PlcModule

variable {σ α β : Type}

/-- Taken with a store, whatever it remembers, from files related by `I`, two steps run the same
tools and have the same result; unless it is an error the files are then related by `J`. -/
def Step.Agree (store : ModuleStore) (I : FileTree → FileTree → Prop)
    (J : α → FileTree → FileTree → Prop) (m m' : Step σ α) : Prop :=
  ∀ s s', s.store.reopened = store.reopened → s'.store.reopened = store.reopened →
    I s.tree s'.tree →
    (m s).1 = (m' s').1 ∧
    (∃ commands, (m s).2.issued = s.issued ++ commands ∧ (m' s').2.issued = s'.issued ++ commands) ∧
    ∀ a, (m s).1 = .ok a → (m s).2.store.reopened = store.reopened ∧
      (m' s').2.store.reopened = store.reopened ∧ J a (m s).2.tree (m' s').2.tree

namespace Step.Agree

variable {store : ModuleStore} {I I' : FileTree → FileTree → Prop}
  {J J' : α → FileTree → FileTree → Prop} {K : β → FileTree → FileTree → Prop} {m m' : Step σ α}
  {next next' : α → Step σ β}

theorem mono (h : Agree store I J m m') (before : ∀ t u, I' t u → I t u)
    (after : ∀ a t u, J a t u → J' a t u) : Agree store I' J' m m' := by
  intro s s' held held' at_
  obtain ⟨result, issued, went⟩ := h s s' held held' (before _ _ at_)
  refine ⟨result, issued, fun a ok => ?_⟩
  obtain ⟨kept, kept', at_⟩ := went a ok
  exact ⟨kept, kept', after a _ _ at_⟩

theorem bind (first : Agree store I J m m') (rest : ∀ a, Agree store (J a) K (next a) (next' a)) :
    Agree store I K (m >>= next) (m' >>= next') := by
  intro s s' held held' at_
  obtain ⟨result, ⟨commands, issued, issued'⟩, went⟩ := first s s' held held' at_
  rcases bind_cases m next s with ⟨e, failed, eq⟩ | ⟨a, ok, eq⟩
  · rw [eq, bind_of_error next' (result.symm.trans failed)]
    refine ⟨rfl, ⟨commands, issued, issued'⟩, fun a impossible => ?_⟩
    cases impossible
  · rw [eq, bind_of_ok next' (result.symm.trans ok)]
    obtain ⟨kept, kept', at_⟩ := went a ok
    obtain ⟨result, ⟨more, issuing, issuing'⟩, went⟩ := rest a _ _ kept kept' at_
    refine ⟨result, ⟨commands ++ more, ?_, ?_⟩, went⟩
    · rw [issuing, issued, List.append_assoc]
    · rw [issuing', issued', List.append_assoc]

/-- Steps that run no tool agree if they have the same result. -/
theorem of_quiet (h : ∀ s s', s.store.reopened = store.reopened →
    s'.store.reopened = store.reopened → I s.tree s'.tree →
    (m s).1 = (m' s').1 ∧ (m s).2.issued = s.issued ∧ (m' s').2.issued = s'.issued ∧
      ∀ a, (m s).1 = .ok a → (m s).2.store.reopened = store.reopened ∧
        (m' s').2.store.reopened = store.reopened ∧ J a (m s).2.tree (m' s').2.tree) :
    Agree store I J m m' := by
  intro s s' held held' at_
  obtain ⟨result, issued, issued', went⟩ := h s s' held held' at_
  exact ⟨result, ⟨[], by simp [issued], by simp [issued']⟩, went⟩

theorem pure {a : α} (h : ∀ t u, I t u → J a t u) :
    Agree store I J (Pure.pure a : Step σ α) (Pure.pure a) := by
  refine of_quiet fun s s' held held' at_ => ⟨rfl, rfl, rfl, fun a' same => ?_⟩
  cases same
  exact ⟨held, held', h _ _ at_⟩

/-- The lines that are told may differ. -/
theorem info (text text' : String) :
    Agree store I (fun _ => I) (Step.info text : Step σ Unit) (Step.info text') :=
  of_quiet fun _ _ held held' at_ => ⟨rfl, rfl, rfl, fun _ _ => ⟨held, held', at_⟩⟩

theorem infoIf (wanted wanted' : Bool) (text text' : String) :
    Agree store I (fun _ => I) (Step.infoIf wanted text : Step σ Unit)
      (Step.infoIf wanted' text') := by
  refine of_quiet fun s s' held held' at_ => ?_
  obtain ⟨log, told⟩ := infoIf_apply wanted text s
  obtain ⟨log', told'⟩ := infoIf_apply wanted' text' s'
  rw [told, told']
  exact ⟨rfl, rfl, rfl, fun _ _ => ⟨held, held', at_⟩⟩

/-- What holds whatever the files are may be used. -/
theorem of_fact {fact : Prop} (h : fact → Agree store I J m m') :
    Agree store (fun t u => I t u ∧ fact) J m m' :=
  fun s s' held held' at_ => h at_.2 s s' held held' at_.1

/-- What is asked may be answered differently, as long as what follows agrees on that. -/
theorem ask_bind {f f' : BuildState σ → α}
    (rest : ∀ s s', s.store.reopened = store.reopened → s'.store.reopened = store.reopened →
      I s.tree s'.tree → Agree store I K (next (f s)) (next' (f' s'))) :
    Agree store I K (Step.ask f >>= next) (Step.ask f' >>= next') :=
  fun s s' held held' at_ => rest s s' held held' at_ s s' held held' at_

/-- A step that asks where the files of the module are is told the same. -/
theorem store_bind {next : ModuleStore → Step σ β} (same : ∀ s, next s = next s.reopened)
    (rest : Agree store I K (next store) (next store)) :
    Agree store I K (Step.ask BuildState.store >>= next) (Step.ask BuildState.store >>= next) := by
  refine ask_bind fun s s' held held' _ => ?_
  rw [ModuleStore.eq_of_reopened held next same, ModuleStore.eq_of_reopened held' next same]
  exact rest

theorem need {f f' : BuildState σ → Except BuildError α}
    (same : ∀ s s', s.store.reopened = store.reopened → s'.store.reopened = store.reopened →
      I s.tree s'.tree → f s = f' s' ∧ ∀ a, f s = .ok a → J a s.tree s'.tree) :
    Agree store I J (Step.need f) (Step.need f') := by
  refine of_quiet fun s s' held held' at_ => ?_
  obtain ⟨result, went⟩ := same s s' held held' at_
  exact ⟨result, rfl, rfl, fun a ok => ⟨held, held', went a ok⟩⟩

theorem files {path : Path} {f f' : FileTree → Except Fault FileTree}
    {J : FileTree → FileTree → Prop} (h : ∀ t u, I t u → FileTree.Outcomes J (f t) (f' u)) :
    Agree store I (fun _ => J) (Step.files path f : Step σ Unit) (Step.files path f') := by
  refine of_quiet fun s s' held held' at_ => ?_
  simp only [Step.files]
  have outcomes := h s.tree s'.tree at_
  revert outcomes
  cases f s.tree <;> cases f' s'.tree <;> intro outcomes <;> cases outcomes
  · exact ⟨rfl, rfl, rfl, fun _ impossible => by cases impossible⟩
  · rename_i related
    exact ⟨rfl, rfl, rfl, fun _ _ => ⟨held, held', related⟩⟩

end Step.Agree

/-- The call that a runner makes of a command. -/
def Runner.call (runner : Runner σ) (c : Tool.Command) (tree : FileTree) (r : σ) : Call :=
  ⟨c, (runner c tree r).1, (runner c tree r).2.1⟩

namespace Builder

variable {b : Builder σ} {store : ModuleStore} {I : FileTree → FileTree → Prop}

/-- A tool that answers alike goes well in both builds or fails both. -/
theorem runTool_agree {J : FileTree → FileTree → Prop} {c : Tool.Command} {step subject : String}
    (h : ∀ t u (r r' : σ), I t u → (b.runner.call c t r).answer = (b.runner.call c u r').answer ∧
      ((b.runner.call c t r).WentWell → J (b.runner.call c t r).after (b.runner.call c u r').after)) :
    Step.Agree store I (fun _ => J) (b.runTool c step subject) (b.runTool c step subject) := by
  have issue : Step.Agree store I
      (fun answer t u => ∀ output, Tool.judge c step subject answer = .ok output → J t u)
      (Step.issue b.runner c) (Step.issue b.runner c) := by
    intro s s' held held' at_
    obtain ⟨answer, went⟩ := h s.tree s'.tree s.runnerState s'.runnerState at_
    refine ⟨congrArg Except.ok answer, ⟨[c], rfl, rfl⟩, fun answer' same => ?_⟩
    cases same
    refine ⟨held, held', fun output judged => went ?_⟩
    rcases Task.judge_cases ⟨c, step, subject⟩ (c := b.runner.call c s.tree s.runnerState) rfl with
      ⟨well, -⟩ | ⟨-, failed⟩
    · exact well
    · have impossible := judged.symm.trans failed
      cases impossible
  refine .bind (.infoIf _ _ _ _) fun _ => .bind issue fun answer => .bind (.need ?_) fun output =>
    .infoIf _ _ _ _
  exact fun _ _ _ _ at_ => ⟨rfl, fun output judged => at_ output judged⟩

/-- What a step takes away after it has failed is of no account. -/
theorem orDropStaged_agree {J : FileTree → FileTree → Prop} {m m' : Step σ Unit}
    (h : Step.Agree store I (fun _ => J) m m') :
    Step.Agree store I (fun _ => J) (orDropStaged m) (orDropStaged m') := by
  intro s s' held held' at_
  obtain ⟨result, issued, went⟩ := h s s' held held' at_
  simp only [orDropStaged]
  revert result issued went
  rcases m s with ⟨r, t⟩
  rcases m' s' with ⟨r', t'⟩
  intro result issued went
  cases result
  cases r with
  | ok a => exact ⟨rfl, issued, went⟩
  | error e =>
    refine ⟨rfl, issued, fun a impossible => ?_⟩
    cases impossible

end Builder
end PlcModule
