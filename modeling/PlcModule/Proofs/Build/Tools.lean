import PlcModule.Proofs.Build.Outcome

/-! Between the glue sources and the new module a build runs tools and leaves the files to them:
they are as the last call left them. A part of the build that only runs tools goes well exactly if
all of them do. -/
namespace PlcModule

variable {σ α β : Type}

namespace FileTree

variable {t : FileTree} {calls : List Call}

/-- The files as the last of some calls left them. -/
def afterCalls (t : FileTree) (calls : List Call) : FileTree :=
  (calls.getLast?.map Call.after).getD t

@[simp] theorem afterCalls_nil (t : FileTree) : t.afterCalls [] = t := rfl

@[simp] theorem afterCalls_concat (t : FileTree) (calls : List Call) (call : Call) :
    t.afterCalls (calls ++ [call]) = call.after := by
  simp [afterCalls]

theorem afterCalls_append (t : FileTree) (calls more : List Call) :
    t.afterCalls (calls ++ more) = (t.afterCalls calls).afterCalls more := by
  rcases List.eq_nil_or_concat more with rfl | ⟨front, call, rfl⟩
  · simp
  · rw [List.concat_eq_append, ← List.append_assoc, afterCalls_concat, afterCalls_concat]

/-- What is so at first and after every call is so after the last. -/
theorem afterCalls_of_forall {P : FileTree → Prop} (start : P t) (each : ∀ c ∈ calls, P c.after) :
    P (t.afterCalls calls) := by
  rcases List.eq_nil_or_concat calls with rfl | ⟨front, call, rfl⟩
  · exact start
  · rw [List.concat_eq_append] at each ⊢
    rw [afterCalls_concat]
    exact each call (by simp)

end FileTree

/-- Between two states of a watched build these calls were made, which alone changed the files. -/
structure Driven (s s' : BuildState (σ × List Call)) (calls : List Call) : Prop where
  store : s'.store = s.store
  made : s'.calls = s.calls ++ calls
  tree : s'.tree = s.tree.afterCalls calls

namespace Driven

variable {s s' s'' : BuildState (σ × List Call)} {calls more : List Call}

theorem trans (h : Driven s s' calls) (h' : Driven s' s'' more) : Driven s s'' (calls ++ more) where
  store := h'.store.trans h.store
  made := by rw [h'.made, h.made, List.append_assoc]
  tree := by rw [h'.tree, h.tree, FileTree.afterCalls_append]

end Driven

/-- A step that runs tools and changes nothing itself. It goes well exactly if all its tools do. -/
def Step.OnlyTools (m : Step (σ × List Call) α) : Prop :=
  ∀ s, ∃ calls, Driven s (m s).2 calls ∧ ((∃ a, (m s).1 = .ok a) ↔ ∀ c ∈ calls, c.WentWell)

namespace Step.OnlyTools

variable {m : Step (σ × List Call) α} {next : α → Step (σ × List Call) β}

theorem bind (first : m.OnlyTools) (rest : ∀ a, (next a).OnlyTools) : (m >>= next).OnlyTools := by
  intro s
  obtain ⟨calls, driven, well⟩ := first s
  rcases bind_cases m next s with ⟨e, failed, eq⟩ | ⟨a, went, eq⟩
  · rw [eq]
    refine ⟨calls, driven, ?_⟩
    simpa [failed] using well
  · rw [eq]
    obtain ⟨more, driven', well'⟩ := rest a (m s).2
    refine ⟨calls ++ more, driven.trans driven', ?_⟩
    rw [well', List.forall_mem_append]
    exact (and_iff_right (well.mp ⟨a, went⟩)).symm

/-- A step that goes well and changes nothing. -/
theorem of_idle (h : ∀ s, ∃ a log, m s = (.ok a, { s with log })) : m.OnlyTools := by
  intro s
  obtain ⟨a, log, eq⟩ := h s
  rw [eq]
  exact ⟨[], ⟨rfl, (List.append_nil _).symm, rfl⟩, by simp⟩

theorem pure (a : α) : (Pure.pure a : Step (σ × List Call) α).OnlyTools :=
  of_idle fun s => ⟨a, s.log, rfl⟩

theorem info (text : String) : (Step.info text : Step (σ × List Call) Unit).OnlyTools :=
  of_idle fun _ => ⟨(), _, rfl⟩

theorem infoIf (wanted : Bool) (text : String) :
    (Step.infoIf wanted text : Step (σ × List Call) Unit).OnlyTools :=
  of_idle fun s => ⟨(), infoIf_apply wanted text s⟩

theorem ask_bind {f : BuildState (σ × List Call) → α} (rest : ∀ s, (next (f s)).OnlyTools) :
    (Step.ask f >>= next).OnlyTools :=
  fun s => rest s s

end Step.OnlyTools

namespace Builder

variable (b : Builder σ)

theorem runTool_onlyTools (c : Tool.Command) (step subject : String) :
    (b.watched.runTool c step subject).OnlyTools := by
  intro s
  obtain ⟨call, s', called, ⟨well, eq⟩ | ⟨bad, eq⟩⟩ := runTool_watched b c step subject s
  all_goals
    rw [eq]
    exact ⟨[call], ⟨called.store, called.watched, called.tree⟩, by simp [*]⟩

theorem compile_onlyTools (job : CompileJob) : (b.watched.compile job).OnlyTools :=
  .bind (.info _) fun _ => .ask_bind fun _ => .ask_bind fun _ => .bind (.infoIf _ _) fun _ =>
    .bind (runTool_onlyTools b _ _ _) fun _ => .bind (runTool_onlyTools b _ _ _) fun _ => .pure _

theorem compileAll_onlyTools (jobs : List CompileJob) : (b.watched.compileAll jobs).OnlyTools := by
  induction jobs with
  | nil => exact .pure _
  | cons job rest ih =>
    exact .bind (compile_onlyTools b job) fun _ => .bind ih fun _ => .pure _

theorem compileGroups_onlyTools (groups : List CompileGroup) :
    (b.watched.compileGroups groups).OnlyTools := by
  induction groups with
  | nil => exact .pure _
  | cons group rest ih =>
    exact .bind (.info _) fun _ => .bind (compileAll_onlyTools b group.jobs) fun _ =>
      .bind ih fun _ => .pure _

theorem link_onlyTools (objects : List Path) : (b.watched.link objects).OnlyTools :=
  .ask_bind fun _ => .bind (.info _) fun _ => runTool_onlyTools b _ _ _

variable {b}

/-- Once the glue sources are written compiling is left to the tools. -/
theorem compileProject_driven {input : BuildInput} {s : BuildState (σ × List Call)}
    (glued : (b.watched.writeSources input s).1 = .ok ()) :
    ∃ calls, Driven (b.watched.writeSources input s).2 (b.watched.compileProject input s).2 calls ∧
      ((∃ work, (b.watched.compileProject input s).1 = .ok work) ↔ ∀ c ∈ calls, c.WentWell) := by
  have rest : (Step.ask BuildState.store >>= fun store =>
      Step.ask (fun s => !s.tree.pathExists store.binary) >>= fun missing =>
        b.watched.compileGroups (CompileGroup.plan store.buildDir input.locations) >>= fun digests =>
          pure (⟨planJobs (CompileGroup.plan store.buildDir input.locations), digests,
            missing || !(planJobs (CompileGroup.plan store.buildDir input.locations)).isEmpty⟩ :
              Compiled)).OnlyTools :=
    .ask_bind fun _ => .ask_bind fun _ => .bind (compileGroups_onlyTools b _) fun _ => .pure _
  rw [compileProject, Step.bind_of_ok _ glued]
  exact rest _

end Builder
end PlcModule
