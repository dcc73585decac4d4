import Mathlib.Data.List.Forall2
import PlcModule.Proofs.Build.Agreement

/-! What a build tells its user, and what its store remembers, has no part in what the build does.
A quiet build and a telling one are taken side by side: every step does the same in both, and the
quiet one tells some of the lines of the other, in their order. -/
namespace PlcModule

variable {σ α β : Type}

theorem sublistForall₂_append {R : α → β → Prop} {xs xs' : List α} {ys ys' : List β}
    (h : List.SublistForall₂ R xs ys) (h' : List.SublistForall₂ R xs' ys') :
    List.SublistForall₂ R (xs ++ xs') (ys ++ ys') := by
  rw [List.sublistForall₂_iff] at *
  obtain ⟨zs, each, sub⟩ := h
  obtain ⟨zs', each', sub'⟩ := h'
  exact ⟨zs ++ zs', List.rel_append each each', sub.append sub'⟩

/-- The line that tells how long a build took. -/
def LogLine.finished (style : Style) (elapsed : String) : LogLine :=
  .info (style.green "✓" ++ " Build finished in " ++ elapsed)

/-- Two lines are one and the same, or both tell how long a build took. -/
def LogLine.SameButTime (style : Style) (line line' : LogLine) : Prop :=
  line = line' ∨ ∃ elapsed elapsed', line = finished style elapsed ∧ line' = finished style elapsed'

/-- Two states have the same files, tools and build directory. What was told and issued before may
differ, and what their stores remember. -/
structure BuildState.Twins (s s' : BuildState σ) : Prop where
  tree : s'.tree = s.tree
  store : s'.store.reopened = s.store.reopened
  runnerState : s'.runnerState = s.runnerState

/-- Where a store has its files does not hang on what it remembers. -/
theorem BuildState.Twins.store_eq {s s' : BuildState σ} (twins : s.Twins s') (f : ModuleStore → α)
    (same : ∀ store, f store = f store.reopened) : f s'.store = f s.store :=
  ModuleStore.eq_of_reopened twins.store f same

/-- From twin states two steps do the same and end in twin states, and the first tells some of the
lines that the second tells. -/
def Step.Hushes (style : Style) (m m' : Step σ α) : Prop :=
  ∀ s s', s.Twins s' → (m' s').1 = (m s).1 ∧ (m s).2.Twins (m' s').2 ∧
    (∃ commands, (m s).2.issued = s.issued ++ commands ∧
      (m' s').2.issued = s'.issued ++ commands) ∧
    ∃ told told', (m s).2.log = s.log ++ told ∧ (m' s').2.log = s'.log ++ told' ∧
      List.SublistForall₂ (LogLine.SameButTime style) told told'

namespace Step.Hushes

variable {style : Style} {m m' : Step σ α} {next next' : α → Step σ β}

theorem bind (first : m.Hushes style m') (rest : ∀ a, (next a).Hushes style (next' a)) :
    (m >>= next).Hushes style (m' >>= next') := by
  intro s s' twins
  obtain ⟨result, twins₁, ⟨commands, issued, issued'⟩, told, told', log, log', some⟩ :=
    first s s' twins
  rcases bind_cases m next s with ⟨e, failed, eq⟩ | ⟨a, ok, eq⟩
  · rw [eq, bind_of_error next' (result.trans failed)]
    exact ⟨rfl, twins₁, ⟨commands, issued, issued'⟩, told, told', log, log', some⟩
  · rw [eq, bind_of_ok next' (result.trans ok)]
    obtain ⟨result₂, twins₂, ⟨more, issuing, issuing'⟩, then_, then', logging, logging', some'⟩ :=
      rest a _ _ twins₁
    refine ⟨result₂, twins₂, ⟨commands ++ more, ?_, ?_⟩, told ++ then_, told' ++ then', ?_, ?_,
      sublistForall₂_append some some'⟩
    · rw [issuing, issued, List.append_assoc]
    · rw [issuing', issued', List.append_assoc]
    · rw [logging, log, List.append_assoc]
    · rw [logging', log', List.append_assoc]

/-- Steps that neither tell anything nor run a tool. -/
theorem of_silent (h : ∀ s s', s.Twins s' → (m' s').1 = (m s).1 ∧ (m s).2.Twins (m' s').2 ∧
    ((m s).2.issued = s.issued ∧ (m' s').2.issued = s'.issued) ∧
    (m s).2.log = s.log ∧ (m' s').2.log = s'.log) : m.Hushes style m' := by
  intro s s' twins
  obtain ⟨result, after, ⟨issued, issued'⟩, log, log'⟩ := h s s' twins
  exact ⟨result, after, ⟨[], by simp [issued], by simp [issued']⟩, [], [], by simp [log],
    by simp [log'], .nil⟩

theorem pure (a : α) : (Pure.pure a : Step σ α).Hushes style (Pure.pure a) :=
  of_silent fun _ _ twins => ⟨rfl, twins, ⟨rfl, rfl⟩, rfl, rfl⟩

theorem fail (e : BuildError) : (Step.fail e : Step σ α).Hushes style (Step.fail e) :=
  of_silent fun _ _ twins => ⟨rfl, twins, ⟨rfl, rfl⟩, rfl, rfl⟩

theorem tell {line line' : LogLine} (same : LogLine.SameButTime style line line') :
    (Step.tell line : Step σ Unit).Hushes style (Step.tell line') :=
  fun _ _ twins => ⟨rfl, ⟨twins.tree, twins.store, twins.runnerState⟩,
    ⟨[], by simp [Step.tell], by simp [Step.tell]⟩, [line], [line'], rfl, rfl, .cons same .nil⟩

theorem info (text : String) : (Step.info text : Step σ Unit).Hushes style (Step.info text) :=
  tell (.inl rfl)

/-- What the quiet step tells, if anything, the other tells too. -/
theorem infoIf {wanted wanted' : Bool} (text : String) (more : wanted = true → wanted' = true) :
    (Step.infoIf wanted text : Step σ Unit).Hushes style (Step.infoIf wanted' text) := by
  cases wanted with
  | true => rw [more rfl]; exact .info text
  | false =>
    cases wanted' with
    | false => exact .pure ()
    | true =>
      exact fun s s' twins => ⟨rfl, ⟨twins.tree, twins.store, twins.runnerState⟩,
        ⟨[], by simp [Step.infoIf, Step.pure_apply], by simp [Step.infoIf, Step.info, Step.tell]⟩,
        [], [.info text], by simp [Step.infoIf, Step.pure_apply], rfl, .nil⟩

/-- What is asked may be answered differently, as long as what follows is hushed all the same. -/
theorem ask_bind {f f' : BuildState σ → α}
    (rest : ∀ s s', s.Twins s' → (next (f s)).Hushes style (next' (f' s'))) :
    (Step.ask f >>= next).Hushes style (Step.ask f' >>= next') :=
  fun s s' twins => rest s s' twins s s' twins

/-- A step that asks where the files of the module are is told the same. -/
theorem store_bind {next next' : ModuleStore → Step σ β}
    (same : ∀ store, next' store = next' store.reopened)
    (rest : ∀ store, (next store).Hushes style (next' store)) :
    (Step.ask BuildState.store >>= next).Hushes style (Step.ask BuildState.store >>= next') := by
  refine ask_bind fun s s' twins => ?_
  rw [twins.store_eq next' same]
  exact rest s.store

theorem need {f f' : BuildState σ → Except BuildError α}
    (same : ∀ s s', s.Twins s' → f' s' = f s) :
    (Step.need f).Hushes style (Step.need f') :=
  of_silent fun s s' twins => ⟨same s s' twins, twins, ⟨rfl, rfl⟩, rfl, rfl⟩

theorem files (path : Path) (f : FileTree → Except Fault FileTree) :
    (Step.files path f : Step σ Unit).Hushes style (Step.files path f) := by
  refine of_silent fun s s' twins => ?_
  simp only [Step.files, twins.tree]
  cases f s.tree with
  | error cause => exact ⟨rfl, twins, ⟨rfl, rfl⟩, rfl, rfl⟩
  | ok tree => exact ⟨rfl, ⟨rfl, twins.store, twins.runnerState⟩, ⟨rfl, rfl⟩, rfl, rfl⟩

theorem issue (runner : Runner σ) (c : Tool.Command) :
    (Step.issue runner c).Hushes style (Step.issue runner c) := by
  intro s s' twins
  simp only [Step.issue, twins.tree, twins.runnerState]
  exact ⟨trivial, ⟨rfl, twins.store, rfl⟩, ⟨[c], rfl, rfl⟩, [], [], by simp, by simp, .nil⟩

end Step.Hushes

namespace Builder

section

variable {style : Style}

theorem makeBuildDir_hushed : (makeBuildDir : Step σ Unit).Hushes style makeBuildDir := by
  refine .of_silent fun s s' twins => ?_
  simp only [makeBuildDir, twins.tree, twins.store_eq ModuleStore.buildDir fun _ => rfl]
  split
  · exact ⟨rfl, ⟨rfl, twins.store, twins.runnerState⟩, ⟨rfl, rfl⟩, rfl, rfl⟩
  · exact ⟨rfl, ⟨rfl, twins.store, twins.runnerState⟩, ⟨rfl, rfl⟩, rfl, rfl⟩

/-- What a step takes away after it has failed it takes away in both. -/
theorem orDropStaged_hushed {m m' : Step σ Unit} (h : m.Hushes style m') :
    (orDropStaged m).Hushes style (orDropStaged m') := by
  intro s s' twins
  obtain ⟨result, after, issued, told⟩ := h s s' twins
  simp only [orDropStaged]
  revert result after issued told
  rcases m s with ⟨r, t⟩
  rcases m' s' with ⟨r', t'⟩
  rintro rfl after issued told
  cases r' with
  | ok a => exact ⟨rfl, after, issued, told⟩
  | error e =>
    have tree : t'.tree = t.tree := after.tree
    have staged : t'.store.staged = t.store.staged :=
      after.store_eq ModuleStore.staged fun _ => rfl
    refine ⟨rfl, ⟨?_, after.store, after.runnerState⟩, issued, told⟩
    simp only [Step.tryFiles, tree, staged]

theorem clearStaged_hushed : (clearStaged : Step σ Unit).Hushes style clearStaged := by
  refine .ask_bind fun s s' twins => ?_
  rw [twins.store_eq ModuleStore.staged fun _ => rfl]
  exact .files _ _

theorem checkStaged_hushed : (checkStaged : Step σ Unit).Hushes style checkStaged := by
  refine .need fun s s' twins => ?_
  rw [twins.tree, twins.store_eq ModuleStore.staged fun _ => rfl]

theorem forgetHash_hushed : (forgetHash : Step σ Unit).Hushes style forgetHash := by
  refine .of_silent fun s s' twins =>
    ⟨rfl, ⟨?_, twins.store, twins.runnerState⟩, ⟨rfl, rfl⟩, rfl, rfl⟩
  simp only [forgetHash, twins.tree]
  exact twins.store_eq (·.dropHashFile s.tree) fun _ => rfl

theorem install_hushed : (install : Step σ Unit).Hushes style install :=
  .store_bind (fun _ => rfl) fun _ => .bind (.files _ _) fun _ => .info _

theorem recordHash_hushed : (recordHash : Step σ String).Hushes style recordHash := by
  refine .bind (.need fun s s' twins => ?_) fun hash => .of_silent fun s s' twins => ?_
  · rw [twins.tree, twins.store_eq ModuleStore.binary fun _ => rfl]
  · have written : s'.store.writeHashFile s'.tree hash = s.store.writeHashFile s.tree hash := by
      rw [twins.tree]
      exact twins.store_eq (·.writeHashFile s.tree hash) fun _ => rfl
    simp only [keepHash, written]
    cases s.store.writeHashFile s.tree hash with
    | error e => exact ⟨rfl, twins, ⟨rfl, rfl⟩, rfl, rfl⟩
    | ok tree => exact ⟨rfl, ⟨rfl, twins.store, twins.runnerState⟩, ⟨rfl, rfl⟩, rfl, rfl⟩

theorem recordDigests_hushed (digests : List (Path × String)) :
    (recordDigests digests : Step σ Unit).Hushes style (recordDigests digests) :=
  .of_silent fun _ _ twins =>
    ⟨rfl, ⟨twins.tree, twins.store, twins.runnerState⟩, ⟨rfl, rfl⟩, rfl, rfl⟩

end

/-- The builder that tells more or less than this one and takes another time. -/
def retold (b : Builder σ) (verbose : Bool) (elapsed : String) : Builder σ :=
  { b with verbose, elapsed }

section

variable {b : Builder σ} (quiet : b.verbose = false) (verbose : Bool) (elapsed : String)

include quiet

theorem runTool_hushed (c : Tool.Command) (step subject : String) :
    (b.runTool c step subject).Hushes b.style
      ((b.retold verbose elapsed).runTool c step subject) :=
  .bind (.infoIf _ (by simp [quiet])) fun _ => .bind (.issue _ _) fun _ =>
    .bind (.need fun _ _ _ => rfl) fun _ => .infoIf _ id

/-- What a store remembers of a source is told, if at all, and has no other use. -/
theorem compile_hushed (job : CompileJob) :
    (b.compile job).Hushes b.style ((b.retold verbose elapsed).compile job) := by
  refine .bind (.info _) fun _ => .ask_bind fun s s' twins => .ask_bind fun _ _ _ => ?_
  rw [twins.tree]
  exact .bind (.infoIf _ (by simp [quiet])) fun _ =>
    .bind (runTool_hushed quiet verbose elapsed _ _ _) fun _ =>
      .bind (runTool_hushed quiet verbose elapsed _ _ _) fun _ => .pure _

theorem compileAll_hushed (jobs : List CompileJob) :
    (b.compileAll jobs).Hushes b.style ((b.retold verbose elapsed).compileAll jobs) := by
  induction jobs with
  | nil => exact .pure _
  | cons job rest ih =>
    exact .bind (compile_hushed quiet verbose elapsed job) fun _ => .bind ih fun _ => .pure _

theorem compileGroups_hushed (groups : List CompileGroup) :
    (b.compileGroups groups).Hushes b.style ((b.retold verbose elapsed).compileGroups groups) := by
  induction groups with
  | nil => exact .pure _
  | cons group rest ih =>
    exact .bind (.info _) fun _ =>
      .bind (compileAll_hushed quiet verbose elapsed group.jobs) fun _ =>
        .bind ih fun _ => .pure _

theorem compileProject_hushed (input : BuildInput) :
    (b.compileProject input).Hushes b.style ((b.retold verbose elapsed).compileProject input) := by
  have glue : (b.writeSources input).Hushes b.style
      ((b.retold verbose elapsed).writeSources input) := by
    refine .ask_bind fun s s' twins => ?_
    rw [twins.store_eq ModuleStore.buildDir fun _ => rfl]
    refine .bind makeBuildDir_hushed fun _ => .bind (.need fun s s' twins => ?_) fun _ =>
      .bind (.files _ _) fun _ => .bind (.files _ _) fun _ => .files _ _
    rw [twins.tree]
    rfl
  refine .bind glue fun _ => .store_bind (fun _ => rfl) fun store =>
    .ask_bind fun s s' twins => ?_
  rw [twins.tree]
  exact .bind (compileGroups_hushed quiet verbose elapsed _) fun _ => .pure _

theorem stage_hushed : b.stage.Hushes b.style (b.retold verbose elapsed).stage :=
  .store_bind (fun _ => rfl) fun _ => .bind (.info _) fun _ => .bind (.info _) fun _ =>
    .bind clearStaged_hushed fun _ =>
      .bind (orDropStaged_hushed (runTool_hushed quiet verbose elapsed _ _ _)) fun _ =>
        checkStaged_hushed

theorem makeModule_hushed (objects : List Path) :
    (b.makeModule objects).Hushes b.style ((b.retold verbose elapsed).makeModule objects) := by
  unfold makeModule
  split
  · exact .fail _
  · exact .bind (.store_bind (fun _ => rfl) fun store => .bind (.info _) fun _ =>
      runTool_hushed quiet verbose elapsed _ _ _) fun _ =>
        .bind (stage_hushed quiet verbose elapsed) fun _ => .bind forgetHash_hushed fun _ =>
          install_hushed

theorem updateModule_hushed (work : Compiled) :
    (b.updateModule work).Hushes b.style ((b.retold verbose elapsed).updateModule work) := by
  refine .store_bind (fun _ => rfl) fun store => ?_
  split
  · exact makeModule_hushed quiet verbose elapsed _
  · exact .info _

theorem removeIntermediates_hushed :
    b.removeIntermediates.Hushes b.style (b.retold verbose elapsed).removeIntermediates := by
  refine .bind (.of_silent fun s s' twins => ?_) fun removed => .infoIf _ (by simp [quiet])
  rw [twins.tree, twins.store_eq ModuleStore.buildDir fun _ => rfl]
  exact ⟨rfl, ⟨rfl, twins.store, twins.runnerState⟩, ⟨rfl, rfl⟩, rfl, rfl⟩

theorem conclude_hushed (work : Compiled) :
    (b.conclude work).Hushes b.style ((b.retold verbose elapsed).conclude work) :=
  .store_bind (fun _ => rfl) fun _ =>
    .bind (removeIntermediates_hushed quiet verbose elapsed) fun _ =>
      .bind recordHash_hushed fun _ => .bind (recordDigests_hushed _) fun _ =>
        .bind (.store_bind (fun _ => rfl) fun _ => .bind (.info _) fun _ => .bind (.info _) fun _ =>
          .tell (.inr ⟨b.elapsed, elapsed, rfl, rfl⟩)) fun _ => .pure _

/-- A quiet build does what a telling one does, and tells some of the same lines. -/
theorem tryBuild_hushed (input : BuildInput) :
    (b.tryBuild input).Hushes b.style ((b.retold verbose elapsed).tryBuild input) :=
  .bind (compileProject_hushed quiet verbose elapsed input) fun work =>
    .bind (updateModule_hushed quiet verbose elapsed work) fun _ =>
      conclude_hushed quiet verbose elapsed work

end

/-- Two builders that differ in what they tell both do what a quiet one does. -/
theorem tryBuild_retold (b : Builder σ) (verbose : Bool) (elapsed : String) (input : BuildInput)
    {s s' : BuildState σ} (twins : s.Twins s') :
    ((b.retold verbose elapsed).tryBuild input s').1 = (b.tryBuild input s).1 ∧
      (b.tryBuild input s).2.Twins ((b.retold verbose elapsed).tryBuild input s').2 := by
  let quiet := b.retold false b.elapsed
  have alone : s.Twins s := ⟨rfl, rfl, rfl⟩
  obtain ⟨result, after, -⟩ := tryBuild_hushed (b := quiet) rfl b.verbose b.elapsed input s s alone
  obtain ⟨result', after', -⟩ := tryBuild_hushed (b := quiet) rfl verbose elapsed input s s' twins
  exact ⟨result'.trans result.symm, after'.tree.trans after.tree.symm,
    after'.store.trans after.store.symm, after'.runnerState.trans after.runnerState.symm⟩

/-- The calls of a build follow its plan. -/
theorem tryBuild_performed (b : Builder σ) (input : BuildInput) (s : BuildState σ) :
    Performed b.runner (BuildPlan.tasks b.toolchain s.store input.locations) s.watched
      (b.watched.tryBuild input s.watched).2 (b.calls input s) (b.tryBuild input s).1 := by
  obtain ⟨-, calls, performed⟩ := tryBuild_performs b input s.watched rfl
  have made : b.calls input s = calls := by rw [Builder.calls, performed.watched]; rfl
  rw [made, congrArg Prod.fst (tryBuild_watched b input s)]
  exact performed

/-- What a builder is to tell, and what its store remembers of the module and of its sources, makes
no difference to what it does: the same tools are called, with the same answers, the same files are
left and the result is the same. A build that ends well has called all tools of its plan. A builder
that is not verbose tells some of the lines that any other would tell, in their order. -/
theorem tryBuild_whatever_told (b : Builder σ) (verbose : Bool) (elapsed : String)
    (input : BuildInput) (s : BuildState σ) (cachedHash : Option String) (digests : SourceDigests)
    (log : Log) (issued : List Tool.Command) :
    let b' := b.retold verbose elapsed
    let s' := { s with store := { s.store with cachedHash, digests }, log, issued }
    let commands := (b.calls input s).map Call.command
    (b'.tryBuild input s').1 = (b.tryBuild input s).1 ∧
    (b'.tryBuild input s').2.tree = (b.tryBuild input s).2.tree ∧
    (b'.tryBuild input s').2.runnerState = (b.tryBuild input s).2.runnerState ∧
    b'.calls input s' = b.calls input s ∧
    (b.tryBuild input s).2.issued = s.issued ++ commands ∧
    (b'.tryBuild input s').2.issued = issued ++ commands ∧
    (∀ report, (b.tryBuild input s).1 = .ok report →
      commands = (BuildPlan.tasks b.toolchain s.store input.locations).map Task.command) ∧
    (b.verbose = false → ∃ told told', (b.tryBuild input s).2.log = s.log ++ told ∧
      (b'.tryBuild input s').2.log = log ++ told' ∧
      List.SublistForall₂ (LogLine.SameButTime b.style) told told') := by
  intro b' s' commands
  have twins : s.Twins s' := ⟨rfl, rfl, rfl⟩
  have watched : s.watched.Twins s'.watched := ⟨rfl, rfl, rfl⟩
  obtain ⟨result, after⟩ := tryBuild_retold b verbose elapsed input twins
  obtain ⟨-, seen⟩ := tryBuild_retold b.watched verbose elapsed input watched
  have calls : b'.calls input s' = b.calls input s := congrArg Prod.snd seen.runnerState
  have performed := tryBuild_performed b input s
  have performed' := tryBuild_performed b' input s'
  have issued₁ : (b.tryBuild input s).2.issued = s.issued ++ commands := by
    rw [tryBuild_watched]
    exact performed.issued
  have issued₂ : (b'.tryBuild input s').2.issued = issued ++ commands := by
    rw [tryBuild_watched]
    change _ = issued ++ (b.calls input s).map Call.command
    rw [← calls]
    exact performed'.issued
  refine ⟨result, after.tree, after.runnerState, calls, issued₁, issued₂, fun report built => ?_,
    fun quiet => ?_⟩
  · have follows := performed.follows
    rw [built] at follows
    exact follows.commands_prefix.eq_of_length (by simp [follows.length_of_ok])
  · obtain ⟨-, -, -, told, told', log, log', some⟩ :=
      tryBuild_hushed quiet verbose elapsed input s s' twins
    exact ⟨told, told', log, log', some⟩

end Builder
end PlcModule
