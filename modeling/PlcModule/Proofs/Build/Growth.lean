import PlcModule.Proofs.Build.Steps

/-! What a build adds. Whatever its steps come to, they add to the log and to the commands that were
issued, and up to the end of the build the digests of sources are as they were. -/
namespace PlcModule

variable {σ α β : Type}

/-- From one state to another there is more to the log and more was issued; the build directory and
the digests of the sources are the same. -/
structure Grown (s s' : BuildState σ) : Prop where
  buildDir : s'.store.buildDir = s.store.buildDir
  digests : s'.store.digests = s.store.digests
  log : s.log <+: s'.log
  issued : s.issued <+: s'.issued

namespace Grown

variable {s s' s'' : BuildState σ}

theorem refl (s : BuildState σ) : Grown s s :=
  ⟨rfl, rfl, List.prefix_rfl, List.prefix_rfl⟩

theorem trans (h : Grown s s') (h' : Grown s' s'') : Grown s s'' :=
  ⟨h'.buildDir.trans h.buildDir, h'.digests.trans h.digests, h.log.trans h'.log,
    h.issued.trans h'.issued⟩

end Grown

namespace Step

theorem bind_pure_apply (m : Step σ α) (f : α → β) (s : BuildState σ) :
    (m >>= fun a => pure (f a)) s = ((m s).1.map f, (m s).2) := by
  rw [bind_apply]
  rcases m s with ⟨_ | _, s'⟩ <;> rfl

theorem infoIf_bind (wanted : Bool) (text : String) (next : Step σ α) (s : BuildState σ) :
    (infoIf wanted text >>= fun _ => next) s =
      next { s with log := s.log ++ if wanted then [.info text] else [] } := by
  cases wanted
  · simp only [Bool.false_eq_true, if_false, List.append_nil]
    rfl
  · rfl

/-- However it ends, a step only adds to what there was. -/
def Grows (m : Step σ α) : Prop :=
  ∀ s, Grown s (m s).2

namespace Grows

variable {m : Step σ α} {next : α → Step σ β}

/-- What a sequence does goes on from what its first step has done. -/
theorem after (m : Step σ α) (rest : ∀ a, (next a).Grows) (s : BuildState σ) :
    Grown (m s).2 ((m >>= next) s).2 := by
  rcases bind_cases m next s with ⟨e, -, eq⟩ | ⟨a, -, eq⟩
  · rw [eq]
    exact .refl _
  · rw [eq]
    exact rest a _

theorem bind (first : m.Grows) (rest : ∀ a, (next a).Grows) : (m >>= next).Grows :=
  fun s => (first s).trans (after m rest s)

theorem ask_bind {f : BuildState σ → α} (rest : ∀ s, (next (f s)).Grows) :
    (Step.ask f >>= next).Grows :=
  fun s => rest s s

theorem of_idle (h : ∀ s, ∃ tree, (m s).2 = { s with tree }) : m.Grows := by
  intro s
  obtain ⟨tree, eq⟩ := h s
  rw [eq]
  exact ⟨rfl, rfl, List.prefix_rfl, List.prefix_rfl⟩

theorem pure (a : α) : (Pure.pure a : Step σ α).Grows :=
  .refl

theorem fail (e : BuildError) : (Step.fail e : Step σ α).Grows :=
  .refl

theorem need (f : BuildState σ → Except BuildError α) : (Step.need f).Grows :=
  .refl

theorem info (text : String) : (Step.info text : Step σ Unit).Grows :=
  fun _ => ⟨rfl, rfl, List.prefix_append _ _, List.prefix_rfl⟩

theorem infoIf (wanted : Bool) (text : String) : (Step.infoIf wanted text : Step σ Unit).Grows := by
  cases wanted
  · exact .pure ()
  · exact .info text

theorem files (path : Path) (f : FileTree → Except Fault FileTree) :
    (Step.files path f : Step σ Unit).Grows := by
  refine of_idle fun s => ?_
  rw [Step.files]
  cases f s.tree with
  | ok tree => exact ⟨tree, rfl⟩
  | error cause => exact ⟨s.tree, rfl⟩

theorem issue (runner : Runner σ) (c : Tool.Command) : (Step.issue runner c).Grows :=
  fun _ => ⟨rfl, rfl, List.prefix_rfl, List.prefix_append _ _⟩

end Grows
end Step

namespace Builder

variable (b : Builder σ)

theorem writeSources_grows (input : BuildInput) : (b.writeSources input).Grows := by
  have made : (makeBuildDir : Step σ Unit).Grows := by
    refine .of_idle fun s => ?_
    rw [makeBuildDir]
    rcases s.tree.makeDirectories s.store.buildDir with ⟨tree, _ | _⟩ <;> exact ⟨tree, rfl⟩
  exact .ask_bind fun _ => .bind made fun _ => .bind (.need _) fun _ =>
    .bind (.files _ _) fun _ => .bind (.files _ _) fun _ => .files _ _

theorem runTool_grows (c : Tool.Command) (step subject : String) : (b.runTool c step subject).Grows :=
  .bind (.infoIf _ _) fun _ => .bind (.issue _ _) fun _ => .bind (.need _) fun _ => .infoIf _ _

theorem compile_grows (job : CompileJob) : (b.compile job).Grows :=
  .bind (.info _) fun _ => .ask_bind fun _ => .ask_bind fun _ => .bind (.infoIf _ _) fun _ =>
    .bind (b.runTool_grows _ _ _) fun _ => .bind (b.runTool_grows _ _ _) fun _ => .pure _

theorem compileAll_grows (jobs : List CompileJob) : (b.compileAll jobs).Grows := by
  induction jobs with
  | nil => exact .pure _
  | cons job rest ih => exact .bind (b.compile_grows job) fun _ => .bind ih fun _ => .pure _

theorem compileGroups_grows (groups : List CompileGroup) : (b.compileGroups groups).Grows := by
  induction groups with
  | nil => exact .pure _
  | cons group rest ih =>
    exact .bind (.info _) fun _ => .bind (b.compileAll_grows group.jobs) fun _ =>
      .bind ih fun _ => .pure _

theorem compileProject_grows (input : BuildInput) : (b.compileProject input).Grows :=
  .bind (b.writeSources_grows input) fun _ => .ask_bind fun _ => .ask_bind fun _ =>
    .bind (b.compileGroups_grows _) fun _ => .pure _

theorem stage_grows : b.stage.Grows := by
  have dropped {m : Step σ Unit} (h : m.Grows) : (orDropStaged m).Grows := by
    intro s
    rw [orDropStaged]
    have grown := h s
    split
    · rename_i eq
      rw [eq] at grown
      exact grown
    · rename_i eq
      rw [eq] at grown
      exact ⟨grown.buildDir, grown.digests, grown.log, grown.issued⟩
  exact .ask_bind fun _ => .bind (.info _) fun _ => .bind (.info _) fun _ =>
    .bind (.ask_bind fun _ => .files _ _) fun _ =>
      .bind (dropped (b.runTool_grows _ _ _)) fun _ => .need _

theorem updateModule_grows (work : Compiled) : (b.updateModule work).Grows := by
  have forgotten : (forgetHash : Step σ Unit).Grows :=
    fun _ => ⟨rfl, rfl, List.prefix_rfl, List.prefix_rfl⟩
  refine .ask_bind fun _ => ?_
  split
  · unfold makeModule
    split
    · exact .fail _
    · exact .bind (.ask_bind fun _ => .bind (.info _) fun _ => b.runTool_grows _ _ _) fun _ =>
        .bind b.stage_grows fun _ => .bind forgotten fun _ => .ask_bind fun _ =>
          .bind (.files _ _) fun _ => .info _
  · exact .info _

theorem recordHash_grows : (recordHash : Step σ String).Grows := by
  refine .bind (.need _) fun hash s => ?_
  rw [keepHash]
  cases s.store.writeHashFile s.tree hash <;> exact ⟨rfl, rfl, List.prefix_rfl, List.prefix_rfl⟩

theorem tellDone_grows (hash : String) : (b.tellDone hash).Grows :=
  .ask_bind fun _ => .bind (.info _) fun _ => .bind (.info _) fun _ => .info _

end Builder

end PlcModule
