import PlcModule.Proofs.Build.Layout
import PlcModule.Proofs.Build.Steps

/-! How far the steps of a build reach. Tools are taken to touch at most the path that their
command is to make; then all that a build does until a new module stands ready at the staged
path stays within its working files, and the store is left alone. -/
namespace PlcModule

variable {σ : Type}

/-- A command of a toolchain, with the path that it is to make. -/
inductive Tool.Toolchain.Makes (t : Toolchain) : Command → Path → Prop where
  | compile (source object : Path) (cflags : String) :
      Makes t (t.compile source object cflags) object
  | rename (object : Path) : Makes t (t.rename object) object
  | link (objects : List Path) (image : Path) : Makes t (t.link objects image) image
  | package (module image : Path) : Makes t (t.package module image) module

/-- A runner whose tools touch at most what their commands are to make. What they answer, and
whether they make it, is left open. -/
def Runner.Tame (runner : Runner σ) (t : Tool.Toolchain) : Prop :=
  ∀ c p, t.Makes c p → ∀ (tree : FileTree) (r : σ),
    FileTree.Change {p.route tree.workingDirectory} ∅ tree (runner c tree r).2.1

/-- Clearing up touches intermediates alone. -/
theorem FileTree.removeIntermediates_change (t : FileTree) (dir : Path) :
    Change intermediateRoutes ∅ t (t.removeIntermediates dir).1 := by
  refine (removeNamed_change t dir _).mono ?_ le_rfl
  rintro l ⟨name, member, rfl⟩
  simp only [intermediates] at member
  split at member
  · simp only [List.mem_map, List.mem_filter, Bool.and_eq_true] at member
    obtain ⟨x, ⟨_, _, ends⟩, rfl⟩ := member
    exact (endsAsIntermediate ends).route_child _ _
  · cases member

namespace Builder

variable {b : Builder σ} {cwd : Route} {store : ModuleStore}

theorem runTool_within (tame : Runner.Tame b.runner b.toolchain) {c : Tool.Command} {p : Path}
    (makes : b.toolchain.Makes c p) (step subject : String) :
    (b.runTool c step subject).Within cwd store {p.route cwd} ∅ := by
  refine .bind (.infoIf _ _) fun _ => .bind ?_ fun answer => .bind (.need _) fun _ => .infoIf _ _
  intro s there _
  refine ⟨rfl, ?_⟩
  rw [← there]
  exact tame c p makes s.tree s.runnerState

theorem makeBuildDir_within :
    (makeBuildDir : Step σ Unit).Within cwd store ∅ (FileTree.wayTo cwd store.buildDir) := by
  rintro s rfl rfl
  have made := FileTree.makeDirectories_change s.tree s.store.buildDir
  simp only [makeBuildDir]
  split <;> (rename_i eq; rw [eq] at made; exact ⟨rfl, made⟩)

theorem writeText_within (path : Path) (content : String) :
    (writeText path content : Step σ Unit).Within cwd store {path.route cwd} ∅ := by
  refine .files ?_
  rintro t u rfl written
  exact FileTree.writeBytes_change written

theorem writeSources_within (b : Builder σ) (input : BuildInput) :
    (b.writeSources input).Within cwd store (ModuleStore.glueRoutes cwd store.buildDir)
      (FileTree.wayTo cwd store.buildDir) := by
  refine .ask_bind ?_
  rintro s rfl rfl
  refine .bind (makeBuildDir_within.mono (Set.empty_subset _) le_rfl) fun _ => ?_
  refine .bind (.need _) fun sources => ?_
  refine .bind ((writeText_within _ _).mono ?_ (Set.empty_subset _)) fun _ => ?_
  · simp [ModuleStore.glueRoutes]
  refine .bind ((writeText_within _ _).mono ?_ (Set.empty_subset _)) fun _ => ?_
  · simp [ModuleStore.glueRoutes]
  refine .files ?_
  rintro t u there copied
  refine (FileTree.copyFile_change copied).mono ?_ (Set.empty_subset _)
  simp [ModuleStore.glueRoutes, there]

theorem compile_within (tame : Runner.Tame b.runner b.toolchain) (job : CompileJob) :
    (b.compile job).Within cwd store {job.object.route cwd} ∅ :=
  .bind (.info _) fun _ => .ask_bind fun _ _ _ => .ask_bind fun _ _ _ =>
    .bind (.infoIf _ _) fun _ => .bind (runTool_within tame (.compile _ _ _) _ _) fun _ =>
      .bind (runTool_within tame (.rename _) _ _) fun _ => .pure _

theorem compileAll_within (tame : Runner.Tame b.runner b.toolchain) {jobs : List CompileJob}
    {touched : Set Route} (within : ∀ job ∈ jobs, job.object.route cwd ∈ touched) :
    (b.compileAll jobs).Within cwd store touched ∅ := by
  induction jobs with
  | nil => exact .pure _
  | cons job rest ih =>
    obtain ⟨first, others⟩ := List.forall_mem_cons.mp within
    exact .bind ((compile_within tame job).mono (by simpa using first) le_rfl) fun _ =>
      .bind (ih others) fun _ => .pure _

theorem compileGroups_within (tame : Runner.Tame b.runner b.toolchain)
    {groups : List CompileGroup} {touched : Set Route}
    (within : ∀ job ∈ planJobs groups, job.object.route cwd ∈ touched) :
    (b.compileGroups groups).Within cwd store touched ∅ := by
  induction groups with
  | nil => exact .pure _
  | cons group rest ih =>
    obtain ⟨first, others⟩ : (∀ job ∈ group.jobs, job.object.route cwd ∈ touched) ∧
        ∀ job ∈ planJobs rest, job.object.route cwd ∈ touched := by
      simpa [planJobs, or_imp, forall_and] using within
    exact .bind (.info _) fun _ => .bind (compileAll_within tame first) fun _ =>
      .bind (ih others) fun _ => .pure _

theorem compileProject_within (tame : Runner.Tame b.runner b.toolchain) (input : BuildInput) :
    (b.compileProject input).Within cwd store (store.workRoutes cwd)
      (FileTree.wayTo cwd store.buildDir) := by
  have glue : ModuleStore.glueRoutes cwd store.buildDir ⊆ store.workRoutes cwd :=
    fun _ at_ => .inl (.inl at_)
  refine .bind ((writeSources_within b input).mono glue le_rfl) fun _ => .ask_bind ?_
  rintro s - rfl
  refine .ask_bind fun _ _ _ => .bind ((compileGroups_within tame ?_).mono le_rfl
    (Set.empty_subset _)) fun _ => .pure _
  intro job planned
  obtain ⟨name, ends, object⟩ := CompileGroup.plan_object planned
  rw [object]
  exact .inr (ends.route_child cwd _)

theorem link_within (tame : Runner.Tame b.runner b.toolchain) (objects : List Path) :
    (b.link objects).Within cwd store {store.image.route cwd} ∅ := by
  refine .ask_bind ?_
  rintro s - rfl
  exact .bind (.info _) fun _ => runTool_within tame (.link _ _) _ _

theorem clearStaged_within :
    (clearStaged : Step σ Unit).Within cwd store {store.staged.route cwd} ∅ := by
  refine .ask_bind ?_
  rintro s - rfl
  refine .files ?_
  rintro t u rfl removed
  split at removed
  · cases removed; exact .refl _ _ _
  · exact (FileTree.removeFile_change removed).1

theorem orDropStaged_within {m : Step σ Unit}
    (h : m.Within cwd store {store.staged.route cwd} ∅) :
    (orDropStaged m).Within cwd store {store.staged.route cwd} ∅ := by
  intro s there held
  have ran := h s there held
  simp only [orDropStaged]
  split
  · rename_i eq; rw [eq] at ran; exact ran
  · rename_i e s' eq
    rw [eq] at ran
    have drop : (Step.tryFiles (·.removeFile s'.store.staged) : Step σ Unit).Within cwd store
        {store.staged.route cwd} ∅ := by
      refine .tryFiles ?_
      rintro t u rfl removed
      rw [show s'.store = store from ran.store.trans held] at removed
      exact (FileTree.removeFile_change removed).1
    have dropped := drop s' (ran.tree.cwd.trans there) (ran.store.trans held)
    exact ⟨dropped.store.trans ran.store, ran.tree.trans dropped.tree⟩

theorem stage_within (tame : Runner.Tame b.runner b.toolchain) :
    b.stage.Within cwd store {store.staged.route cwd} ∅ := by
  refine .ask_bind ?_
  rintro s - rfl
  exact .bind (.info _) fun _ => .bind (.info _) fun _ => .bind clearStaged_within fun _ =>
    .bind (orDropStaged_within (runTool_within tame (.package _ _) _ _)) fun _ => .need _

end Builder
end PlcModule
