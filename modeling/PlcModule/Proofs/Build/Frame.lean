import PlcModule.Proofs.Build.Clearance
import PlcModule.Proofs.Build.Installation

/-! The frame of a build. Every step changes at most the files of the store, the objects of the
compile commands that it has issued and, at the end, the intermediates that it removes; directories
are made only on the way to the build directory. So all else is as it was, however a build ends.
This is said of routes; trees have no links, by which a file that is changed could be another one
too. -/
namespace PlcModule

variable {σ α β : Type}

/-- The names of a route hold no separator. -/
def SeparatedRoute (l : Route) : Prop :=
  ∀ name ∈ l, '/' ∉ name.toList

instance (l : Route) : Decidable (SeparatedRoute l) :=
  inferInstanceAs (Decidable (∀ name ∈ l, '/' ∉ name.toList))

theorem SeparatedRoute.onward {l : Route} {name : String} (h : SeparatedRoute l)
    (slash : '/' ∉ name.toList) : SeparatedRoute (onward l name) := by
  unfold PlcModule.onward
  split
  · exact h
  split
  · exact fun n at_ => h n (List.dropLast_subset l at_)
  · intro n at_
    rcases List.mem_append.mp at_ with before | last
    · exact h n before
    · exact List.mem_singleton.mp last ▸ slash

/-- The names that a path spells are those between its separators. -/
theorem Path.route_separated {cwd : Route} (h : SeparatedRoute cwd) (p : Path) :
    SeparatedRoute (p.route cwd) := by
  have names : ∀ name ∈ FileTree.pathNames p, '/' ∉ name.toList := by
    intro name member
    obtain ⟨piece, cut, rfl⟩ := List.mem_map.mp member
    simpa using Text.notMem_of_mem_splitAt (List.mem_filter.mp cut).1
  have start : SeparatedRoute (if p.isAbsolute then [] else cwd) := by
    split
    · simp [SeparatedRoute]
    · exact h
  unfold route
  generalize (if p.isAbsolute then [] else cwd) = l at start
  generalize FileTree.pathNames p = more at names
  induction more generalizing l with
  | nil => exact start
  | cons name more ih =>
    obtain ⟨first, others⟩ := List.forall_mem_cons.mp names
    exact ih _ (start.onward first) others

namespace FileTree

variable {t u : FileTree} {touched made : Set Route}

/-- A tree whose names hold no separator, which no host lets into a name. -/
structure Separated (t : FileTree) : Prop where
  cwd : SeparatedRoute t.workingDirectory
  entries : ∀ x ∈ t.entries, SeparatedRoute x.1

theorem Separated.of_find {l : Route} {e : Entry} (h : t.Separated) (there : t.find? l = some e) :
    SeparatedRoute l := by
  by_cases root : l = []
  · simp [root, SeparatedRoute]
  · rw [find?, if_neg root, ← mem_entries t.distinct] at there
    exact h.entries _ there

/-- What clearing up takes from a separated tree are files right in the directory. -/
theorem Separated.taken {dir : Path} {l : Route} (h : t.Separated)
    (gone : l ∈ t.takenNamed dir (t.intermediates dir)) :
    ∃ name, isIntermediateName name = true ∧ l = dir.route t.workingDirectory ++ [name] ∧
      ∃ content x, t.find? l = some (.file content x) := by
  obtain ⟨name, listed, reaches, -⟩ := gone
  obtain ⟨-, ends, e, there, file⟩ := mem_intermediates.mp listed
  have slash : '/' ∉ name.toList := h.of_find there name (by simp)
  have here : l = dir.route t.workingDirectory ++ [name] := by
    rw [reaches.route_eq, Path.route_child ((endsAsIntermediate ends).plain slash)]
  refine ⟨name, ends, here, ?_⟩
  cases e with
  | file content x => exact ⟨content, x, here ▸ there⟩
  | directory => cases file
  | device => cases file

/-- Changes at separated routes keep a tree separated. -/
theorem Change.separated (change : Change touched made t u) (h : t.Separated)
    (within : ∀ l ∈ touched ∪ made, SeparatedRoute l) : u.Separated := by
  refine ⟨change.cwd ▸ h.cwd, fun ⟨l, e⟩ member => ?_⟩
  by_cases root : l = []
  · simp [root, SeparatedRoute]
  rw [mem_entries u.distinct] at member
  have there : u.find? l = some e := by rw [find?, if_neg root, member]
  by_cases on : l ∈ touched
  · exact within l (.inl on)
  · rcases change.find l on with same | ⟨new, -⟩
    · exact h.of_find (same.symm.trans there)
    · exact within l (.inr new)

end FileTree

/-- Where the files of a store are. -/
def ModuleStore.fileRoutes (cwd : Route) (s : ModuleStore) : Set Route :=
  {l | ∃ p ∈ s.files, l = p.route cwd}

/-- Where the objects of the compile commands among some calls are. -/
def Call.objectRoutes (t : Tool.Toolchain) (cwd : Route) (calls : List Call) : Set Route :=
  {l | ∃ call ∈ calls, ∃ source object cflags,
    call.command = t.compile source object cflags ∧ l = object.route cwd}

theorem Call.objectRoutes_mono {calls more : List Call} (within : calls ⊆ more)
    (t : Tool.Toolchain) (cwd : Route) : objectRoutes t cwd calls ⊆ objectRoutes t cwd more := by
  rintro l ⟨call, made, rest⟩
  exact ⟨call, within made, rest⟩

/-- Between two states of a watched build these calls were made, and the files differ within the
frame of the build. -/
structure Framed (t : Tool.Toolchain) (cwd : Route) (store : ModuleStore)
    (s s' : BuildState (σ × List Call)) (calls : List Call) : Prop where
  made : s'.calls = s.calls ++ calls
  kept : s'.store.reopened = store
  tree : FileTree.Change (store.fileRoutes cwd ∪ Call.objectRoutes t cwd calls)
    (FileTree.wayTo cwd store.buildDir) s.tree s'.tree

theorem Framed.trans {t : Tool.Toolchain} {cwd : Route} {store : ModuleStore}
    {s s' s'' : BuildState (σ × List Call)} {calls more : List Call}
    (h : Framed t cwd store s s' calls) (h' : Framed t cwd store s' s'' more) :
    Framed t cwd store s s'' (calls ++ more) where
  made := by rw [h'.made, h.made, List.append_assoc]
  kept := h'.kept
  tree := by
    have first := Call.objectRoutes_mono (List.subset_append_left calls more) t cwd
    have second := Call.objectRoutes_mono (List.subset_append_right calls more) t cwd
    exact (h.tree.mono (Set.union_subset_union_right _ first) le_rfl).trans
      (h'.tree.mono (Set.union_subset_union_right _ second) le_rfl)

/-- Taken in a working directory and with a store, a step stays in the frame, however it ends. -/
def Step.Frames (t : Tool.Toolchain) (cwd : Route) (store : ModuleStore)
    (m : Step (σ × List Call) α) : Prop :=
  ∀ s : BuildState (σ × List Call), s.tree.workingDirectory = cwd → s.store.reopened = store →
    ∃ calls, Framed t cwd store s (m s).2 calls

namespace Step.Frames

variable {t : Tool.Toolchain} {cwd : Route} {store : ModuleStore} {m : Step (σ × List Call) α}
  {next : α → Step (σ × List Call) β}

/-- What follows is taken where the first step has left off, which may be told of it. -/
theorem bind_answer (first : m.Frames t cwd store)
    (rest : ∀ s a, (m s).1 = .ok a → (m s).2.tree.workingDirectory = cwd →
      (m s).2.store.reopened = store → ∃ calls, Framed t cwd store (m s).2 (next a (m s).2).2 calls) :
    (m >>= next).Frames t cwd store := by
  intro s there held
  obtain ⟨calls, before⟩ := first s there held
  rcases bind_cases m next s with ⟨e, -, eq⟩ | ⟨a, went, eq⟩
  · rw [eq]
    exact ⟨calls, before⟩
  · rw [eq]
    obtain ⟨more, after⟩ := rest s a went (before.tree.cwd.trans there) before.kept
    exact ⟨calls ++ more, before.trans after⟩

theorem bind (first : m.Frames t cwd store) (rest : ∀ a, (next a).Frames t cwd store) :
    (m >>= next).Frames t cwd store :=
  first.bind_answer fun s a _ there held => rest a (m s).2 there held

theorem ask_bind {f : BuildState (σ × List Call) → α}
    (rest : ∀ s, s.store.reopened = store → (next (f s)).Frames t cwd store) :
    (Step.ask f >>= next).Frames t cwd store :=
  fun s there held => rest s held s there held

/-- A step that performs a plan on the files of the store alone. -/
theorem of_performs {runner : Runner σ} {plan : List Task} (performs : m.Performs runner store plan)
    (quiet : ∀ s : BuildState (σ × List Call), s.tree.workingDirectory = cwd →
      s.store.reopened = store →
      FileTree.Change (store.fileRoutes cwd) (FileTree.wayTo cwd store.buildDir) s.tree (m s).2.tree) :
    m.Frames t cwd store := by
  intro s there held
  obtain ⟨kept, calls, performed⟩ := performs s held
  exact ⟨calls, performed.watched, kept,
    (quiet s there held).mono Set.subset_union_left le_rfl⟩

theorem of_idle (h : ∀ s, ∃ a log, m s = (.ok a, { s with log })) : m.Frames t cwd store := by
  intro s _ held
  obtain ⟨a, log, eq⟩ := h s
  rw [eq]
  exact ⟨[], (List.append_nil _).symm, held, .refl _ _ _⟩

theorem pure (a : α) : (Pure.pure a : Step (σ × List Call) α).Frames t cwd store :=
  of_idle fun s => ⟨a, s.log, rfl⟩

theorem info (text : String) : (Step.info text : Step (σ × List Call) Unit).Frames t cwd store :=
  of_idle fun _ => ⟨(), _, rfl⟩

end Step.Frames

namespace Builder

variable {b : Builder σ} {cwd : Route} {store : ModuleStore}

theorem fileRoutes_mem {s : ModuleStore} {p : Path} (among : p ∈ s.files) (cwd : Route) :
    p.route cwd ∈ s.reopened.fileRoutes cwd :=
  ⟨p, among, rfl⟩

theorem writeSources_frames (b : Builder σ) (input : BuildInput) :
    (b.watched.writeSources input).Frames b.toolchain cwd store := by
  refine .of_performs (writeSources_performs b input) ?_
  rintro s there rfl
  refine (writeSources_within b.watched input s there rfl).tree.mono ?_ le_rfl
  rintro l (rfl | rfl | rfl)
  all_goals exact fileRoutes_mem (by simp [ModuleStore.files]) cwd

/-- The object is the one of the compile command, which is issued before any other. -/
theorem compile_frames (tame : b.runner.Tame b.toolchain) (job : CompileJob) :
    (b.watched.compile job).Frames b.toolchain cwd store := by
  intro s there held
  obtain ⟨calls, driven, -⟩ := compile_onlyTools b job s
  obtain ⟨-, made, performed⟩ := compile_performs b job s rfl
  obtain rfl : calls = made := List.append_cancel_left (driven.made.symm.trans performed.watched)
  refine ⟨calls, driven.made, driven.store ▸ held, ?_⟩
  cases calls with
  | nil =>
    rw [driven.tree]
    exact .refl _ _ _
  | cons call rest =>
    have command : call.command = b.toolchain.compile job.unit.file job.object job.unit.cflags := by
      obtain ⟨rest, whole⟩ := performed.follows.commands_prefix
      exact (List.cons.inj whole).1
    refine (compile_within (b := b.watched) tame.watched job s there rfl).tree.mono ?_
      (Set.empty_subset _)
    rintro l rfl
    exact .inr ⟨call, List.mem_cons_self, _, _, _, command, rfl⟩

theorem compileAll_frames (tame : b.runner.Tame b.toolchain) (jobs : List CompileJob) :
    (b.watched.compileAll jobs).Frames b.toolchain cwd store := by
  induction jobs with
  | nil => exact .pure _
  | cons job rest ih =>
    exact .bind (compile_frames tame job) fun _ => .bind ih fun _ => .pure _

theorem compileGroups_frames (tame : b.runner.Tame b.toolchain) (groups : List CompileGroup) :
    (b.watched.compileGroups groups).Frames b.toolchain cwd store := by
  induction groups with
  | nil => exact .pure _
  | cons group rest ih =>
    exact .bind (.info _) fun _ => .bind (compileAll_frames tame group.jobs) fun _ =>
      .bind ih fun _ => .pure _

theorem compileProject_frames (tame : b.runner.Tame b.toolchain) (input : BuildInput) :
    (b.watched.compileProject input).Frames b.toolchain cwd store :=
  .bind (writeSources_frames b input) fun _ => .ask_bind fun _ _ => .ask_bind fun _ _ =>
    .bind (compileGroups_frames tame _) fun _ => .pure _

theorem link_frames (tame : b.runner.Tame b.toolchain) (objects : List Path) :
    (b.watched.link objects).Frames b.toolchain cwd store := by
  refine .of_performs (link_performs b objects) ?_
  rintro s there rfl
  refine (link_within (b := b.watched) tame.watched objects s there rfl).tree.mono ?_
    (Set.empty_subset _)
  rintro l rfl
  exact fileRoutes_mem (by simp [ModuleStore.files]) cwd

theorem stage_frames (tame : b.runner.Tame b.toolchain) :
    b.watched.stage.Frames b.toolchain cwd store := by
  refine .of_performs (stage_performs b) ?_
  rintro s there rfl
  refine (stage_within (b := b.watched) tame.watched s there rfl).tree.mono ?_ (Set.empty_subset _)
  rintro l rfl
  exact fileRoutes_mem (by simp [ModuleStore.files]) cwd

/-- Replacing the module touches the record, the staged path and the module itself. -/
theorem replace_framed (t : Tool.Toolchain) {s : BuildState (σ × List Call)}
    (plain : s.tree.find? (s.store.staged.route s.tree.workingDirectory) ≠ some .directory) :
    Framed t s.tree.workingDirectory s.store.reopened s
      ((forgetHash >>= fun _ => install : Step (σ × List Call) Unit) s).2 [] := by
  obtain ⟨store, runnerState, ends⟩ := replace_cases s
  generalize (forgetHash >>= fun _ => install : Step (σ × List Call) Unit) s = r at *
  have own {p : Path} (among : p ∈ s.store.files) :
      p.route s.tree.workingDirectory ∈ s.store.reopened.fileRoutes s.tree.workingDirectory ∪
        Call.objectRoutes t s.tree.workingDirectory [] := .inl (fileRoutes_mem among _)
  have dropped : FileTree.Change _ (FileTree.wayTo s.tree.workingDirectory s.store.buildDir) _ _ :=
    (s.store.dropHashFile_change s.tree).mono
      (Set.singleton_subset_iff.mpr (own (by simp [ModuleStore.files]))) (Set.empty_subset _)
  have made : r.2.calls = s.calls ++ [] := by simp [BuildState.calls, runnerState]
  refine ⟨made, store ▸ rfl, ?_⟩
  rcases ends with ⟨cause, -, -, tree⟩ | ⟨moved, -⟩
  · rw [tree]
    exact dropped
  · have same := s.store.dropHashFile_same s.tree
    have plain : (s.store.dropHashFile s.tree).find?
        (s.store.staged.route (s.store.dropHashFile s.tree).workingDirectory) ≠ some .directory := by
      rw [same.cwd]
      exact mt (same.directory _).mp plain
    have move := FileTree.rename_change moved plain
    rw [same.cwd] at move
    refine dropped.trans (move.mono ?_ (Set.empty_subset _))
    rintro l (rfl | rfl)
    all_goals exact own (by simp [ModuleStore.files])

/-- A module that was staged well is a file. -/
theorem stage_ready {s : BuildState (σ × List Call)} {a : Unit}
    (went : (b.watched.stage s).1 = .ok a) :
    (b.watched.stage s).2.store.staged = s.store.staged ∧
      (b.watched.stage s).2.tree.isFile s.store.staged = true := by
  have kept : (b.watched.stage s).2.store.reopened = s.store.reopened := (stage_performs b s rfl).1
  refine ⟨ModuleStore.eq_of_reopened kept ModuleStore.staged fun _ => rfl, ?_⟩
  rcases ran : b.watched.stage s with ⟨r, s'⟩
  obtain rfl : r = .ok a := by rw [← went, ran]
  rcases stage_ends ran with ⟨cause, -, -, lost, -⟩ |
    ⟨call, -, -, ⟨packages, -, tree⟩ | ⟨-, ⟨e, lost⟩, -⟩⟩
  · cases lost
  · rw [tree]
    exact packages.2.2
  · cases lost

theorem stageAndInstall_frames (tame : b.runner.Tame b.toolchain) :
    (b.watched.stage >>= fun _ => forgetHash >>= fun _ => install).Frames b.toolchain cwd store := by
  refine (stage_frames tame).bind_answer fun s a went there held => ⟨[], ?_⟩
  obtain ⟨staged, ready⟩ := stage_ready went
  obtain ⟨content, x, file⟩ := FileTree.isFile_find ready
  subst there held
  refine replace_framed b.toolchain ?_
  rw [staged, file]
  simp

theorem updateModule_frames (tame : b.runner.Tame b.toolchain) (work : Compiled) :
    (b.watched.updateModule work).Frames b.toolchain cwd store := by
  intro s there held
  rw [updateModule_apply]
  split
  swap
  · exact Step.Frames.info _ s there held
  cases work.jobs.map CompileJob.object with
  | nil => exact ⟨[], (List.append_nil _).symm, held, .refl _ _ _⟩
  | cons object rest =>
    rw [makeModule_cons]
    exact (link_frames tame (object :: rest)).bind (fun _ => stageAndInstall_frames tame) s there held

end Builder

/-- What a build can have done at a route where the files differ: made a directory on the way to
the build directory, written a file of the store, compiled an object, or removed an intermediate
of the build directory. -/
inductive Affects (t : Tool.Toolchain) (store : ModuleStore) (calls : List Call)
    (before after : FileTree) (l : Route) : Prop where
  | made (onWay : l ∈ FileTree.wayTo before.workingDirectory store.buildDir)
    (none : before.find? l = none) (new : after.find? l = some .directory)
  | file (p : Path) (among : p ∈ store.files) (here : l = p.route before.workingDirectory)
  | object (call : Call) (source object : Path) (cflags : String) (issued : call ∈ calls)
    (command : call.command = t.compile source object cflags)
    (here : l = object.route before.workingDirectory)
  | removed (name : String) (ends : FileTree.isIntermediateName name = true)
    (here : l = store.buildDir.route before.workingDirectory ++ [name])
    (file : ∃ content x, before.find? l = some (.file content x)) (gone : after.find? l = none)

theorem Affects.of_mem {t : Tool.Toolchain} {store : ModuleStore} {calls : List Call}
    {before : FileTree} {l : Route} (after : FileTree)
    (on : l ∈ store.fileRoutes before.workingDirectory ∪
      Call.objectRoutes t before.workingDirectory calls) : Affects t store calls before after l := by
  rcases on with ⟨p, among, here⟩ | ⟨call, issued, source, object, cflags, command, here⟩
  · exact .file p among here
  · exact .object call source object cflags issued command here

theorem Framed.affects {t : Tool.Toolchain} {s s' : BuildState (σ × List Call)} {calls : List Call}
    (h : Framed t s.tree.workingDirectory s.store.reopened s s' calls) {l : Route}
    (differs : s'.tree.find? l ≠ s.tree.find? l) : Affects t s.store calls s.tree s'.tree l := by
  by_cases on : l ∈ s.store.fileRoutes s.tree.workingDirectory ∪
      Call.objectRoutes t s.tree.workingDirectory calls
  · exact .of_mem _ on
  · rcases h.tree.find l on with same | ⟨onWay, none, new⟩
    · exact absurd same differs
    · exact .made onWay none new

/-- The frame is within names that paths can spell. -/
theorem Framed.separated {t : Tool.Toolchain} {s s' : BuildState (σ × List Call)}
    {calls : List Call} (h : Framed t s.tree.workingDirectory s.store.reopened s s' calls)
    (separated : s.tree.Separated) : s'.tree.Separated := by
  refine h.tree.separated separated ?_
  rintro l ((⟨p, -, rfl⟩ | ⟨-, -, -, object, -, -, rfl⟩) | ⟨q, -, rfl⟩)
  all_goals exact Path.route_separated separated.cwd _

namespace Builder

variable {b : Builder σ}

/-- Concluding a build that was within the frame removes intermediates and writes the record. -/
theorem conclude_affects (b : Builder σ) (work : Compiled) {s s₁ : BuildState (σ × List Call)}
    {calls : List Call}
    (framed : Framed b.toolchain s.tree.workingDirectory s.store.reopened s s₁ calls)
    (separated : s.tree.Separated) {l : Route}
    (differs : (b.watched.conclude work s₁).2.tree.find? l ≠ s.tree.find? l) :
    Affects b.toolchain s.store calls s.tree (b.watched.conclude work s₁).2.tree l := by
  have paths := ModuleStore.eq_of_reopened framed.kept (fun s => (s.buildDir, s.hashFile))
    fun _ => rfl
  obtain ⟨dir, hashFile⟩ := Prod.mk.inj paths
  have cleared : FileTree.Without _ s₁.tree (s₁.tree.removeIntermediates s₁.store.buildDir).1 :=
    FileTree.removeNamed_without _ _ _
  obtain ⟨-, recorded⟩ := (conclude_ends b.watched work s₁).2.leaves
  rw [cleared.cwd, framed.tree.cwd, hashFile] at recorded
  by_cases on : l ∈ s.store.fileRoutes s.tree.workingDirectory ∪
      Call.objectRoutes b.toolchain s.tree.workingDirectory calls
  · exact .of_mem _ on
  have off : l ∉ ({s.store.hashFile.route s.tree.workingDirectory} : Set Route) := by
    rintro rfl
    exact on (.inl ⟨_, by simp [ModuleStore.files], rfl⟩)
  have left := recorded.find_eq off
  have before := framed.tree.find l on
  by_cases taken : l ∈ s₁.tree.takenNamed s₁.store.buildDir (s₁.tree.intermediates s₁.store.buildDir)
  · obtain ⟨name, ends, here, content, x, file⟩ := (framed.separated separated).taken taken
    rw [framed.tree.cwd, dir] at here
    refine .removed name ends here ⟨content, x, ?_⟩ (left.trans (cleared.none l taken))
    rcases before with same | ⟨-, -, new⟩
    · rw [← same, file]
    · rw [file] at new
      cases new
  · rw [cleared.kept l taken] at left
    rcases before with same | ⟨onWay, none, new⟩
    · exact absurd (left.trans same) differs
    · exact .made onWay none (left.trans new)

theorem conclude_separated (b : Builder σ) (work : Compiled) {s : BuildState (σ × List Call)}
    (separated : s.tree.Separated) : (b.watched.conclude work s).2.tree.Separated := by
  have cleared : FileTree.Change _ ∅ s.tree (s.tree.removeIntermediates s.store.buildDir).1 :=
    FileTree.removeNamed_change _ _ _
  obtain ⟨-, recorded⟩ := (conclude_ends b.watched work s).2.leaves
  have between := cleared.separated separated (by
    rintro l (⟨name, -, rfl⟩ | none)
    · exact Path.route_separated separated.cwd _
    · exact absurd none (Set.notMem_empty l))
  refine recorded.separated between ?_
  rintro l (rfl | none)
  · exact Path.route_separated between.cwd _
  · exact absurd none (Set.notMem_empty l)

theorem tryBuild_affects (tame : b.runner.Tame b.toolchain) (input : BuildInput)
    {s : BuildState (σ × List Call)} (start : s.calls = []) (separated : s.tree.Separated) :
    let s' := (b.watched.tryBuild input s).2
    s'.tree.workingDirectory = s.tree.workingDirectory ∧ s'.tree.Separated ∧
    ∀ l, s'.tree.find? l ≠ s.tree.find? l →
      Affects b.toolchain s.store s'.calls s.tree s'.tree l := by
  intro s'
  have prepared : (b.watched.compileProject input >>= b.watched.updateModule).Frames b.toolchain
      s.tree.workingDirectory s.store.reopened :=
    .bind (compileProject_frames tame input) fun work => updateModule_frames tame work
  obtain ⟨calls, framed⟩ := prepared s rfl rfl
  have ends := tryBuild_prepared b.watched input s
  simp only at ends
  generalize (b.watched.compileProject input >>= b.watched.updateModule) s = r at framed ends
  have made : r.2.calls = calls := by rw [framed.made, start, List.nil_append]
  rcases ends with ⟨e, -, eq⟩ | ⟨work, -, eq⟩
  · simp only [s', eq, made]
    exact ⟨framed.tree.cwd, framed.separated separated, fun l differs => framed.affects differs⟩
  · obtain ⟨quiet, concluded⟩ := conclude_ends b.watched work r.2
    have kept : (b.watched.conclude work r.2).2.calls = calls :=
      (congrArg Prod.snd quiet).trans made
    have cleared : FileTree.SameDirectories r.2.tree
        (r.2.tree.removeIntermediates r.2.store.buildDir).1 := FileTree.removeNamed_same _ _ _
    simp only [s', eq, kept]
    exact ⟨(concluded.leaves.1.cwd.trans cleared.cwd).trans framed.tree.cwd,
      conclude_separated b work (framed.separated separated),
      fun l differs => conclude_affects b work framed separated differs⟩

/-- Whatever a build does and however it ends, it stays in its frame. Where the files differ
afterwards, a directory was made on the way to the build directory, or it is a file of the store or
the object of a compile command that was issued, or a file right in the build directory that ended
as an object or a linked image does was removed. -/
theorem tryBuild_frame {b : Builder σ} {input : BuildInput} {s : BuildState σ}
    (tame : b.runner.Tame b.toolchain) (separated : s.tree.Separated) :
    let after := (b.tryBuild input s).2.tree
    after.workingDirectory = s.tree.workingDirectory ∧ after.Separated ∧
    ∀ l, after.find? l ≠ s.tree.find? l →
      Affects b.toolchain s.store (b.calls input s) s.tree after l := by
  intro after
  have leaves : after = (b.watched.tryBuild input s.watched).2.tree :=
    congrArg (fun x => x.2.tree) (tryBuild_watched b input s)
  rw [leaves]
  exact tryBuild_affects tame input (s := s.watched) rfl separated

/-- A build directory with an object that no source of the project has. -/
def staleTree : FileTree :=
  (Sample.tree.put ["work", "b"] .directory).put ["work", "b", "old.o"] (.file .empty false)

/-- Such an object is removed, and that is all a build may do to it. -/
theorem stale_object_affected :
    let b := Sample.builder (Sample.maker "M".toUTF8)
    let s := Sample.start staleTree "b"
    let after := (b.tryBuild Sample.input s).2.tree
    b.runner.Tame b.toolchain ∧ s.tree.Separated ∧
    (after.find? ["work", "b", "old.o"]).isNone = true ∧
    Affects b.toolchain s.store (b.calls Sample.input s) s.tree after ["work", "b", "old.o"] := by
  intro b s after
  have tame : b.runner.Tame b.toolchain := Sample.maker_tame _
  have separated : s.tree.Separated := ⟨by decide, by decide⟩
  have there : (s.tree.find? ["work", "b", "old.o"]).isSome = true := by decide
  have gone : (after.find? ["work", "b", "old.o"]).isNone = true := by decide +kernel
  refine ⟨tame, separated, gone, (tryBuild_frame tame separated).2.2 _ fun same => ?_⟩
  change (after.find? _) = _ at same
  rw [same, Option.isNone_eq_false_iff.mpr there] at gone
  cases gone

end Builder
end PlcModule
