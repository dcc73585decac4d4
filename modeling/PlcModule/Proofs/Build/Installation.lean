import PlcModule.Proofs.Build.Agreement
import PlcModule.Proofs.Build.Leftovers
import PlcModule.Proofs.Build.Sample
import PlcModule.Proofs.Build.Tools
import PlcModule.Proofs.FileTree.Writable

/-! A build with tools that do their work installs a module. The files of a build directory are
apart if the module has a name of its own, so no step takes away what another has made, and each
step finds what it needs. -/
namespace PlcModule

variable {σ α β : Type}

namespace ModuleStore

variable {cwd : Route} {s : ModuleStore}

/-- The names of the files that a build directory has for a module, its record and its builds. The
objects are not among them. -/
def fileNames (s : ModuleStore) : List String :=
  [s.binaryName, s.imageName, s.binaryName ++ ".tmp", mainSourceName, debugSourceName, headerName,
    hashFileName]

/-- The files of these names. -/
def files (s : ModuleStore) : List Path :=
  [s.binary, s.image, s.staged, s.buildDir.child mainSourceName, s.buildDir.child debugSourceName,
    s.buildDir.child headerName, s.hashFile]

theorem fileNames_plain (named : IsModuleName s.binaryName) {name : String}
    (member : name ∈ s.fileNames) : IsPlainName name := by
  simp only [fileNames, List.mem_cons, List.not_mem_nil, or_false] at member
  rcases member with rfl | rfl | rfl | rfl | rfl | rfl | rfl
  · exact named.plain
  · exact (image_plain named.plain).1
  · exact staged_plain named.plain
  all_goals decide

theorem fileNames_nodup (named : IsModuleName s.binaryName) : s.fileNames.Nodup := by
  have image : EndsAsIntermediate s.imageName := (image_plain named.plain).2
  have staged : ¬ EndsAsIntermediate (s.binaryName ++ ".tmp") := staged_final (by simp)
  have fixed : ∀ name ∈ [mainSourceName, debugSourceName, headerName, hashFileName],
      ¬ EndsAsIntermediate name ∧ name.toList.getLast? ≠ some 'p' := by decide
  refine List.nodup_cons.mpr ⟨?_, List.nodup_cons.mpr ⟨?_, List.nodup_cons.mpr ⟨?_, by decide⟩⟩⟩
  · intro member
    rcases List.mem_cons.mp member with same | member
    · exact named.final (same ▸ image)
    rcases List.mem_cons.mp member with same | member
    · exact staged_ne (.inl rfl) same.symm
    · exact named.apart member
  · intro member
    rcases List.mem_cons.mp member with same | member
    · exact staged (same ▸ image)
    · exact (fixed _ member).1 image
  · intro member
    exact (fixed _ member).2 (by simp)

theorem files_route (named : IsModuleName s.binaryName) (cwd : Route) :
    s.files.map (Path.route cwd) = s.fileNames.map fun name => s.buildDir.route cwd ++ [name] := by
  have whole : s.files = s.fileNames.map s.buildDir.child := rfl
  rw [whole, List.map_map]
  exact List.map_congr_left fun name member => Path.route_child (fileNames_plain named member) _ _

/-- No object of any plan is the module. -/
theorem object_ne_binary (named : IsModuleName s.binaryName) {locations : List Location}
    {object : Path} (planned : object ∈ BuildPlan.objects s.buildDir locations) (cwd : Route) :
    object.route cwd ≠ s.binary.route cwd := by
  obtain ⟨name, assigned, rfl⟩ := List.mem_map.mp planned
  intro same
  refine (named.apart_files cwd).binary (same ▸ .inr ?_)
  exact (ObjectName.assign_ends assigned).route_child _ _

end ModuleStore

/-- A call that did its work: the tool ran well, left the directories as they were in a tree, and
if it was to package a module left a file at the staged path. -/
structure Call.Works (t : Tool.Toolchain) (s : ModuleStore) (g : FileTree) (c : Call) : Prop where
  well : c.WentWell
  directories : FileTree.SameDirectories g c.after
  packaged : c.command = t.package s.staged s.image → c.after.isFile s.staged = true

instance (t : Tool.Toolchain) (s : ModuleStore) (g : FileTree) (c : Call) :
    Decidable (c.Works t s g) :=
  decidable_of_iff (c.WentWell ∧ FileTree.SameDirectories g c.after ∧
      (c.command = t.package s.staged s.image → c.after.isFile s.staged = true))
    ⟨fun ⟨well, directories, packaged⟩ => ⟨well, directories, packaged⟩,
      fun h => ⟨h.well, h.directories, h.packaged⟩⟩

/-- From a state with one property a step goes well and leads to one with another, if all calls up
to there did their work. -/
def Step.GoesWell (works : Call → Prop) (I : BuildState (σ × List Call) → Prop)
    (J : α → BuildState (σ × List Call) → Prop) (m : Step (σ × List Call) α) : Prop :=
  (∀ s, s.calls ⊆ (m s).2.calls) ∧
    ∀ s, I s → (∀ c ∈ (m s).2.calls, works c) → ∃ a, (m s).1 = .ok a ∧ J a (m s).2

namespace Step.GoesWell

variable {works : Call → Prop} {I : BuildState (σ × List Call) → Prop}
  {J : α → BuildState (σ × List Call) → Prop} {K : β → BuildState (σ × List Call) → Prop}
  {m : Step (σ × List Call) α} {next : α → Step (σ × List Call) β}

theorem bind (first : m.GoesWell works I J) (rest : ∀ a, (next a).GoesWell works (J a) K) :
    (m >>= next).GoesWell works I K := by
  have later (s) : (m s).2.calls ⊆ ((m >>= next) s).2.calls := by
    rcases bind_cases m next s with ⟨e, -, eq⟩ | ⟨a, -, eq⟩
    · rw [eq]
      exact List.Subset.refl _
    · rw [eq]
      exact (rest a).1 _
  refine ⟨fun s => List.Subset.trans (first.1 s) (later s), fun s here worked => ?_⟩
  obtain ⟨a, went, there⟩ := first.2 s here fun c made => worked c (later s made)
  have eq := bind_of_ok next went
  rw [eq] at worked ⊢
  exact (rest a).2 _ there worked

/-- A step that makes no call. -/
theorem of_quiet (quiet : ∀ s, (m s).2.runnerState = s.runnerState)
    (h : ∀ s, I s → ∃ a, (m s).1 = .ok a ∧ J a (m s).2) : m.GoesWell works I J :=
  ⟨fun s => by rw [BuildState.calls, BuildState.calls, quiet]; exact List.Subset.refl _,
    fun s here _ => h s here⟩

end Step.GoesWell

theorem Step.Performs.subset {runner : Runner σ} {plan : List Task} {m : Step (σ × List Call) α}
    {s : BuildState (σ × List Call)} (h : m.Performs runner s.store.reopened plan) :
    s.calls ⊆ (m s).2.calls := by
  obtain ⟨-, calls, performed⟩ := h s rfl
  rw [performed.watched]
  exact List.subset_append_left _ _

namespace Builder

/-- Where the glue sources are written nothing has changed but files. -/
structure Ready (store : ModuleStore) (g : FileTree) (s : BuildState σ) : Prop where
  store : s.store.reopened = store.reopened
  directories : FileTree.SameDirectories g s.tree

/-- The module is in place. -/
def Installed (store : ModuleStore) (s : BuildState σ) : Prop :=
  ∃ content x, s.tree.find? (store.binary.route s.tree.workingDirectory) = some (.file content x)

section

variable {b : Builder σ} {store : ModuleStore} {g : FileTree}

theorem link_goesWell (objects : List Path) :
    (b.watched.link objects).GoesWell (Call.Works b.toolchain store g) (Ready store g)
      fun _ => Ready store g := by
  refine ⟨fun s => (link_performs b objects).subset, fun s ready worked => ?_⟩
  obtain ⟨calls, driven, well⟩ := link_onlyTools b objects s
  rw [driven.made] at worked
  have worked : ∀ c ∈ calls, c.Works b.toolchain store g :=
    fun c made => worked c (List.mem_append_right _ made)
  obtain ⟨a, went⟩ := well.mpr fun c made => (worked c made).well
  refine ⟨a, went, (congrArg _ driven.store).trans ready.store, ?_⟩
  rw [driven.tree]
  exact FileTree.afterCalls_of_forall ready.directories fun c made => (worked c made).directories

theorem stage_goesWell (open_ : g.Writable store.staged) :
    b.watched.stage.GoesWell (Call.Works b.toolchain store g) (Ready store g) fun _ s =>
      Ready store g s ∧ s.tree.isFile store.staged = true := by
  refine ⟨fun s => (stage_performs b).subset, fun s ready worked => ?_⟩
  have kept : (b.watched.stage s).2.store.reopened = s.store.reopened :=
    (stage_performs b s rfl).1
  rcases ran : b.watched.stage s with ⟨r, s'⟩
  rw [ran] at worked kept
  have staged := ModuleStore.eq_of_reopened ready.store ModuleStore.staged fun _ => rfl
  have image := ModuleStore.eq_of_reopened ready.store ModuleStore.image fun _ => rfl
  rcases stage_ends ran with ⟨cause, failed, other, -⟩ |
    ⟨call, command, calls, ⟨packages, rfl, tree⟩ | ⟨unpackaged, -⟩⟩
  · rw [staged] at failed
    exact absurd (ready.directories.removeFile_error open_ failed) other
  · have work := worked call (by simp [calls])
    refine ⟨(), rfl, ⟨kept.trans ready.store, ?_⟩, ?_⟩
    · rw [show s'.tree = call.after from tree]
      exact work.directories
    · rw [show s'.tree = call.after from tree, ← staged]
      exact packages.2.2
  · have work := worked call (by simp [calls])
    refine absurd ⟨command, work.well, ?_⟩ unpackaged
    rw [staged, image] at command
    rw [staged]
    exact work.packaged command

theorem replace_goesWell {works : Call → Prop} (named : ModuleStore.IsModuleName store.binaryName)
    (staged : g.Writable store.staged)
    (binary : g.Writable store.binary) :
    (forgetHash >>= fun _ => install : Step (σ × List Call) Unit).GoesWell works
      (fun s => Ready store g s ∧ s.tree.isFile store.staged = true)
      fun _ s => Ready store g s ∧ Installed store s := by
  refine .of_quiet (fun s => (replace_cases s).2.1) ?_
  rintro s ⟨ready, made⟩
  have paths := ModuleStore.eq_of_reopened ready.store (fun s => (s.staged, s.binary)) fun _ => rfl
  have drop := ModuleStore.eq_of_reopened ready.store (·.dropHashFile s.tree) fun _ => rfl
  obtain ⟨stagedPath, binaryPath⟩ := Prod.mk.inj paths
  obtain ⟨kept, -, ends⟩ := replace_cases s
  simp only [drop, stagedPath, binaryPath] at ends
  have apart := named.apart_files s.tree.workingDirectory
  have dropped := store.dropHashFile_change s.tree
  have same := ready.directories.trans (store.dropHashFile_same s.tree)
  rcases ends with ⟨cause, failed, -⟩ | ⟨moved, went⟩
  -- Removing the record takes nothing from the staged module, and both places are still open.
  · obtain ⟨content, x, there⟩ := FileTree.isFile_find made
    obtain ⟨place, located, named, plain, -⟩ := same.target_located staged
    obtain ⟨aim, aimed, named', plain', free⟩ := same.target_located binary
    have there : (store.dropHashFile s.tree).find?
        (store.staged.route (store.dropHashFile s.tree).workingDirectory) =
          some (.file content x) := by
      rw [dropped.cwd, dropped.find_eq (by simpa using apart.staged_hashFile)]
      exact there
    obtain ⟨u, moved⟩ := FileTree.rename_ok located plain there named aimed named' plain' free
    rw [failed] at moved
    cases moved
  · obtain ⟨content, x, -, placed, -, dirs, -⟩ := ModuleStore.moved_leaves apart rfl made moved
    refine ⟨(), went, ⟨?_, same.trans dirs⟩, content, x, ?_⟩
    · rw [kept]
      exact ready.store
    · rw [(dirs.cwd.trans dropped.cwd)]
      exact placed

/-- What is in place can be recorded. -/
theorem conclude_goesWell {works : Call → Prop} (named : ModuleStore.IsModuleName store.binaryName)
    (binary : g.Writable store.binary)
    (hashFile : g.Writable store.hashFile) (work : Compiled) :
    (b.watched.conclude work).GoesWell works (fun s => Ready store g s ∧ Installed store s)
      fun _ _ => True := by
  refine .of_quiet (fun s => (conclude_ends b.watched work s).1) ?_
  rintro s ⟨ready, content, x, there⟩
  have paths := ModuleStore.eq_of_reopened ready.store (fun s => (s.binary, s.hashFile)) fun _ => rfl
  obtain ⟨binaryPath, hashPath⟩ := Prod.mk.inj paths
  have concluded := (conclude_ends b.watched work s).2
  have cleared := s.tree.removeIntermediates_change s.store.buildDir
  have same : FileTree.SameDirectories g (s.tree.removeIntermediates s.store.buildDir).1 :=
    ready.directories.trans (FileTree.removeNamed_same _ _ _)
  generalize (s.tree.removeIntermediates s.store.buildDir).1 = t at *
  generalize (b.watched.conclude work s).1 = r at *
  cases concluded with
  | unread cause failed =>
    -- The module ends as no intermediate does, so clearing up has left it to be read.
    obtain ⟨aim, aimed, -, plain, -⟩ := same.target_located binary
    have apart := named.apart_files s.tree.workingDirectory
    have left := cleared.find_some (fun at_ => apart.binary (.inr at_)) there
    rw [← cleared.cwd] at left
    have read := FileTree.readBytes_file aimed plain left
    rw [binaryPath] at failed
    simp [FileTree.digest, read, Except.map] at failed
  | unwritten hash cause _ failed =>
    obtain ⟨aim, aimed, named, plain, free⟩ := same.target_located hashFile
    obtain ⟨u, written⟩ := FileTree.writeBytes_ok aimed named plain free hash.toUTF8
    rw [hashPath, written] at failed
    cases failed
  | recorded hash report => exact ⟨report, rfl, trivial⟩

theorem compileProject_goesWell {input : BuildInput} {s : BuildState (σ × List Call)}
    (glued : (b.watched.writeSources input s).1 = .ok ())
    (units : BuildPlan.units s.store.buildDir input.locations ≠ []) :
    let g := (b.watched.writeSources input s).2.tree
    (b.watched.compileProject input).GoesWell (Call.Works b.toolchain s.store g) (· = s)
      fun work s' => Ready s.store g s' ∧ work.relinked = true ∧
        work.jobs.map CompileJob.object ≠ [] := by
  intro g
  refine ⟨fun s => (compileProject_performs b input).subset, ?_⟩
  rintro s rfl worked
  obtain ⟨calls, driven, well⟩ := compileProject_driven (b := b) glued
  rw [driven.made] at worked
  have worked : ∀ c ∈ calls, c.Works b.toolchain s.store g :=
    fun c made => worked c (List.mem_append_right _ made)
  obtain ⟨work, went⟩ := well.mpr fun c made => (worked c made).well
  obtain ⟨jobs, idle⟩ := compileProject_answer b went
  have filled : work.jobs ≠ [] := by
    rw [jobs]
    exact mt CompileGroup.planJobs_eq_nil.mp units
  refine ⟨work, went, ⟨?_, ?_⟩, ?_, by simpa using filled⟩
  · rw [driven.store, (writeSources_within b.watched input s rfl rfl).store]
  · rw [driven.tree]
    exact FileTree.afterCalls_of_forall (.refl g) fun c made => (worked c made).directories
  · exact Bool.not_eq_false _ ▸ fun idle' => filled (idle idle')

/-- A module is made of objects that are there. -/
theorem updateModule_goesWell (named : ModuleStore.IsModuleName store.binaryName)
    (staged : g.Writable store.staged)
    (binary : g.Writable store.binary) (work : Compiled) :
    (b.watched.updateModule work).GoesWell (Call.Works b.toolchain store g)
      (fun s => Ready store g s ∧ work.relinked = true ∧ work.jobs.map CompileJob.object ≠ [])
      fun _ s => Ready store g s ∧ Installed store s := by
  refine ⟨fun s => ?_, ?_⟩
  · rw [updateModule_apply]
    split
    · exact (makeModule_performs b _).subset
    · exact List.Subset.refl _
  · rintro s ⟨ready, relinked, filled⟩ worked
    obtain ⟨object, rest, objects⟩ := List.exists_cons_of_ne_nil filled
    rw [updateModule_apply, if_pos relinked, objects] at worked ⊢
    have make : (b.watched.makeModule (object :: rest)).GoesWell (Call.Works b.toolchain store g)
        (Ready store g) fun _ s => Ready store g s ∧ Installed store s :=
      (link_goesWell (object :: rest)).bind fun _ =>
        (stage_goesWell staged).bind fun _ => replace_goesWell named staged binary
    exact make.2 s ready worked

theorem tryBuild_goesWell {input : BuildInput} {s : BuildState (σ × List Call)}
    (named : ModuleStore.IsModuleName s.store.binaryName)
    (glued : (b.watched.writeSources input s).1 = .ok ())
    (units : BuildPlan.units s.store.buildDir input.locations ≠ [])
    (open_ : ∀ p ∈ [s.store.staged, s.store.binary, s.store.hashFile],
      (b.watched.writeSources input s).2.tree.Writable p) :
    (b.watched.tryBuild input).GoesWell
      (Call.Works b.toolchain s.store (b.watched.writeSources input s).2.tree) (· = s)
        fun _ _ => True := by
  have staged := open_ s.store.staged (by simp)
  have binary := open_ s.store.binary (by simp)
  have hashFile := open_ s.store.hashFile (by simp)
  exact (compileProject_goesWell glued units).bind fun work =>
    (updateModule_goesWell named staged binary work).bind fun _ =>
      conclude_goesWell named binary hashFile work

end

/-- A module with a name of its own is neither lost nor mixed up. The files of its build directory
are pairwise different and lie right in it, no object takes its place and clearing up leaves it
alone. So if the glue sources can be written, there is something to compile, nothing is in the way of
the module and its record, and every tool that is run does its work, then the build goes well: what
the packager left is in place, and its digest is reported. -/
theorem tryBuild_installs {b : Builder σ} {input : BuildInput} {s : BuildState σ}
    (tame : b.runner.Tame b.toolchain) (named : ModuleStore.IsModuleName s.store.binaryName) :
    let cwd := s.tree.workingDirectory
    let dir := s.store.buildDir
    let glued := (b.writeSources input s).2.tree
    let after := (b.tryBuild input s).2.tree
    (s.store.files.map (Path.route cwd)).Nodup ∧
    (∀ p ∈ s.store.files, ∃ name, IsPlainName name ∧ p.route cwd = dir.route cwd ++ [name]) ∧
    (∀ locations, ∀ object ∈ BuildPlan.objects dir locations,
      object.route cwd ≠ s.store.binary.route cwd) ∧
    (∀ t : FileTree, (t.removeIntermediates dir).1.find? (s.store.binary.route cwd) =
      t.find? (s.store.binary.route cwd)) ∧
    ((b.writeSources input s).1 = .ok () → BuildPlan.units dir input.locations ≠ [] →
      (∀ p ∈ [s.store.staged, s.store.binary, s.store.hashFile], glued.Writable p) →
      (∀ call ∈ b.calls input s, call.Works b.toolchain s.store glued) →
      ∃ report call content, (b.tryBuild input s).1 = .ok report ∧ report.relinked = true ∧
        (b.calls input s).getLast? = some call ∧
        call.command = b.toolchain.package s.store.staged s.store.image ∧
        call.after.readBytes s.store.staged = .ok content ∧
        after.readBytes s.store.binary = .ok content ∧
        report.hash = Digest.md5 content.data.toList) := by
  intro cwd dir glued after
  have routes := ModuleStore.files_route named cwd
  refine ⟨?_, fun p member => ?_, fun _ object planned =>
    ModuleStore.object_ne_binary named planned cwd, fun t => ?_, fun wrote units open_ works => ?_⟩
  · rw [routes]
    exact List.Pairwise.map _ (fun _ _ other same => other (List.append_singleton_inj.mp same).2)
      (ModuleStore.fileNames_nodup named)
  · have route : p.route cwd ∈ s.store.fileNames.map fun name => dir.route cwd ++ [name] :=
      routes ▸ List.mem_map_of_mem member
    obtain ⟨name, among, same⟩ := List.mem_map.mp route
    exact ⟨name, ModuleStore.fileNames_plain named among, same.symm⟩
  · exact (t.removeIntermediates_change dir).find_eq fun at_ =>
      (named.apart_files cwd).binary (.inr at_)
  -- A watched build goes well from the glue sources on, and a plain one does as it does.
  · have glue : b.writeSources input s = _ := writeSources_mirrors b input s.watched
    have tree : glued = (b.watched.writeSources input s.watched).2.tree :=
      congrArg (fun r => r.2.tree) glue
    rw [glue] at wrote
    rw [tree] at open_ works
    obtain ⟨report, built, -⟩ :=
      (tryBuild_goesWell (s := s.watched) named wrote units open_).2 _ rfl works
    replace built : (b.tryBuild input s).1 = .ok report :=
      (congrArg Prod.fst (tryBuild_watched b input s)).trans built
    have relinked : report.relinked = true := (tryBuild_stages tame built).2.1.mpr units
    obtain ⟨call, content, last, command, packed, placed, hash, -⟩ :=
      tryBuild_packed tame named built relinked
    exact ⟨report, call, content, built, relinked, last, command, packed, placed, hash⟩

/-- With tools that make their files a first build installs a module. -/
theorem maker_installs :
    let b := Sample.builder (Sample.maker "M".toUTF8)
    let s := Sample.start Sample.tree "b"
    ∃ report call content, (b.tryBuild Sample.input s).1 = .ok report ∧
      (b.calls Sample.input s).getLast? = some call ∧
      call.after.readBytes s.store.staged = .ok content ∧
      (b.tryBuild Sample.input s).2.tree.readBytes s.store.binary = .ok content := by
  intro b s
  have wrote : (b.writeSources Sample.input s).1 = .ok () := by decide +kernel
  have units : BuildPlan.units s.store.buildDir Sample.input.locations ≠ [] := by decide +kernel
  have open_ : ∀ p ∈ [s.store.staged, s.store.binary, s.store.hashFile],
      (b.writeSources Sample.input s).2.tree.Writable p := by decide +kernel
  have works : ∀ call ∈ b.calls Sample.input s,
      call.Works b.toolchain s.store (b.writeSources Sample.input s).2.tree := by decide +kernel
  obtain ⟨-, -, -, -, installs⟩ :=
    tryBuild_installs (b := b) (s := s) (Sample.maker_tame "M".toUTF8)
      (Sample.named Sample.tree "b")
  obtain ⟨report, call, content, built, -, last, -, packed, placed, -⟩ :=
    installs wrote units open_ works
  exact ⟨report, call, content, built, last, packed, placed⟩

/-- Before the first build of a module that is named like an object. -/
def objectNamed : BuildState Unit :=
  ⟨Sample.tree, .fresh ⟨"b"⟩ "p" ".o", [], [], ()⟩

/-- Clearing up takes such a module away once it is in place, and then it cannot be recorded. -/
theorem object_name_loses_module :
    let b := Sample.builder (Sample.maker "M".toUTF8)
    let s := objectNamed
    (b.writeSources Sample.input s).1 = .ok () ∧
    BuildPlan.units s.store.buildDir Sample.input.locations ≠ [] ∧
    (∀ p ∈ [s.store.staged, s.store.binary, s.store.hashFile],
      (b.writeSources Sample.input s).2.tree.Writable p) ∧
    (∀ call ∈ b.calls Sample.input s,
      call.Works b.toolchain s.store (b.writeSources Sample.input s).2.tree) ∧
    (b.tryBuild Sample.input s).1 = .error (.filesystem s.store.binary (.system .notFound)) ∧
    (b.tryBuild Sample.input s).2.tree.pathExists s.store.binary = false := by
  decide +kernel

end Builder
end PlcModule
