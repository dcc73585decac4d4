import PlcModule.Proofs.Build.Coherence

/-! What a successful build means. Once the glue sources are written nothing but intermediates,
the staged module, the module and its record is touched, so what every step has put into its place
is there at the end. -/
namespace PlcModule

variable {σ : Type}

namespace FileTree

variable {r t u v : FileTree} {l : Route} {p : Path} {content : ByteArray}
  {touched made : Set Route}

/-- From one tree to another a file has got its bytes, unless a device stood there, which keeps
nothing and stays. -/
def Filled (t u : FileTree) (l : Route) (content : ByteArray) : Prop :=
  (∃ x, u.find? l = some (.file content x)) ∨ t.find? l = some .device ∧ u.find? l = some .device

theorem filled_of_write (h : t.writeBytes p content = .ok u) :
    Filled t u (p.route t.workingDirectory) content := by
  rcases writeBytes_find h with file | ⟨rfl, device⟩
  · exact .inl file
  · exact .inr ⟨device, device⟩

theorem Filled.later (filled : Filled t u l content) (change : Change touched made u v)
    (off : l ∉ touched) : Filled t v l content := by
  rcases filled with ⟨x, file⟩ | ⟨before, device⟩
  · exact .inl ⟨x, change.find_some off file⟩
  · exact .inr ⟨before, change.find_some off device⟩

/-- What is there and is no directory was there before. -/
theorem Change.find_before {e : Entry} (change : Change touched made t u) (off : l ∉ touched)
    (there : u.find? l = some e) (other : e ≠ .directory) : t.find? l = some e := by
  rcases change.find l off with same | ⟨-, -, directory⟩
  · exact same ▸ there
  · rw [there] at directory
    exact absurd (Option.some.inj directory) other

theorem Filled.earlier (filled : Filled t u l content) (change : Change touched made r t)
    (off : l ∉ touched) : Filled r u l content := by
  rcases filled with file | ⟨before, device⟩
  · exact .inl file
  · exact .inr ⟨change.find_before off before (by simp), device⟩

/-- What has got its bytes where no device stood can be read. -/
theorem Filled.read {place : Place} (filled : Filled t u (p.route t.workingDirectory) content)
    (cwd : u.workingDirectory = t.workingDirectory) (located : u.locate p = .ok place)
    (plain : place.slash = false) (free : t.find? (p.route t.workingDirectory) ≠ some .device) :
    u.readBytes p = .ok content := by
  obtain ⟨x, file⟩ := filled.resolve_right fun device => free device.1
  exact readBytes_file located plain (cwd.symm ▸ file)

/-- A file at a path that could be located has got its bytes. -/
structure Placed (t u : FileTree) (p : Path) (content : ByteArray) : Prop where
  filled : Filled t u (p.route t.workingDirectory) content
  located : ∃ (v : FileTree) (place : Place), v.locate p = .ok place

theorem locate_of_write (h : t.writeBytes p content = .ok u) : ∃ place, t.locate p = .ok place := by
  obtain ⟨_, aimed, -⟩ := ok_of_bind h
  obtain ⟨place, located, -⟩ := ok_of_bind aimed
  exact ⟨place, located⟩

theorem locate_of_copy {q : Path} (h : t.copyFile p q = .ok u) : ∃ place, t.locate q = .ok place := by
  obtain ⟨⟨l, e⟩, -, h⟩ := ok_of_bind h
  cases e with
  | directory => cases h
  | device => cases h
  | file content x =>
    obtain ⟨_, aimed, -⟩ := ok_of_bind h
    obtain ⟨place, located, -⟩ := ok_of_bind aimed
    exact ⟨place, located⟩

theorem locate_of_read (h : t.readBytes p = .ok content) : ∃ place, t.locate p = .ok place := by
  obtain ⟨_, found, -⟩ := ok_of_bind h
  obtain ⟨place, located, -⟩ := ok_of_bind found
  exact ⟨place, located⟩

end FileTree

/-- What a build touches after it has written its glue sources. -/
def ModuleStore.finishRoutes (cwd : Route) (s : ModuleStore) : Set Route :=
  intermediateRoutes ∪ {s.staged.route cwd, s.binary.route cwd, s.hashFile.route cwd}

section

variable {cwd : Route} {s : ModuleStore}

theorem ModuleStore.intermediates_finish : intermediateRoutes ⊆ s.finishRoutes cwd :=
  Set.subset_union_left

theorem ModuleStore.staged_finish : {s.staged.route cwd} ⊆ s.finishRoutes cwd :=
  Set.singleton_subset_iff.mpr (.inr (Set.mem_insert _ _))

theorem ModuleStore.binary_finish : {s.binary.route cwd} ⊆ s.finishRoutes cwd :=
  Set.singleton_subset_iff.mpr (.inr (Set.mem_insert_of_mem _ (Set.mem_insert _ _)))

theorem ModuleStore.hashFile_finish : {s.hashFile.route cwd} ⊆ s.finishRoutes cwd :=
  Set.singleton_subset_iff.mpr
    (.inr (Set.mem_insert_of_mem _ (Set.mem_insert_of_mem _ (Set.mem_singleton _))))

end

/-- The names of the glue sources and of the header. -/
def glueNames : List String :=
  [mainSourceName, debugSourceName, headerName]

theorem glueNames_plain {name : String} (glue : name ∈ glueNames) : IsPlainName name := by
  have all : ∀ name ∈ glueNames, IsPlainName name := by decide
  exact all name glue

/-- No file that has the name of a glue source or of the header is touched any more, in whatever
directory. -/
theorem ModuleStore.glue_notMem {cwd : Route} {s : ModuleStore}
    (named : IsModuleName s.binaryName) {name : String} (glue : name ∈ glueNames) (l : Route) :
    l ++ [name] ∉ s.finishRoutes cwd := by
  rintro (⟨n, last, ends⟩ | staged | binary | hashFile)
  · have all : ∀ name ∈ glueNames, ¬ EndsAsIntermediate name := by decide
    have same : name = n := by simpa using last
    exact all name glue (same ▸ ends)
  · rw [staged_route named.plain] at staged
    have same := (List.append_singleton_inj.mp staged).2
    have ending := congrArg (fun s => s.toList.getLast?) same
    have all : ∀ name ∈ glueNames, name.toList.getLast? ≠ some 'p' := by decide
    refine all name glue ?_
    simpa using ending
  · rw [binary_route named.plain] at binary
    have same := (List.append_singleton_inj.mp binary).2
    refine named.apart ?_
    rw [← same]
    exact List.mem_append_left [hashFileName] glue
  · rw [Set.mem_singleton_iff, hashFile_route] at hashFile
    have same := (List.append_singleton_inj.mp hashFile).2
    rw [same] at glue
    revert glue
    decide

namespace Builder

/-- The glue sources that were made and the trees in which they were written one by one. -/
theorem writeSources_ok {b : Builder σ} {input : BuildInput} {s : BuildState σ}
    (h : (b.writeSources input s).1 = .ok ()) :
    let dir := s.store.buildDir
    let made := (s.tree.makeDirectories dir).1
    ∃ sources t u, GlueSources.generate made b.templates input = .ok sources ∧
      made.writeBytes (dir.child mainSourceName) sources.main.toUTF8 = .ok t ∧
      t.writeBytes (dir.child debugSourceName) sources.debug.toUTF8 = .ok u ∧
      u.copyFile b.templates.header (dir.child headerName) = .ok (b.writeSources input s).2.tree := by
  have files {path : Path} {f : FileTree → Except Fault FileTree} {s : BuildState σ}
      (h : (Step.files path f s).1 = .ok ()) : f s.tree = .ok (Step.files path f s).2.tree ∧
        (Step.files path f s).2.store = s.store := by
    simp only [Step.files] at h ⊢
    cases changed : f s.tree with
    | error cause => rw [changed] at h; cases h
    | ok u => exact ⟨rfl, rfl⟩
  obtain ⟨dir, asked, h, eq⟩ := Step.ok_of_bind_ok h
  cases asked
  rw [writeSources, eq]
  obtain ⟨_, made, h, eq⟩ := Step.ok_of_bind_ok h
  rw [eq]
  have tree : (makeBuildDir s).2.tree = (s.tree.makeDirectories s.store.buildDir).1 := by
    simp only [makeBuildDir]
    split <;> simp_all
  obtain ⟨sources, generated, h, eq⟩ := Step.ok_of_bind_ok h
  rw [eq]
  obtain ⟨_, main, h, eq⟩ := Step.ok_of_bind_ok h
  rw [eq]
  obtain ⟨_, debug, header, eq⟩ := Step.ok_of_bind_ok h
  rw [eq]
  refine ⟨sources, _, _, tree ▸ generated, tree ▸ (files main).1, (files debug).1, (files header).1⟩

/-- After the glue sources, compiling touches objects alone. -/
theorem compileProject_ok {b : Builder σ} (tame : b.runner.Tame b.toolchain) {input : BuildInput}
    {s : BuildState σ} {work : Compiled} (h : (b.compileProject input s).1 = .ok work) :
    (b.writeSources input s).1 = .ok () ∧
      Quiet intermediateRoutes ∅ (b.writeSources input s).2 (b.compileProject input s).2 := by
  obtain ⟨_, went, h, eq⟩ := Step.ok_of_bind_ok h
  refine ⟨went, ?_⟩
  rw [compileProject, eq]
  generalize (b.writeSources input s).2 = s' at h ⊢
  have rest : (Step.ask (fun s => !s.tree.pathExists s'.store.binary) >>= fun missing =>
      b.compileGroups (CompileGroup.plan s'.store.buildDir input.locations) >>= fun digests =>
        pure (⟨planJobs (CompileGroup.plan s'.store.buildDir input.locations), digests,
          missing || !(planJobs (CompileGroup.plan s'.store.buildDir input.locations)).isEmpty⟩ :
            Compiled)).Within s'.tree.workingDirectory s'.store intermediateRoutes ∅ := by
    refine .ask_bind fun _ _ _ => .bind (compileGroups_within tame ?_) fun _ => .pure _
    intro job planned
    obtain ⟨name, ends, object⟩ := CompileGroup.plan_object planned
    rw [object]
    exact ends.route_child _ _
  exact rest s' rfl rfl

/-- How the module is renewed between two trees: not at all, or the last call has packaged a new
one, which was moved into place. -/
inductive Renewed (t : Tool.Toolchain) (s : ModuleStore) (calls : List Call) (before after : FileTree) :
    Bool → Prop where
  | kept (change : FileTree.Change intermediateRoutes ∅ before after) :
      Renewed t s calls before after false
  | replaced (call : Call) (last : calls.getLast? = some call) (packages : call.Packages t s)
    (worked : FileTree.Change (intermediateRoutes ∪ {s.staged.route before.workingDirectory}) ∅
      before call.after)
    (moved : (s.dropHashFile call.after).rename s.staged s.binary = .ok after) :
      Renewed t s calls before after true

/-- Between two trees the intermediates are removed and the digest of the module is put on record. -/
def Recorded (s : ModuleStore) (hash : String) (before after : FileTree) : Prop :=
  ∃ t, FileTree.Change intermediateRoutes ∅ before t ∧ FileTree.SameDirectories before t ∧
    t.digest s.binary = .ok hash ∧ t.writeBytes s.hashFile hash.toUTF8 = .ok after

section

variable {b : Builder σ} {s : BuildState (σ × List Call)}

/-- A new module is made of something, and by the last call. -/
theorem makeModule_ok (tame : b.runner.Tame b.toolchain) {objects : List Path}
    (h : (b.watched.makeModule objects s).1 = .ok ()) :
    objects ≠ [] ∧ (b.watched.makeModule objects s).2.store = s.store.forgetHash ∧
      Renewed b.toolchain s.store (b.watched.makeModule objects s).2.calls s.tree
        (b.watched.makeModule objects s).2.tree true := by
  cases objects with
  | nil => cases h
  | cons object rest =>
    refine ⟨List.cons_ne_nil _ _, ?_⟩
    rw [makeModule_cons] at h ⊢
    have linked := link_within (b := b.watched) tame.watched (object :: rest) s rfl rfl
    obtain ⟨_, -, h, eq⟩ := Step.ok_of_bind_ok h
    rw [eq]
    generalize (b.watched.link (object :: rest) s).2 = s₁ at h linked ⊢
    obtain ⟨staged, ⟨e, failed, -⟩ | ⟨-, call, calls, packages, after⟩⟩ := stage_cases tame s₁
    · rw [Step.bind_of_error _ failed] at h
      cases h
    obtain ⟨_, -, h, eq⟩ := Step.ok_of_bind_ok h
    rw [eq]
    rw [linked.store, linked.tree.cwd] at staged
    rw [linked.store] at packages
    have worked : Quiet (intermediateRoutes ∪ {s.store.staged.route s.tree.workingDirectory}) ∅ s
        (b.watched.stage s₁).2 := by
      refine (linked.mono ?_ le_rfl).trans (staged.mono Set.subset_union_right le_rfl)
      rintro l rfl
      exact .inl (EndsAsIntermediate.route_child (.inr (by simp [ModuleStore.imageName])) _ _)
    obtain ⟨store, runnerState, ⟨cause, -, failed, -⟩ | ⟨moved, -⟩⟩ :=
      replace_cases (b.watched.stage s₁).2
    · rw [failed] at h
      cases h
    rw [worked.store] at store moved
    rw [← after] at moved
    refine ⟨store, .replaced call ?_ packages (after ▸ worked.tree) moved⟩
    rw [BuildState.calls, runnerState, ← BuildState.calls, calls]
    simp

theorem conclude_report {work : Compiled} {report : BuildReport} {s : BuildState σ}
    (h : (b.conclude work s).1 = .ok report) : report.relinked = work.relinked := by
  obtain ⟨store, -, h, -⟩ := Step.ok_of_bind_ok h
  obtain ⟨_, -, h, -⟩ := Step.ok_of_bind_ok h
  obtain ⟨hash, -, h, -⟩ := Step.ok_of_bind_ok h
  obtain ⟨_, -, h, -⟩ := Step.ok_of_bind_ok h
  obtain ⟨_, -, h, -⟩ := Step.ok_of_bind_ok h
  cases h
  rfl

theorem tryBuild_stages_watched (tame : b.runner.Tame b.toolchain) {input : BuildInput}
    {report : BuildReport} (h : (b.watched.tryBuild input s).1 = .ok report) :
    let s' := (b.watched.tryBuild input s).2
    (b.watched.writeSources input s).1 = .ok () ∧
    (report.relinked = true ↔ BuildPlan.units s.store.buildDir input.locations ≠ []) ∧
    ∃ u, Renewed b.toolchain s.store s'.calls (b.watched.writeSources input s).2.tree u
        report.relinked ∧
      Recorded s.store report.hash u s'.tree ∧
      s'.store.reopened = s.store.reopened ∧ s'.store.cachedHash = some report.hash := by
  obtain ⟨work, compiled, h, eq⟩ := Step.ok_of_bind_ok h
  obtain ⟨glued, quiet⟩ := compileProject_ok (b := b.watched) tame.watched compiled
  obtain ⟨jobs, idle⟩ := compileProject_answer b compiled
  have store : (b.watched.compileProject input s).2.store = s.store :=
    (compileProject_within (b := b.watched) tame.watched input s rfl rfl).store
  rw [tryBuild, eq]
  generalize (b.watched.compileProject input s).2 = s₁ at h quiet store ⊢
  obtain ⟨_, updated, h, eq⟩ := Step.ok_of_bind_ok h
  rw [eq]
  have relinked := conclude_report (b := b.watched) h
  obtain ⟨t, cleared, dirs, runnerState, concluded⟩ :=
    conclude_cases b.watched work (b.watched.updateModule work s₁).2
  have planned : work.jobs = [] ↔ BuildPlan.units s.store.buildDir input.locations = [] := by
    rw [jobs]
    exact CompileGroup.planJobs_eq_nil
  have renewed : (b.watched.updateModule work s₁).2.store.reopened = s.store.reopened ∧
      (report.relinked = true ↔ BuildPlan.units s.store.buildDir input.locations ≠ []) ∧
      Renewed b.toolchain s.store (b.watched.updateModule work s₁).2.calls
        (b.watched.writeSources input s).2.tree (b.watched.updateModule work s₁).2.tree
          report.relinked := by
    rw [relinked]
    cases remade : work.relinked with
    | false =>
      simp only [updateModule_apply, remade, Bool.false_eq_true, if_false]
      exact ⟨congrArg _ store, by simpa using planned.mp (idle remade), .kept quiet.tree⟩
    | true =>
      simp only [updateModule_apply, remade, if_true] at updated ⊢
      obtain ⟨filled, store', renewed⟩ := makeModule_ok tame updated
      refine ⟨?_, ?_, ?_⟩
      · rw [store', store]
        rfl
      · have : work.jobs ≠ [] := by simpa using filled
        simpa using fun none => this (planned.mpr none)
      · rw [store] at renewed
        cases renewed with
        | replaced call last packages worked moved =>
          refine .replaced call last packages ?_ moved
          rw [quiet.tree.cwd] at worked
          exact (quiet.tree.mono Set.subset_union_left le_rfl).trans worked
  obtain ⟨reopened, units, renewed⟩ := renewed
  have binary := congrArg ModuleStore.binary reopened
  have hashFile := congrArg ModuleStore.hashFile reopened
  change (b.watched.updateModule work s₁).2.store.binary = s.store.binary at binary
  change (b.watched.updateModule work s₁).2.store.hashFile = s.store.hashFile at hashFile
  refine ⟨glued, units, (b.watched.updateModule work s₁).2.tree, ?_, ?_⟩
  · rw [BuildState.calls, runnerState]
    exact renewed
  · rw [h] at concluded
    cases concluded with
    | recorded hash _ read written kept remembered told =>
      rw [binary] at read
      rw [hashFile] at written
      rw [told]
      exact ⟨⟨t, cleared, dirs, read, written⟩, kept.trans reopened, remembered⟩

end

/-- A build that succeeds writes its glue sources, renews the module from the objects of all
sources, clears up and records the digest of what is there. -/
theorem tryBuild_stages {b : Builder σ} (tame : b.runner.Tame b.toolchain) {input : BuildInput}
    {s : BuildState σ} {report : BuildReport} (built : (b.tryBuild input s).1 = .ok report) :
    let s' := (b.tryBuild input s).2
    (b.writeSources input s).1 = .ok () ∧
    (report.relinked = true ↔ BuildPlan.units s.store.buildDir input.locations ≠ []) ∧
    ∃ u, Renewed b.toolchain s.store (b.calls input s) (b.writeSources input s).2.tree u
        report.relinked ∧
      Recorded s.store report.hash u s'.tree ∧
      s'.store.reopened = s.store.reopened ∧ s'.store.cachedHash = some report.hash := by
  have glue : b.writeSources input s = _ := writeSources_mirrors b input s.watched
  rw [glue]
  rw [tryBuild_watched] at built ⊢
  exact tryBuild_stages_watched tame built

/-- The glue sources and the header are in the build directory. -/
theorem writeSources_fills {b : Builder σ} {input : BuildInput} {s : BuildState σ}
    (h : (b.writeSources input s).1 = .ok ())
    (templates : b.templates.directory.route s.tree.workingDirectory ≠
      s.store.buildDir.route s.tree.workingDirectory) :
    let cwd := s.tree.workingDirectory
    let dir := s.store.buildDir
    ∃ sources header,
      GlueSources.generate (s.tree.makeDirectories dir).1 b.templates input = .ok sources ∧
      (∃ x, s.tree.find? (b.templates.header.route cwd) = some (.file header x)) ∧
      let glued := (b.writeSources input s).2.tree
      s.tree.Placed glued (dir.child mainSourceName) sources.main.toUTF8 ∧
      s.tree.Placed glued (dir.child debugSourceName) sources.debug.toUTF8 ∧
      s.tree.Placed glued (dir.child headerName) header := by
  intro cwd dir
  obtain ⟨sources, t, u, generated, main, debug, header⟩ := writeSources_ok h
  have made := s.tree.makeDirectories_change dir
  have wrote := FileTree.writeBytes_change main
  have wrote' := FileTree.writeBytes_change debug
  have copied := FileTree.copyFile_change header
  have tcwd : t.workingDirectory = cwd := wrote.cwd.trans made.cwd
  have ucwd : u.workingDirectory = cwd := wrote'.cwd.trans tcwd
  have fillMain := FileTree.filled_of_write main
  have fillDebug := FileTree.filled_of_write debug
  rw [made.cwd] at wrote fillMain
  rw [tcwd] at wrote' fillDebug
  rw [ucwd] at copied
  have route {name : String} (glue : name ∈ glueNames) :
      (dir.child name).route cwd = dir.route cwd ++ [name] :=
    Path.route_child (glueNames_plain glue) cwd dir
  have apart {m n : String} (glue : m ∈ glueNames) (glue' : n ∈ glueNames) (ne : m ≠ n) :
      (dir.child m).route cwd ∉ ({(dir.child n).route cwd} : Set Route) := by
    rw [Set.mem_singleton_iff, route glue, route glue']
    exact fun same => ne (List.append_singleton_inj.mp same).2
  have template : b.templates.header.route cwd = b.templates.directory.route cwd ++ [headerName] :=
    Path.route_child (by decide) cwd _
  have far {name : String} (glue : name ∈ glueNames) :
      b.templates.header.route cwd ∉ ({(dir.child name).route cwd} : Set Route) := by
    rw [Set.mem_singleton_iff, template, route glue]
    exact fun same => templates (List.append_singleton_inj.mp same).1
  obtain ⟨content, x, there, filled⟩ := FileTree.copyFile_find header (by
    rw [ucwd]
    simpa using far (by decide))
  rw [ucwd] at there filled
  have before : s.tree.find? (b.templates.header.route cwd) = some (.file content x) := by
    have there := wrote'.find_before (far (by decide)) there (by simp)
    have there := wrote.find_before (far (by decide)) there (by simp)
    exact made.find_before (Set.notMem_empty _) there (by simp)
  have fillHeader : FileTree.Filled u (b.writeSources input s).2.tree
      ((dir.child headerName).route cwd) content := by
    rcases filled with file | ⟨same, device⟩
    · exact .inl ⟨x, file⟩
    · exact .inr ⟨device, same ▸ device⟩
  refine ⟨sources, content, generated, ⟨x, before⟩, ⟨?_, _, FileTree.locate_of_write main⟩,
    ⟨?_, _, FileTree.locate_of_write debug⟩, ⟨?_, _, FileTree.locate_of_copy header⟩⟩
  · exact ((fillMain.later wrote' (apart (by decide) (by decide) (by decide))).later copied
      (apart (by decide) (by decide) (by decide))).earlier made (Set.notMem_empty _)
  · exact ((fillDebug.later copied (apart (by decide) (by decide) (by decide))).earlier wrote
      (apart (by decide) (by decide) (by decide))).earlier made (Set.notMem_empty _)
  · exact ((fillHeader.earlier wrote' (apart (by decide) (by decide) (by decide))).earlier wrote
      (apart (by decide) (by decide) (by decide))).earlier made (Set.notMem_empty _)

namespace Renewed

variable {toolchain : Tool.Toolchain} {s : ModuleStore} {calls : List Call} {before after : FileTree}
  {relinked : Bool}

theorem change (renewed : Renewed toolchain s calls before after relinked)
    (apart : s.Apart before.workingDirectory) :
    FileTree.Change (s.finishRoutes before.workingDirectory) ∅ before after := by
  cases renewed with
  | kept change => exact change.mono ModuleStore.intermediates_finish le_rfl
  | replaced call _ packages worked moved =>
    obtain ⟨_, _, -, -, replaced, -⟩ := ModuleStore.moved_leaves apart worked.cwd packages.2.2 moved
    have dropped := s.dropHashFile_change call.after
    rw [worked.cwd] at dropped
    have worked := worked.mono (Set.union_subset ModuleStore.intermediates_finish
      ModuleStore.staged_finish) le_rfl
    have dropped := dropped.mono ModuleStore.hashFile_finish le_rfl
    have replaced := replaced.mono (Set.union_subset ModuleStore.staged_finish
      ModuleStore.binary_finish) le_rfl
    exact worked.trans (dropped.trans replaced)

/-- A device at the place of the record was there before. -/
theorem device_before (renewed : Renewed toolchain s calls before after relinked)
    (apart : s.Apart before.workingDirectory)
    (device : after.find? (s.hashFile.route before.workingDirectory) = some .device) :
    before.find? (s.hashFile.route before.workingDirectory) = some .device := by
  have off : s.hashFile.route before.workingDirectory ∉ intermediateRoutes :=
    fun at_ => apart.hashFile (.inr at_)
  cases renewed with
  | kept change => exact change.find_eq off ▸ device
  | replaced call _ packages worked moved =>
    obtain ⟨_, _, -, -, replaced, -⟩ := ModuleStore.moved_leaves apart worked.cwd packages.2.2 moved
    rw [replaced.find_eq (by simpa using ⟨apart.staged_hashFile.symm, apart.distinct.symm⟩)] at device
    rcases s.dropHashFile_find call.after with gone | same
    · rw [worked.cwd, device] at gone
      cases gone
    · rw [same, worked.find_eq] at device
      · exact device
      · rintro (object | staged)
        · exact off object
        · exact apart.staged_hashFile (Set.mem_singleton_iff.mp staged).symm

/-- The new module is what the packager left at the staged path, where nothing is any more. -/
theorem module (renewed : Renewed toolchain s calls before after true)
    (apart : s.Apart before.workingDirectory) :
    ∃ call content x, calls.getLast? = some call ∧
      call.command = toolchain.package s.staged s.image ∧
      call.after.readBytes s.staged = .ok content ∧
      after.find? (s.binary.route before.workingDirectory) = some (.file content x) ∧
      after.find? (s.staged.route before.workingDirectory) = none := by
  cases renewed with
  | replaced call last packages worked moved =>
    obtain ⟨content, x, staged, placed, -, -, place, aim, -⟩ :=
      ModuleStore.moved_leaves apart worked.cwd packages.2.2 moved
    have dropped := s.dropHashFile_change call.after
    have cwd : (s.dropHashFile call.after).workingDirectory = before.workingDirectory :=
      dropped.cwd.trans worked.cwd
    have ready : (s.dropHashFile call.after).find?
        (s.staged.route (s.dropHashFile call.after).workingDirectory) = some (.file content x) := by
      rw [cwd, dropped.find_eq, staged]
      rw [worked.cwd]
      simpa using apart.staged_hashFile
    obtain ⟨-, -, gone, -⟩ := FileTree.rename_file moved ready (cwd ▸ apart.staged_binary)
    rw [cwd] at gone
    refine ⟨call, content, x, last, packages.1, ?_, placed, gone⟩
    obtain ⟨content', read⟩ := FileTree.isFile_read packages.2.2
    rcases FileTree.readBytes_eq read with ⟨x', there⟩ | ⟨there, -⟩
    · rw [worked.cwd, staged] at there
      cases there
      exact read
    · rw [worked.cwd, staged] at there
      cases there

theorem kept_module (renewed : Renewed toolchain s calls before after false)
    (apart : s.Apart before.workingDirectory) :
    after.find? (s.binary.route before.workingDirectory) =
      before.find? (s.binary.route before.workingDirectory) := by
  cases renewed with
  | kept change => exact change.find_eq fun at_ => apart.binary (.inr at_)

end Renewed

namespace Recorded

variable {s : ModuleStore} {hash : String} {before after : FileTree}

theorem change (recorded : Recorded s hash before after) :
    FileTree.Change (intermediateRoutes ∪ {s.hashFile.route before.workingDirectory}) ∅ before after := by
  obtain ⟨t, cleared, -, -, written⟩ := recorded
  have wrote := FileTree.writeBytes_change written
  rw [cleared.cwd] at wrote
  exact (cleared.mono Set.subset_union_left le_rfl).trans (wrote.mono Set.subset_union_right le_rfl)

theorem find_eq (recorded : Recorded s hash before after) {l : Route} (off : l ∉ intermediateRoutes)
    (other : l ≠ s.hashFile.route before.workingDirectory) : after.find? l = before.find? l := by
  refine recorded.change.find_eq ?_
  rintro (at_ | at_)
  · exact off at_
  · exact other at_

/-- The module can be read at the end, and the digest is that of its bytes. -/
theorem read (recorded : Recorded s hash before after) (apart : s.Apart before.workingDirectory) :
    ∃ content, after.readBytes s.binary = .ok content ∧ hash = Digest.md5 content.data.toList := by
  obtain ⟨t, cleared, -, digest, written⟩ := recorded
  obtain ⟨content, read, same⟩ := FileTree.digest_read digest
  have wrote := FileTree.writeBytes_change written
  refine ⟨content, FileTree.readBytes_same (FileTree.writeBytes_same written) ?_ read, same⟩
  refine wrote.find_eq ?_
  rw [cleared.cwd]
  simpa using apart.distinct

/-- The digest is beside the module if no device stood there. -/
theorem beside (recorded : Recorded s hash before after) (apart : s.Apart before.workingDirectory)
    (free : before.find? (s.hashFile.route before.workingDirectory) ≠ some .device) :
    after.readBytes s.hashFile = .ok hash.toUTF8 := by
  obtain ⟨t, cleared, -, -, written⟩ := recorded
  refine (FileTree.writeBytes_read written).resolve_right fun ⟨_, device⟩ => free ?_
  rw [cleared.cwd, cleared.find_eq fun at_ => apart.hashFile (.inr at_)] at device
  exact device

end Recorded

/-- A new module is what the last call packaged, and the digest reported is that of its bytes. -/
theorem tryBuild_packed {b : Builder σ} {input : BuildInput} {s : BuildState σ}
    {report : BuildReport} (tame : b.runner.Tame b.toolchain)
    (named : ModuleStore.IsModuleName s.store.binaryName)
    (built : (b.tryBuild input s).1 = .ok report) (relinked : report.relinked = true) :
    let after := (b.tryBuild input s).2.tree
    ∃ call content, (b.calls input s).getLast? = some call ∧
      call.command = b.toolchain.package s.store.staged s.store.image ∧
      call.after.readBytes s.store.staged = .ok content ∧
      after.readBytes s.store.binary = .ok content ∧
      report.hash = Digest.md5 content.data.toList ∧
      after.find? (s.store.staged.route s.tree.workingDirectory) = none := by
  intro after
  obtain ⟨-, -, u, renewed, recorded, -, -⟩ := tryBuild_stages tame built
  have glue := (writeSources_within b input s rfl rfl).tree
  generalize (b.writeSources input s).2.tree = g at renewed glue
  have apart : s.store.Apart g.workingDirectory := named.apart_files _
  have apart' : s.store.Apart u.workingDirectory := named.apart_files _
  have ucwd : u.workingDirectory = g.workingDirectory := (renewed.change apart).cwd
  rw [relinked] at renewed
  obtain ⟨call, content, x, last, command, packed, placed, gone⟩ := renewed.module apart
  obtain ⟨content', read, hash⟩ := recorded.read apart'
  have same : content' = content := by
    have there := FileTree.readBytes_eq read
    rw [recorded.change.cwd, recorded.find_eq (fun at_ => apart'.binary (.inr at_)) apart'.distinct,
      ucwd, placed] at there
    rcases there with ⟨_, there⟩ | ⟨there, -⟩ <;> cases there
    rfl
  refine ⟨call, content, last, command, packed, same ▸ read, same ▸ hash, ?_⟩
  rw [← glue.cwd, ← gone, ← ucwd]
  exact recorded.find_eq (ModuleStore.staged_notMem _ _) apart'.staged_hashFile

/-- The module of before stays if no new one is made. -/
theorem tryBuild_kept {b : Builder σ} {input : BuildInput} {s : BuildState σ}
    {report : BuildReport} (tame : b.runner.Tame b.toolchain)
    (named : ModuleStore.IsModuleName s.store.binaryName)
    (built : (b.tryBuild input s).1 = .ok report) (idle : report.relinked = false) :
    (b.tryBuild input s).2.tree.find? (s.store.binary.route s.tree.workingDirectory) =
      s.tree.find? (s.store.binary.route s.tree.workingDirectory) := by
  obtain ⟨-, -, u, renewed, recorded, -, -⟩ := tryBuild_stages tame built
  have glue := (writeSources_within b input s rfl rfl).tree
  generalize (b.writeSources input s).2.tree = g at renewed glue
  have apart : s.store.Apart g.workingDirectory := named.apart_files _
  have apart' : s.store.Apart u.workingDirectory := named.apart_files _
  have ucwd : u.workingDirectory = g.workingDirectory := (renewed.change apart).cwd
  rw [idle] at renewed
  have kept := renewed.kept_module apart
  have same := recorded.find_eq (fun at_ => apart'.binary (.inr at_)) apart'.distinct
  obtain ⟨content, read, -⟩ := recorded.read apart'
  have there := FileTree.readBytes_eq read
  rw [recorded.change.cwd, same, ucwd, kept, glue.cwd] at there
  rw [ucwd, kept, glue.cwd] at same
  rw [same]
  -- What can be read at the end is no directory that `writeSources` has made.
  rcases glue.find _ (fun at_ => (named.apart_files _).binary (.inl (.inl at_))) with
    before | ⟨-, -, directory⟩
  · exact before
  · rw [directory] at there
    rcases there with ⟨x, there⟩ | ⟨there, -⟩ <;> cases there

/-- The digest reported is beside the module. -/
theorem tryBuild_recorded {b : Builder σ} {input : BuildInput} {s : BuildState σ}
    {report : BuildReport} (tame : b.runner.Tame b.toolchain)
    (named : ModuleStore.IsModuleName s.store.binaryName)
    (free : s.tree.find? (s.store.hashFile.route s.tree.workingDirectory) ≠ some .device)
    (built : (b.tryBuild input s).1 = .ok report) :
    (b.tryBuild input s).2.tree.readBytes s.store.hashFile = .ok report.hash.toUTF8 := by
  obtain ⟨-, -, u, renewed, recorded, -, -⟩ := tryBuild_stages tame built
  have glue := (writeSources_within b input s rfl rfl).tree
  generalize (b.writeSources input s).2.tree = g at renewed glue
  have apart : s.store.Apart g.workingDirectory := named.apart_files _
  have ucwd : u.workingDirectory = g.workingDirectory := (renewed.change apart).cwd
  refine recorded.beside (named.apart_files _) fun device => free ?_
  rw [ucwd] at device
  have before := renewed.device_before apart device
  rw [glue.cwd] at before
  exact glue.find_before (fun at_ => (named.apart_files _).hashFile (.inl (.inl at_))) before (by simp)

/-- The glue sources that were generated are in the build directory at the end, and so is the
header. -/
theorem tryBuild_glued {b : Builder σ} {input : BuildInput} {s : BuildState σ}
    {report : BuildReport} (tame : b.runner.Tame b.toolchain)
    (named : ModuleStore.IsModuleName s.store.binaryName)
    (templates : b.templates.directory.route s.tree.workingDirectory ≠
      s.store.buildDir.route s.tree.workingDirectory)
    (free : ∀ name ∈ glueNames,
      s.tree.find? ((s.store.buildDir.child name).route s.tree.workingDirectory) ≠ some .device)
    (built : (b.tryBuild input s).1 = .ok report) :
    let cwd := s.tree.workingDirectory
    let dir := s.store.buildDir
    let after := (b.tryBuild input s).2.tree
    ∃ sources header,
      GlueSources.generate (s.tree.makeDirectories dir).1 b.templates input = .ok sources ∧
      (∃ x, s.tree.find? (b.templates.header.route cwd) = some (.file header x)) ∧
      after.readBytes (dir.child mainSourceName) = .ok sources.main.toUTF8 ∧
      after.readBytes (dir.child debugSourceName) = .ok sources.debug.toUTF8 ∧
      after.readBytes (dir.child headerName) = .ok header := by
  intro cwd dir after
  obtain ⟨glued, -, u, renewed, recorded, -, -⟩ := tryBuild_stages tame built
  obtain ⟨sources, header, generated, template, main, debug, copied⟩ :=
    writeSources_fills glued templates
  have glue := (writeSources_within b input s rfl rfl).tree
  generalize (b.writeSources input s).2.tree = g at renewed main debug copied glue
  have finished := renewed.change (named.apart_files _)
  have rest := recorded.change
  rw [finished.cwd] at rest
  have whole := finished.trans (rest.mono (Set.union_subset ModuleStore.intermediates_finish
    ModuleStore.hashFile_finish) le_rfl)
  rw [glue.cwd] at whole
  obtain ⟨content, read, -⟩ := recorded.read (named.apart_files _)
  obtain ⟨aim, located⟩ := FileTree.locate_of_read read
  have put {name : String} {content : ByteArray} (glued : name ∈ glueNames)
      (placed : s.tree.Placed g (dir.child name) content) :
      after.readBytes (dir.child name) = .ok content := by
    obtain ⟨filled, _, _, found⟩ := placed
    have off : (dir.child name).route cwd ∉ s.store.finishRoutes cwd := by
      rw [Path.route_child (glueNames_plain glued)]
      exact ModuleStore.glue_notMem named glued _
    have there := FileTree.locate_beside located found named.plain (glueNames_plain glued)
    exact (filled.later whole off).read (whole.cwd.trans glue.cwd) there rfl (free name glued)
  exact ⟨sources, header, generated, template, put (by decide) main, put (by decide) debug,
    put (by decide) copied⟩

/-- A build that succeeds has renewed the module exactly if there was something to compile. What its
last call packaged is the module then; otherwise the module is the one before. The digest it reports
is the module's and is on record, in the store and beside the module, and the glue sources are those
that were generated. No device may stand where the record, the glue sources and the header go, since
it takes all that is written and keeps nothing. -/
theorem tryBuild_succeeded {b : Builder σ} {input : BuildInput} {s : BuildState σ}
    {report : BuildReport} (tame : b.runner.Tame b.toolchain)
    (named : ModuleStore.IsModuleName s.store.binaryName)
    (templates : b.templates.directory.route s.tree.workingDirectory ≠
      s.store.buildDir.route s.tree.workingDirectory)
    (free : ∀ name ∈ ModuleStore.hashFileName :: glueNames,
      s.tree.find? ((s.store.buildDir.child name).route s.tree.workingDirectory) ≠ some .device)
    (built : (b.tryBuild input s).1 = .ok report) :
    let cwd := s.tree.workingDirectory
    let dir := s.store.buildDir
    let after := (b.tryBuild input s).2.tree
    let store := (b.tryBuild input s).2.store
    (report.relinked = true ↔ BuildPlan.units dir input.locations ≠ []) ∧
    (report.relinked = true → ∃ call content, (b.calls input s).getLast? = some call ∧
      call.command = b.toolchain.package s.store.staged s.store.image ∧
      call.after.readBytes s.store.staged = .ok content ∧
      after.readBytes s.store.binary = .ok content ∧
      after.find? (s.store.staged.route cwd) = none) ∧
    (report.relinked = false →
      after.find? (s.store.binary.route cwd) = s.tree.find? (s.store.binary.route cwd)) ∧
    (∃ content, after.readBytes s.store.binary = .ok content ∧
      report.hash = Digest.md5 content.data.toList) ∧
    after.readBytes s.store.hashFile = .ok report.hash.toUTF8 ∧
    store.hash after = some report.hash ∧ store.reopened.hash after = some report.hash ∧
    ∃ sources header,
      GlueSources.generate (s.tree.makeDirectories dir).1 b.templates input = .ok sources ∧
      (∃ x, s.tree.find? (b.templates.header.route cwd) = some (.file header x)) ∧
      after.readBytes (dir.child mainSourceName) = .ok sources.main.toUTF8 ∧
      after.readBytes (dir.child debugSourceName) = .ok sources.debug.toUTF8 ∧
      after.readBytes (dir.child headerName) = .ok header := by
  intro cwd dir after store
  obtain ⟨-, units, u, -, recorded, reopened, cached⟩ := tryBuild_stages tame built
  obtain ⟨content, read, hash⟩ := recorded.read (named.apart_files _)
  have record : after.readBytes s.store.hashFile = .ok report.hash.toUTF8 :=
    tryBuild_recorded tame named (free _ List.mem_cons_self) built
  have hex : Digest.IsHexDigest report.hash := by
    rw [hash]
    exact Digest.md5_isHexDigest _
  refine ⟨units, fun relinked => ?_, tryBuild_kept tame named built, ⟨content, read, hash⟩, record,
    ?_, ?_, tryBuild_glued tame named templates
      (fun name glued => free name (List.mem_cons_of_mem _ glued)) built⟩
  · obtain ⟨call, packed, last, command, packs, placed, -, gone⟩ :=
      tryBuild_packed tame named built relinked
    exact ⟨call, packed, last, command, packs, placed, gone⟩
  · simp [ModuleStore.hash, store, cached]
  · rw [reopened]
    exact ModuleStore.hashOnDisk_of_read (s := s.store.reopened) hex record

/-- A builder whose packager makes a new module. -/
def renewing : Builder Unit :=
  Sample.builder (Sample.runner 0 "NEW".toUTF8)

/-- A build directory with an old module and an old record. -/
def outdated : BuildState Unit :=
  Sample.start (Sample.treeWithModule (.file "old digest".toUTF8 false)) "b"

/-- A module is built anew over an old one; its digest takes the place of the old record. -/
theorem renewing_outdated :
    ∃ report, (renewing.tryBuild Sample.input outdated).1 = .ok report ∧ report.relinked = true ∧
      (∃ call content, (renewing.calls Sample.input outdated).getLast? = some call ∧
        call.after.readBytes outdated.store.staged = .ok content ∧
        (renewing.tryBuild Sample.input outdated).2.tree.readBytes outdated.store.binary =
          .ok content) ∧
      (renewing.tryBuild Sample.input outdated).2.tree.readBytes outdated.store.hashFile =
        .ok report.hash.toUTF8 ∧
      (renewing.tryBuild Sample.input outdated).2.store.hash
        (renewing.tryBuild Sample.input outdated).2.tree = some report.hash := by
  have went : ((renewing.tryBuild Sample.input outdated).1.map BuildReport.relinked) = .ok true := by
    decide +kernel
  obtain ⟨report, built⟩ : ∃ report, (renewing.tryBuild Sample.input outdated).1 = .ok report := by
    cases built : (renewing.tryBuild Sample.input outdated).1 with
    | error e =>
      rw [built] at went
      cases went
    | ok report => exact ⟨report, rfl⟩
  rw [built] at went
  have relinked : report.relinked = true := Except.ok.inj went
  have templates : renewing.templates.directory.route outdated.tree.workingDirectory ≠
      outdated.store.buildDir.route outdated.tree.workingDirectory := by decide +kernel
  have free := FileTree.find_ne_device (t := outdated.tree) (by decide +kernel)
  obtain ⟨-, module, -, -, beside, known, -⟩ :=
    tryBuild_succeeded (Sample.runner_tame 0 _) (Sample.named _ _) templates (fun _ _ => free _) built
  obtain ⟨call, content, last, -, packed, placed, -⟩ := module relinked
  exact ⟨report, built, relinked, ⟨call, content, last, packed, placed⟩, beside, known⟩

/-- A project that has nothing to compile, since a location that is called lists the glue sources. -/
def sourceless : BuildInput :=
  { Sample.input with
    locations := [⟨"0", true, [⟨⟨"b/plc_main.c"⟩, ""⟩, ⟨⟨"b/plc_debugger.c"⟩, ""⟩]⟩] }

/-- A device at the place of the record keeps nothing of it, although the build succeeds. -/
theorem device_keeps_no_record :
    let s := Sample.start (Sample.treeWithModule .device) "b"
    let after := (renewing.tryBuild sourceless s).2
    renewing.runner.Tame renewing.toolchain ∧ ModuleStore.IsModuleName s.store.binaryName ∧
    renewing.templates.directory.route s.tree.workingDirectory ≠
      s.store.buildDir.route s.tree.workingDirectory ∧
    (renewing.tryBuild sourceless s).1 =
      .ok ⟨⟨"b/p.bin"⟩, "90f0f2aff752d90f2bf7eba27e07e874", 0, false⟩ ∧
    after.tree.readText s.store.hashFile = .ok "" ∧
    after.store.hash after.tree = some "90f0f2aff752d90f2bf7eba27e07e874" ∧
    after.store.reopened.hash after.tree = none :=
  ⟨Sample.runner_tame 0 _, Sample.named _ _, by decide +kernel⟩

end Builder
end PlcModule
