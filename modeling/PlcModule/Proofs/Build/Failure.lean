import PlcModule.Proofs.Build.Outcome
import PlcModule.Proofs.Build.Record
import PlcModule.Proofs.Build.Sample
import PlcModule.Proofs.FileTree.Parents

/-! What a failed build leaves. Until the packager has made a new module the one before and its
digest are kept, on disk and in the store. After that the digest is forgotten first, so a build
that fails then leaves a module without a digest. -/
namespace PlcModule

variable {σ : Type}

/-- What a build keeps at a route: the same entry, or a directory where there was nothing if the
build directory lies beyond. -/
def ModuleStore.Keeps (cwd : Route) (s : ModuleStore) (t u : FileTree) (l : Route) : Prop :=
  u.find? l = t.find? l ∨
    l ∈ FileTree.wayTo cwd s.buildDir ∧ t.find? l = none ∧ u.find? l = some .directory

/-- In a build directory whose path never goes up, a file is kept as it is. -/
theorem ModuleStore.Keeps.find_eq {cwd : Route} {s : ModuleStore} {t u : FileTree} {name : String}
    (kept : s.Keeps cwd t u ((s.buildDir.child name).route cwd)) (plain : IsPlainName name)
    (down : s.buildDir.Descends) :
    u.find? ((s.buildDir.child name).route cwd) = t.find? ((s.buildDir.child name).route cwd) := by
  rcases kept with same | ⟨onWay, -⟩
  · exact same
  · exact absurd onWay (down.child_notMem_wayTo plain cwd)

namespace Builder

variable {b : Builder σ} {input : BuildInput} {s : BuildState σ} {e : BuildError}

/-- A failed build without a new module has only worked on its own files. -/
theorem failed_worked (tame : b.runner.Tame b.toolchain)
    (failed : (b.tryBuild input s).1 = .error e)
    (unpackaged : ∀ call ∈ b.calls input s, ¬ call.Packages b.toolchain s.store) :
    (b.tryBuild input s).2.store = s.store ∧
      s.store.Worked s.tree.workingDirectory s.tree (b.tryBuild input s).2.tree := by
  rw [tryBuild_watched] at failed ⊢
  unfold calls at unpackaged
  obtain ⟨s₁, r, updated, ⟨e', rfl, eq⟩ | ⟨work, rfl, eq⟩⟩ := tryBuild_cases tame input s.watched rfl
  · rw [eq] at unpackaged ⊢
    cases updated with
    | unmade _ store tree => exact ⟨store, tree⟩
    | stuck call cause made packages => exact absurd packages (unpackaged call made)
  · obtain ⟨t, cleared, -, runnerState, concluded⟩ := conclude_cases b.watched work s₁
    rw [eq] at unpackaged failed ⊢
    cases updated with
    | unmade _ store tree =>
      have worked := FileTree.Change.trans tree (ModuleStore.worked_of_cleared cleared)
      generalize (b.watched.conclude work s₁).1 = result at *
      cases concluded with
      | unread cause _ tree kept => exact ⟨kept.trans store, by rw [← tree] at worked; exact worked⟩
      | unwritten hash cause _ _ tree kept =>
        exact ⟨kept.trans store, by rw [← tree] at worked; exact worked⟩
      | recorded => cases failed
    | replaced call made packages =>
      rw [BuildState.calls, runnerState] at unpackaged
      exact absurd packages (unpackaged call made)

/-- A build that fails before its packager has made a new module keeps the module, the digest
beside it and all that the store remembers. -/
theorem tryBuild_failed_keeps (tame : b.runner.Tame b.toolchain)
    (named : ModuleStore.IsModuleName s.store.binaryName)
    (failed : (b.tryBuild input s).1 = .error e)
    (unpackaged : ∀ call ∈ b.calls input s, ¬ call.Packages b.toolchain s.store) :
    let cwd := s.tree.workingDirectory
    let after := (b.tryBuild input s).2.tree
    (b.tryBuild input s).2.store = s.store ∧
    ∀ p ∈ [s.store.binary, s.store.hashFile],
      s.store.Keeps cwd s.tree after (p.route cwd) ∧
      (s.store.buildDir.Descends → after.find? (p.route cwd) = s.tree.find? (p.route cwd)) := by
  obtain ⟨store, worked⟩ := failed_worked tame failed unpackaged
  have apart := named.apart_files s.tree.workingDirectory
  refine ⟨store, fun p which => ?_⟩
  simp only [List.mem_cons, List.not_mem_nil, or_false] at which
  rcases which with rfl | rfl
  · have kept := FileTree.Change.find worked _ apart.binary
    exact ⟨kept, ModuleStore.Keeps.find_eq kept named.plain⟩
  · have kept := FileTree.Change.find worked _ apart.hashFile
    exact ⟨kept, ModuleStore.Keeps.find_eq kept ModuleStore.hashFile_plain⟩

/-- A compiler that fails leaves the module and its digest. -/
theorem failed_compiler_keeps :
    let b := Sample.builder (Sample.runner 1 .empty)
    let s := Sample.start (Sample.treeWithModule (.file "digest".toUTF8 false)) "b"
    (b.tryBuild Sample.input s).2.store = s.store ∧
    ∀ p ∈ [s.store.binary, s.store.hashFile],
      (b.tryBuild Sample.input s).2.tree.find? (p.route s.tree.workingDirectory) =
        s.tree.find? (p.route s.tree.workingDirectory) := by
  have failed : ((Sample.builder (Sample.runner 1 .empty)).tryBuild Sample.input
      (Sample.start (Sample.treeWithModule (.file "digest".toUTF8 false)) "b")).1 =
      .error (.tool "C compilation" "plc_main.c" (some 1) "") := by decide +kernel
  obtain ⟨store, kept⟩ := tryBuild_failed_keeps (Sample.runner_tame 1 .empty) (Sample.named _ _)
    failed (by decide +kernel)
  exact ⟨store, fun p which => (kept p which).2 (by decide +kernel)⟩

/-- Where the build directory lies beyond a directory of the module's name, a failed build leaves
that directory. -/
theorem failed_build_leaves_directory :
    let b := Sample.builder (Sample.runner 0 .empty)
    let s := Sample.start .blank "b/p.bin/.."
    Runner.Tame b.runner b.toolchain ∧ ModuleStore.IsModuleName s.store.binaryName ∧
    (b.tryBuild Sample.input s).1 = .error (.template ⟨"t/T/T_main.c"⟩ .notFound) ∧
    b.calls Sample.input s = [] ∧ s.tree.pathExists s.store.binary = false ∧
    (b.tryBuild Sample.input s).2.tree.pathExists s.store.binary = true := by
  refine ⟨Sample.runner_tame 0 .empty, Sample.named _ _, by decide +kernel, ?_, by decide +kernel,
    by decide +kernel⟩
  exact List.isEmpty_iff.mp (by decide +kernel)

/-- What is left when the new module could not be moved into place. -/
theorem stuck_leaves {store : ModuleStore} {cwd : Route} {t u : FileTree} (apart : store.Apart cwd)
    (there : t.workingDirectory = cwd) (worked : store.Worked cwd t u) :
    store.forgetHash.hash (store.dropHashFile u) = none ∧
    store.Keeps cwd t (store.dropHashFile u) (store.binary.route cwd) ∧
    ((store.dropHashFile u).find? (store.hashFile.route cwd) = none ∨
      store.Keeps cwd t (store.dropHashFile u) (store.hashFile.route cwd)) := by
  have cwd' : u.workingDirectory = cwd := worked.cwd.trans there
  have dropped := store.dropHashFile_change u
  rw [cwd'] at dropped
  refine ⟨store.hashOnDisk_dropHashFile u, ?_, ?_⟩
  · rw [ModuleStore.Keeps, dropped.find_eq (by simpa using apart.distinct)]
    exact FileTree.Change.find worked _ apart.binary
  · rcases store.dropHashFile_find u with gone | same
    · exact .inl (cwd' ▸ gone)
    · rw [same]
      exact .inr (FileTree.Change.find worked _ apart.hashFile)

/-- What is left when the new module is in place but its digest could not be put beside it. -/
theorem unrecorded_leaves {store : ModuleStore} {cwd : Route} {t u v w : FileTree}
    {s' : BuildState σ} {e : BuildError} (apart : store.Apart cwd)
    (there : t.workingDirectory = cwd) (worked : store.Worked cwd t u)
    (made : u.isFile store.staged = true)
    (moved : (store.dropHashFile u).rename store.staged store.binary = .ok v)
    (cleared : FileTree.Change intermediateRoutes ∅ v w) (dirs : FileTree.SameDirectories v w)
    (concluded : Concluded store.forgetHash w s' (.error e)) :
    s'.store = store.forgetHash ∧ s'.store.hash s'.tree = none ∧
    (∃ cause, e = .filesystem store.hashFile cause) ∧
    (∃ content x, u.find? (store.staged.route cwd) = some (.file content x) ∧
      s'.tree.find? (store.binary.route cwd) = some (.file content x)) ∧
    store.Keeps cwd t s'.tree (store.hashFile.route cwd) := by
  have cwd' : u.workingDirectory = cwd := worked.cwd.trans there
  obtain ⟨content, x, staged, placed, replaced, dirs', -, aim, -, located, plain⟩ :=
    ModuleStore.moved_leaves apart cwd' made moved
  have off : store.hashFile.route cwd ∉ intermediateRoutes := fun at_ => apart.hashFile (.inr at_)
  have ready : w.find? (store.binary.route cwd) = some (.file content x) :=
    cleared.find_some (fun at_ => apart.binary (.inr at_)) placed
  have wcwd : w.workingDirectory = cwd :=
    (dirs.cwd.trans dirs'.cwd).trans ((store.dropHashFile_same u).cwd.trans cwd')
  have untouched : w.find? (store.hashFile.route cwd) =
      (store.dropHashFile u).find? (store.hashFile.route cwd) := by
    rw [cleared.find_eq off, replaced.find_eq]
    simpa using ⟨apart.staged_hashFile.symm, apart.distinct.symm⟩
  have dirs' := dirs'.trans dirs
  cases concluded with
  | unread cause failed =>
    have read := FileTree.readBytes_file (dirs'.locate located) plain (wcwd.symm ▸ ready)
    have digest : w.digest store.binary = .ok (Digest.md5OfFile content) := by
      simp [FileTree.digest, read, Except.map]
    exact absurd (failed.symm.trans digest) (by simp)
  | unwritten hash cause _ failed tree kept =>
    obtain ⟨same, unknown⟩ := ModuleStore.dropHashFile_eq_of_unwritten cwd' dirs' untouched failed
    rw [same] at untouched
    rw [tree, kept]
    refine ⟨rfl, unknown, ⟨cause, rfl⟩, ⟨content, x, staged, ready⟩, ?_⟩
    rw [ModuleStore.Keeps, untouched]
    exact FileTree.Change.find worked _ apart.hashFile

/-- A build that fails although its packager has made a new module forgets the digest. Either the
new module could not be moved into place, which keeps the one before but not the digest beside it;
or it is in place and its digest could not be written, so what is beside it is no digest. -/
theorem tryBuild_failed_packaged (tame : b.runner.Tame b.toolchain)
    (apart : s.store.Apart s.tree.workingDirectory) (failed : (b.tryBuild input s).1 = .error e)
    (packaged : ∃ call ∈ b.calls input s, call.Packages b.toolchain s.store) :
    (b.tryBuild input s).2.store = s.store.forgetHash ∧
    (b.tryBuild input s).2.store.hash (b.tryBuild input s).2.tree = none ∧
    let cwd := s.tree.workingDirectory
    let after := (b.tryBuild input s).2.tree
    ((∃ cause, e = .filesystem s.store.binary cause) ∧
      s.store.Keeps cwd s.tree after (s.store.binary.route cwd) ∧
      (after.find? (s.store.hashFile.route cwd) = none ∨
        s.store.Keeps cwd s.tree after (s.store.hashFile.route cwd))) ∨
    ((∃ cause, e = .filesystem s.store.hashFile cause) ∧
      (∃ call ∈ b.calls input s, call.Packages b.toolchain s.store ∧ ∃ content x,
        call.after.find? (s.store.staged.route cwd) = some (.file content x) ∧
        after.find? (s.store.binary.route cwd) = some (.file content x)) ∧
      s.store.Keeps cwd s.tree after (s.store.hashFile.route cwd)) := by
  obtain ⟨call, made, packages⟩ := packaged
  unfold calls at made ⊢
  rw [tryBuild_watched] at failed ⊢
  obtain ⟨s₁, r, updated, ⟨e', rfl, eq⟩ | ⟨work, rfl, eq⟩⟩ := tryBuild_cases tame input s.watched rfl
  · rw [eq] at made failed ⊢
    cases failed
    cases updated with
    | unmade _ _ _ none => exact absurd packages (none call made)
    | stuck call' cause _ _ store worked tree =>
      obtain ⟨unknown, kept, side⟩ := stuck_leaves apart rfl worked
      change s₁.store = s.store.forgetHash at store
      change s₁.tree = s.store.dropHashFile call'.after at tree
      rw [← tree] at unknown kept side
      rw [← store] at unknown
      exact ⟨store, unknown, .inl ⟨⟨cause, rfl⟩, kept, side⟩⟩
  · obtain ⟨t, cleared, dirs, runnerState, concluded⟩ := conclude_cases b.watched work s₁
    rw [eq] at made failed ⊢
    rw [failed] at concluded
    cases updated with
    | unmade _ _ _ none =>
      rw [BuildState.calls, runnerState] at made
      exact absurd packages (none call made)
    | replaced call' made' packages' store worked moved =>
      rw [store] at concluded
      obtain ⟨store', unknown, cause, placed, kept⟩ := unrecorded_leaves apart rfl worked
        packages'.2.2 moved cleared dirs concluded
      refine ⟨store', unknown, .inr ⟨cause, ⟨call', ?_, packages', placed⟩, kept⟩⟩
      rw [BuildState.calls, runnerState]
      exact made'

section

private theorem blocked_build :
    let b := Sample.builder (Sample.runner 0 "NEW".toUTF8)
    let s := Sample.start (Sample.treeWithModule .directory) "b"
    (b.tryBuild Sample.input s).1 =
      .error (.filesystem ⟨"b/lastbuildPLC.md5"⟩ (.system .isADirectory)) ∧
    ∃ call ∈ b.calls Sample.input s, call.Packages b.toolchain s.store :=
  ⟨by decide +kernel, by decide +kernel⟩

/-- A directory at the place of the digest fails a build that has replaced the module. -/
theorem failed_build_replaces_module :
    let b := Sample.builder (Sample.runner 0 "NEW".toUTF8)
    let s := Sample.start (Sample.treeWithModule .directory) "b"
    Runner.Tame b.runner b.toolchain ∧
    (b.tryBuild Sample.input s).1 =
      .error (.filesystem ⟨"b/lastbuildPLC.md5"⟩ (.system .isADirectory)) ∧
    (∃ call ∈ b.calls Sample.input s, call.Packages b.toolchain s.store) ∧
    s.tree.readText s.store.binary = .ok "OLD" ∧
    (b.tryBuild Sample.input s).2.tree.readText s.store.binary = .ok "NEW" :=
  ⟨Sample.runner_tame 0 _, blocked_build.1, blocked_build.2, by decide +kernel, by decide +kernel⟩

/-- The digest of the module before is not told any more. -/
theorem failed_build_tells_no_digest :
    let b := Sample.builder (Sample.runner 0 "NEW".toUTF8)
    let s := Sample.start (Sample.treeWithModule .directory) "b"
    (b.tryBuild Sample.input s).2.store.hash (b.tryBuild Sample.input s).2.tree = none :=
  (tryBuild_failed_packaged (Sample.runner_tame 0 _) ((Sample.named _ _).apart_files _)
    blocked_build.1 blocked_build.2).2.1

end

end Builder
end PlcModule
