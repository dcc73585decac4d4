import PlcModule.Proofs.Build.Trace
import PlcModule.Proofs.FileTree.Removal

/-! How a build can go. Until its packager has made a new module it works on its own files alone;
then it forgets the digest and moves the new module into place; at the end it records what it
finds there. -/
namespace PlcModule

variable {σ α : Type}

/-- The packager ran well and left a file at the staged path. -/
def Call.Packages (t : Tool.Toolchain) (s : ModuleStore) (c : Call) : Prop :=
  c.command = t.package s.staged s.image ∧ c.WentWell ∧ c.after.isFile s.staged = true

instance (t : Tool.Toolchain) (s : ModuleStore) (c : Call) : Decidable (c.Packages t s) :=
  inferInstanceAs (Decidable (_ ∧ _ ∧ _))

/-- Between two trees only what a build works on differs, and directories on the way to the build
directory may be new. -/
def ModuleStore.Worked (cwd : Route) (s : ModuleStore) (t u : FileTree) : Prop :=
  FileTree.Change (s.workRoutes cwd) (FileTree.wayTo cwd s.buildDir) t u

/-- The intermediates are among the files that builds work on. -/
theorem ModuleStore.worked_of_cleared {cwd : Route} {s : ModuleStore} {t u : FileTree}
    (cleared : FileTree.Change intermediateRoutes ∅ t u) : s.Worked cwd t u :=
  cleared.mono (fun _ at_ => .inr at_) (Set.empty_subset _)

namespace Tool.Toolchain

variable (t : Toolchain) (module image : Path)

theorem package_ne_compile (source object : Path) (cflags : String) :
    t.compile source object cflags ≠ t.package module image := by
  intro same
  have first := congrArg (fun c => c.args.head?) same
  simp [compile, package, Command.of, Command.withArg, Command.withArgs, Command.withPath,
    Command.withFlags] at first

theorem package_ne_rename (object : Path) : t.rename object ≠ t.package module image := by
  intro same
  have count := congrArg (fun c => c.args.length) same
  simp [rename, package, Command.of, Command.withArg, Command.withArgs, Command.withPath] at count

theorem linkFlags_head : (splitFlags linkFlags).head? = some "-gdwarf-4" := by
  decide +kernel

theorem package_ne_link (objects : List Path) (elf : Path) :
    t.link objects elf ≠ t.package module image := by
  intro same
  have flags := linkFlags_head
  simp only [link, package, Command.withFlags] at same
  -- The words of the flags are not looked into again.
  generalize splitFlags linkFlags = words at flags same
  have args := congrArg Command.args same
  cases words with
  | nil => cases flags
  | cons word rest =>
    cases flags
    simp [Command.of, Command.withArg, Command.withArgs, Command.withPath] at args

end Tool.Toolchain

/-- No tool of a job packages a module. -/
theorem BuildPlan.jobTasks_not_package {t : Tool.Toolchain} {jobs : List CompileJob} {task : Task}
    (planned : task ∈ jobs.flatMap (jobTasks t)) (module image : Path) :
    task.command ≠ t.package module image := by
  obtain ⟨job, _, member⟩ := List.mem_flatMap.mp planned
  simp only [jobTasks, List.mem_cons, List.not_mem_nil, or_false] at member
  rcases member with rfl | rfl
  · exact t.package_ne_compile _ _ _ _ _
  · exact t.package_ne_rename _ _ _

theorem Performed.planned {runner : Runner σ} {plan : List Task}
    {s s' : BuildState (σ × List Call)} {calls : List Call} {r : Except BuildError α}
    (h : Performed runner plan s s' calls r) {call : Call} (made : call ∈ calls) :
    ∃ task ∈ plan, call.command = task.command := by
  have member := h.follows.commands_prefix.subset (List.mem_map_of_mem made)
  obtain ⟨task, planned, same⟩ := List.mem_map.mp member
  exact ⟨task, planned, same.symm⟩

namespace Builder

variable {b : Builder σ} {s : BuildState (σ × List Call)}

/-- What the steps up to the new module have come to: none was made, or the packager made one and
it went into place or could not. -/
inductive Updated (t : Tool.Toolchain) (s s' : BuildState (σ × List Call)) :
    Except BuildError Unit → Prop where
  | unmade (r : Except BuildError Unit) (store : s'.store = s.store)
    (tree : s.store.Worked s.tree.workingDirectory s.tree s'.tree)
    (none : ∀ call ∈ s'.calls, ¬ call.Packages t s.store) : Updated t s s' r
  | stuck (call : Call) (cause : Fault) (made : call ∈ s'.calls)
    (packages : call.Packages t s.store) (store : s'.store = s.store.forgetHash)
    (worked : s.store.Worked s.tree.workingDirectory s.tree call.after)
    (tree : s'.tree = s.store.dropHashFile call.after)
    (failed : s'.tree.rename s.store.staged s.store.binary = .error cause) :
    Updated t s s' (.error (.filesystem s.store.binary cause))
  | replaced (call : Call) (made : call ∈ s'.calls) (packages : call.Packages t s.store)
    (store : s'.store = s.store.forgetHash)
    (worked : s.store.Worked s.tree.workingDirectory s.tree call.after)
    (moved : (s.store.dropHashFile call.after).rename s.store.staged s.store.binary = .ok s'.tree) :
    Updated t s s' (.ok ())

/-- The store is of the same module in the same place, whatever it still remembers. -/
theorem Updated.reopened {t : Tool.Toolchain} {s' : BuildState (σ × List Call)}
    {r : Except BuildError Unit} (updated : Updated t s s' r) :
    s'.store.reopened = s.store.reopened := by
  cases updated with
  | unmade _ store => rw [store]
  | stuck _ _ _ _ store => rw [store]; rfl
  | replaced _ _ _ store => rw [store]; rfl

/-- What cannot be taken away from the staged path ends the build. Otherwise nothing is there. -/
theorem clearStaged_apply (s : BuildState σ) :
    (∃ cause, s.tree.removeFile s.store.staged = .error cause ∧ cause ≠ .notFound ∧
      clearStaged s = (.error (.filesystem s.store.staged cause), s)) ∨
    (∀ cause, s.tree.removeFile s.store.staged = .error cause → cause = .notFound) ∧
      ∃ tree, tree.pathExists s.store.staged = false ∧
        clearStaged s = (.ok (), { s with tree }) := by
  simp only [clearStaged, Step.bind_apply, Step.ask, Step.files]
  cases removed : s.tree.removeFile s.store.staged with
  | ok tree => exact .inr ⟨by simp, tree, FileTree.removeFile_gone removed, rfl⟩
  | error cause =>
    by_cases missing : cause = .notFound
    · subst missing
      exact .inr ⟨by simp, s.tree, FileTree.removeFile_missing removed, rfl⟩
    · refine .inl ⟨cause, rfl, missing, ?_⟩
      split
      · simp_all
      · simp_all

/-- Unless what is at the staged path cannot be taken away the packager is run. If it did its work
it has the last word on the files, and otherwise this step fails and clears the staged path. -/
theorem stage_ends {s' : BuildState (σ × List Call)} {r : Except BuildError Unit}
    (ran : b.watched.stage s = (r, s')) :
    (∃ cause, s.tree.removeFile s.store.staged = .error cause ∧ cause ≠ .system .notFound ∧
      r = .error (.filesystem s.store.staged cause) ∧ s'.calls = s.calls ∧ s'.tree = s.tree) ∨
    ∃ call, call.command = b.toolchain.package s.store.staged s.store.image ∧
      s'.calls = s.calls ++ [call] ∧
      (call.Packages b.toolchain s.store ∧ r = .ok () ∧ s'.tree = call.after ∨
      ¬ call.Packages b.toolchain s.store ∧ (∃ e, r = .error e) ∧
        FileTree.Change {s.store.staged.route call.after.workingDirectory} ∅ call.after s'.tree) := by
  let told : BuildState (σ × List Call) := { s with log := s.log ++ [
    .info "\nGenerating PLC File:",
    .info ("   [UD]  " ++ s.store.image.displayName ++ " -> " ++ s.store.binaryName)] }
  have start : b.watched.stage s = (clearStaged >>= fun _ => orDropStaged (b.watched.runTool
      (b.toolchain.package s.store.staged s.store.image) "Packaging" s.store.binaryName) >>=
        fun _ => checkStaged) told := by
    simp [stage, Step.bind_apply, Step.ask, Step.info, Step.tell, told, watched]
  rw [start] at ran
  rcases clearStaged_apply told with ⟨cause, kept, other, failed⟩ | ⟨-, tree, -, cleared⟩
  · rw [Step.bind_apply, failed] at ran
    obtain ⟨rfl, rfl⟩ := Prod.mk.inj ran
    exact .inl ⟨cause, kept, other, rfl, rfl, rfl⟩
  rw [Step.bind_apply, cleared] at ran
  obtain ⟨call, t, called, ends⟩ := runTool_watched b
    (b.toolchain.package s.store.staged s.store.image) "Packaging" s.store.binaryName
    { told with tree }
  have store : t.store = s.store := called.store
  have calls : t.calls = s.calls ++ [call] := called.watched
  refine .inr ⟨call, called.command, ?_⟩
  rcases ends with ⟨well, packed⟩ | ⟨bad, packed⟩
  · simp only [Step.bind_apply, orDropStaged, packed, checkStaged, Step.need, store,
      called.tree] at ran
    cases there : call.after.isFile s.store.staged with
    | true =>
      simp only [there, if_true] at ran
      cases ran
      exact ⟨calls, .inl ⟨⟨called.command, well, there⟩, rfl, called.tree⟩⟩
    | false =>
      simp only [there, Bool.false_eq_true, if_false] at ran
      cases ran
      refine ⟨calls, .inr ⟨fun packages => ?_, ⟨_, rfl⟩, called.tree ▸ .refl _ _ _⟩⟩
      rw [packages.2.2] at there
      cases there
  · simp only [Step.bind_apply, orDropStaged, packed, Step.tryFiles, store, called.tree] at ran
    cases ran
    exact ⟨calls, .inr ⟨fun packages => bad packages.2.1, ⟨_, rfl⟩, FileTree.removed_change _ _⟩⟩

/-- If the packager did its work the new module stands ready, and otherwise this step fails. -/
theorem stage_cases (tame : b.runner.Tame b.toolchain) (s : BuildState (σ × List Call)) :
    let s' := (b.watched.stage s).2
    Quiet {s.store.staged.route s.tree.workingDirectory} ∅ s s' ∧
    ((∃ e, (b.watched.stage s).1 = .error e ∧
      ∀ call ∈ s'.calls, call ∈ s.calls ∨ ¬ call.Packages b.toolchain s.store) ∨
    (b.watched.stage s).1 = .ok () ∧
      ∃ call, s'.calls = s.calls ++ [call] ∧ call.Packages b.toolchain s.store ∧
        call.after = s'.tree) := by
  refine ⟨stage_within (b := b.watched) tame.watched s rfl rfl, ?_⟩
  rcases ran : b.watched.stage s with ⟨r, s'⟩
  rcases stage_ends ran with ⟨cause, -, -, rfl, calls, -⟩ |
    ⟨call, -, calls, ⟨packages, rfl, tree⟩ | ⟨unpackaged, ⟨e, rfl⟩, -⟩⟩
  · exact .inl ⟨_, rfl, fun call made => .inl (calls ▸ made)⟩
  · exact .inr ⟨rfl, call, calls, packages, tree.symm⟩
  · refine .inl ⟨e, rfl, fun other made => ?_⟩
    rw [calls] at made
    rcases List.mem_append.mp made with before | now
    · exact .inl before
    · exact .inr (List.mem_singleton.mp now ▸ unpackaged)

theorem compileProject_unmade (tame : b.runner.Tame b.toolchain) (input : BuildInput)
    (s : BuildState (σ × List Call)) (start : s.calls = []) :
    let s' := (b.watched.compileProject input s).2
    Quiet (s.store.workRoutes s.tree.workingDirectory)
      (FileTree.wayTo s.tree.workingDirectory s.store.buildDir) s s' ∧
    ∀ call ∈ s'.calls, ¬ call.Packages b.toolchain s.store := by
  refine ⟨compileProject_within (b := b.watched) tame.watched input s rfl rfl, ?_⟩
  obtain ⟨-, calls, performed⟩ := compileProject_performs b input s rfl
  rw [performed.watched, start, List.nil_append]
  intro call made packages
  obtain ⟨task, planned, same⟩ := performed.planned made
  exact BuildPlan.jobTasks_not_package planned _ _ (same.symm.trans packages.1)

theorem link_unmade (tame : b.runner.Tame b.toolchain) (objects : List Path)
    (s : BuildState (σ × List Call)) :
    let s' := (b.watched.link objects s).2
    Quiet {s.store.image.route s.tree.workingDirectory} ∅ s s' ∧
    ∀ call ∈ s'.calls, call ∈ s.calls ∨ ¬ call.Packages b.toolchain s.store := by
  refine ⟨link_within (b := b.watched) tame.watched objects s rfl rfl, ?_⟩
  obtain ⟨-, calls, performed⟩ := link_performs b objects s rfl
  rw [performed.watched]
  intro call made
  rcases List.mem_append.mp made with before | now
  · exact .inl before
  · refine .inr fun packages => ?_
    obtain ⟨task, planned, same⟩ := performed.planned now
    rw [List.mem_singleton.mp planned] at same
    exact b.toolchain.package_ne_link _ _ _ _ (same.symm.trans packages.1)

theorem makeModule_cons (b : Builder σ) (object : Path) (rest : List Path) :
    b.makeModule (object :: rest) = b.link (object :: rest) >>=
      fun _ => b.stage >>= fun _ => forgetHash >>= fun _ => install := rfl

theorem updateModule_apply (b : Builder σ) (work : Compiled) (s : BuildState σ) :
    b.updateModule work s =
      if work.relinked then b.makeModule (work.jobs.map CompileJob.object) s
      else Step.info ("   [pass]  " ++ s.store.binaryName ++ " is up to date") s := by
  cases relinked : work.relinked <;> simp [updateModule, Step.bind_apply, Step.ask, relinked]

/-- The module is replaced, or stays if it cannot be. -/
theorem install_cases (s : BuildState σ) :
    (install s).2.store = s.store ∧ (install s).2.runnerState = s.runnerState ∧
    ((∃ cause, s.tree.rename s.store.staged s.store.binary = .error cause ∧
      (install s).1 = .error (.filesystem s.store.binary cause) ∧ (install s).2.tree = s.tree) ∨
    s.tree.rename s.store.staged s.store.binary = .ok (install s).2.tree ∧
      (install s).1 = .ok ()) := by
  simp only [install, Step.bind_apply, Step.ask, Step.files]
  cases moved : s.tree.rename s.store.staged s.store.binary with
  | error cause => exact ⟨rfl, rfl, .inl ⟨cause, rfl, rfl, rfl⟩⟩
  | ok u => exact ⟨rfl, rfl, .inr ⟨rfl, rfl⟩⟩

/-- The digest goes first; then the module is replaced, or stays if it cannot be. -/
theorem replace_cases (s : BuildState σ) :
    let m : Step σ Unit := forgetHash >>= fun _ => install
    let dropped := s.store.dropHashFile s.tree
    (m s).2.store = s.store.forgetHash ∧ (m s).2.runnerState = s.runnerState ∧
    ((∃ cause, dropped.rename s.store.staged s.store.binary = .error cause ∧
      (m s).1 = .error (.filesystem s.store.binary cause) ∧ (m s).2.tree = dropped) ∨
    dropped.rename s.store.staged s.store.binary = .ok (m s).2.tree ∧ (m s).1 = .ok ()) := by
  intro m dropped
  have forgot : m s = install { s with tree := dropped, store := s.store.forgetHash } := by
    simp only [m, Step.bind_apply, forgetHash, dropped]
  rw [forgot]
  exact install_cases _

section

variable {s₁ : BuildState (σ × List Call)}

/-- From where the image is linked, what is staged goes into place, or the build ends. -/
theorem stageAndInstall_cases (tame : b.runner.Tame b.toolchain)
    (quiet : Quiet (s.store.workRoutes s.tree.workingDirectory)
      (FileTree.wayTo s.tree.workingDirectory s.store.buildDir) s s₁)
    (none : ∀ call ∈ s₁.calls, ¬ call.Packages b.toolchain s.store) :
    Updated b.toolchain s
      ((b.watched.stage >>= fun _ => forgetHash >>= fun _ => install : Step _ Unit) s₁).2
      ((b.watched.stage >>= fun _ => forgetHash >>= fun _ => install : Step _ Unit) s₁).1 := by
  obtain ⟨staged, ⟨e, failed, fewer⟩ | ⟨went, call, calls, packages, after⟩⟩ := stage_cases tame s₁
  all_goals
    rw [quiet.store, quiet.tree.cwd] at staged
    have quiet' := quiet.trans (staged.mono
      (Set.singleton_subset_iff.mpr (ModuleStore.staged_mem _ _)) (Set.empty_subset _))
  · rw [Step.bind_of_error _ failed]
    rw [quiet.store] at fewer
    change Updated b.toolchain s (b.watched.stage s₁).2 (.error e)
    exact .unmade _ quiet'.store quiet'.tree fun call made => (fewer call made).elim (none call) id
  · rw [Step.bind_of_ok _ went]
    rw [quiet.store] at packages
    have worked : s.store.Worked s.tree.workingDirectory s.tree call.after := by
      rw [after]; exact quiet'.tree
    obtain ⟨store, runnerState, ⟨cause, failed, result, tree⟩ | ⟨moved, result⟩⟩ :=
      replace_cases (b.watched.stage s₁).2
    all_goals
      rw [quiet'.store] at store
      rw [quiet'.store, ← after] at *
      have made' : call ∈ (b.watched.stage s₁).2.calls := by simp [calls]
      rw [BuildState.calls, ← runnerState] at made'
      rw [result]
    · exact .stuck call cause made' packages store worked tree (tree ▸ failed)
    · exact .replaced call made' packages store worked moved

theorem makeModule_cases (tame : b.runner.Tame b.toolchain)
    (quiet : Quiet (s.store.workRoutes s.tree.workingDirectory)
      (FileTree.wayTo s.tree.workingDirectory s.store.buildDir) s s₁)
    (none : ∀ call ∈ s₁.calls, ¬ call.Packages b.toolchain s.store) (objects : List Path) :
    Updated b.toolchain s (b.watched.makeModule objects s₁).2
      (b.watched.makeModule objects s₁).1 := by
  cases objects with
  | nil => exact .unmade _ quiet.store quiet.tree none
  | cons object rest =>
    rw [makeModule_cons]
    obtain ⟨linked, fewer⟩ := link_unmade tame (object :: rest) s₁
    rw [quiet.store, quiet.tree.cwd] at linked
    rw [quiet.store] at fewer
    have quiet := quiet.trans (linked.mono
      (Set.singleton_subset_iff.mpr (ModuleStore.image_mem _ _)) (Set.empty_subset _))
    have none : ∀ call ∈ (b.watched.link (object :: rest) s₁).2.calls,
        ¬ call.Packages b.toolchain s.store := fun call made =>
      (fewer call made).elim (none call) id
    rcases Step.bind_cases (b.watched.link (object :: rest)) (fun _ => b.watched.stage >>=
      fun _ => forgetHash >>= fun _ => install) s₁ with ⟨e, -, eq⟩ | ⟨-, -, eq⟩
    · rw [eq]
      exact .unmade _ quiet.store quiet.tree none
    · rw [eq]
      exact stageAndInstall_cases tame quiet none

end

/-- From where the sources are compiled, the module is updated or the build ends. -/
theorem updateModule_cases (tame : b.runner.Tame b.toolchain) {s s₁ : BuildState (σ × List Call)}
    (quiet : Quiet (s.store.workRoutes s.tree.workingDirectory)
      (FileTree.wayTo s.tree.workingDirectory s.store.buildDir) s s₁)
    (none : ∀ call ∈ s₁.calls, ¬ call.Packages b.toolchain s.store) (work : Compiled) :
    Updated b.toolchain s (b.watched.updateModule work s₁).2 (b.watched.updateModule work s₁).1 := by
  rw [updateModule_apply]
  split
  · exact makeModule_cases tame quiet none _
  · exact .unmade _ quiet.store quiet.tree none

/-- How recording ends: the module cannot be read, or the digest cannot be written beside it, or
it is on record. -/
inductive Concluded (store : ModuleStore) (t : FileTree) (s' : BuildState σ) :
    Except BuildError BuildReport → Prop where
  | unread (cause : Fault) (failed : t.digest store.binary = .error cause) (tree : s'.tree = t)
    (kept : s'.store = store) : Concluded store t s' (.error (.filesystem store.binary cause))
  | unwritten (hash : String) (cause : Fault) (read : t.digest store.binary = .ok hash)
    (failed : t.writeBytes store.hashFile hash.toUTF8 = .error cause) (tree : s'.tree = t)
    (kept : s'.store = store) : Concluded store t s' (.error (.filesystem store.hashFile cause))
  | recorded (hash : String) (report : BuildReport) (read : t.digest store.binary = .ok hash)
    (written : t.writeBytes store.hashFile hash.toUTF8 = .ok s'.tree)
    (kept : s'.store.reopened = store.reopened) (remembered : s'.store.cachedHash = some hash)
    (told : report.hash = hash) : Concluded store t s' (.ok report)

theorem removeIntermediates_apply (b : Builder σ) (s : BuildState σ) :
    ∃ log, b.removeIntermediates s =
      (.ok (), { s with tree := (s.tree.removeIntermediates s.store.buildDir).1, log }) := by
  let removed := s.tree.removeIntermediates s.store.buildDir
  exact Step.infoIf_apply b.verbose ("Removed " ++ toString removed.2 ++ " intermediate file(s)")
    { s with tree := removed.1 }

theorem recordHash_apply (s : BuildState σ) :
    recordHash s = match s.tree.digest s.store.binary with
      | .error cause => (.error (.filesystem s.store.binary cause), s)
      | .ok hash => match s.tree.writeBytes s.store.hashFile hash.toUTF8 with
        | .error cause => (.error (.filesystem s.store.hashFile cause), s)
        | .ok tree => (.ok hash, { s with tree, store := s.store.rememberHash hash }) := by
  simp only [recordHash, Step.bind_apply, Step.need]
  cases s.tree.digest s.store.binary with
  | error cause => rfl
  | ok hash =>
    simp only [keepHash, ModuleStore.writeHashFile]
    cases s.tree.writeBytes s.store.hashFile hash.toUTF8 <;> rfl

/-- At the end the build directory is cleared up, and then what is there is recorded. -/
theorem conclude_ends (b : Builder σ) (work : Compiled) (s : BuildState σ) :
    (b.conclude work s).2.runnerState = s.runnerState ∧
      Concluded s.store (s.tree.removeIntermediates s.store.buildDir).1 (b.conclude work s).2
        (b.conclude work s).1 := by
  obtain ⟨log, cleared⟩ := removeIntermediates_apply b s
  generalize (s.tree.removeIntermediates s.store.buildDir).1 = t at *
  have start : b.conclude work s = (recordHash >>= fun hash => recordDigests work.digests >>=
      fun _ => b.tellDone hash >>= fun _ => Pure.pure
        (⟨s.store.binary, hash, work.jobs.length, work.relinked⟩ : BuildReport))
          { s with tree := t, log } := by
    simp only [conclude, Step.bind_apply, Step.ask, cleared]
  rw [start]
  have record := recordHash_apply { s with tree := t, log }
  cases read : t.digest s.store.binary with
  | error cause =>
    simp only [read] at record
    rw [Step.bind_apply, record]
    exact ⟨rfl, .unread cause read rfl rfl⟩
  | ok hash =>
    cases written : t.writeBytes s.store.hashFile hash.toUTF8 with
    | error cause =>
      simp only [read, written] at record
      rw [Step.bind_apply, record]
      exact ⟨rfl, .unwritten hash cause read written rfl rfl⟩
    | ok u =>
      simp only [read, written] at record
      rw [Step.bind_apply, record]
      exact ⟨rfl, .recorded hash _ read written rfl rfl rfl⟩

theorem conclude_cases (b : Builder σ) (work : Compiled) (s : BuildState σ) :
    ∃ t, FileTree.Change intermediateRoutes ∅ s.tree t ∧ FileTree.SameDirectories s.tree t ∧
      (b.conclude work s).2.runnerState = s.runnerState ∧
      Concluded s.store t (b.conclude work s).2 (b.conclude work s).1 :=
  ⟨_, s.tree.removeIntermediates_change _, FileTree.removeNamed_same _ _ _, conclude_ends b work s⟩

/-- A whole build: the module is updated, and if that went well what is there is recorded. -/
theorem tryBuild_cases (tame : b.runner.Tame b.toolchain) (input : BuildInput)
    (s : BuildState (σ × List Call)) (start : s.calls = []) :
    ∃ s₁ r, Updated b.toolchain s s₁ r ∧
      ((∃ e, r = .error e ∧ b.watched.tryBuild input s = (.error e, s₁)) ∨
      (∃ work, r = .ok () ∧ b.watched.tryBuild input s = b.watched.conclude work s₁)) := by
  obtain ⟨quiet, none⟩ := compileProject_unmade tame input s start
  rcases Step.bind_cases (b.watched.compileProject input) (fun work =>
    b.watched.updateModule work >>= fun _ => b.watched.conclude work) s with
    ⟨e, -, eq⟩ | ⟨work, -, eq⟩
  · exact ⟨_, .error e, .unmade _ quiet.store quiet.tree none, .inl ⟨e, rfl, eq⟩⟩
  · have updated := updateModule_cases tame quiet none work
    rcases Step.bind_cases (b.watched.updateModule work) (fun _ => b.watched.conclude work)
      (b.watched.compileProject input s).2 with ⟨e, failed, eq'⟩ | ⟨_, went, eq'⟩
    · rw [failed] at updated
      exact ⟨_, _, updated, .inl ⟨e, rfl, eq.trans eq'⟩⟩
    · rw [went] at updated
      exact ⟨_, _, updated, .inr ⟨work, rfl, eq.trans eq'⟩⟩

end Builder
end PlcModule
