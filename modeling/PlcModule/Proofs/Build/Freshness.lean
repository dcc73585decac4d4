import PlcModule.Proofs.Build.Clearance

/-! Only what the packager makes in a build is installed by it. A build is cut in two where it is
about to run its packager: up to there it has issued no such command and leaves nothing at the
staged path, and from there each way that the packager can go is followed to the end. -/
namespace PlcModule

variable {σ α β : Type}

namespace ModuleStore

variable {s : ModuleStore} {t : FileTree}

theorem staged_suffix (s : ModuleStore) : ".tmp".toList <:+ (s.binaryName ++ ".tmp").toList := by
  simp

/-- The staged path has a name wherever it leads. -/
theorem staged_named {place : FileTree.Place} (located : t.locate s.staged = .ok place) :
    place.name.isNone = false := by
  obtain ⟨front, last, names, ends⟩ := FileTree.pathNames_child_suffix (by decide) (by decide)
    s.staged_suffix s.buildDir
  have here : last ≠ "." := by rintro rfl; revert ends; decide
  have up : last ≠ ".." := by rintro rfl; revert ends; decide
  change FileTree.pathNames s.staged = _ at names
  simp only [FileTree.locate, names, List.getLast?_concat] at located
  split at located
  · cases located
  split at located
  · cases located
  split at located
  · cases located
  obtain ⟨directory, -, located⟩ := ok_of_bind located
  simp only [FileTree.placeIn, here, up, if_false] at located
  split at located
  · cases located
  · cases located
    rfl

theorem staged_ne_hashFile (cwd : Route) (s : ModuleStore) :
    s.staged.route cwd ≠ s.hashFile.route cwd := by
  obtain ⟨last, final, ends⟩ := Path.route_child_suffix (by decide) (by decide) (by decide)
    s.staged_suffix cwd s.buildDir
  intro same
  change (s.staged.route cwd).getLast? = _ at final
  rw [same, hashFile_route, List.getLast?_concat] at final
  cases final
  revert ends
  decide

/-- No record that was to be removed is left as a file. -/
theorem dropHashFile_notFile (s : ModuleStore) (t : FileTree) :
    (s.dropHashFile t).isFile s.hashFile = false := by
  refine FileTree.removed_notFile fun place located => ?_
  simp [(FileTree.place_child located hashFile_plain).1]

/-- Without the record the staged module is what it was. -/
theorem dropHashFile_staged (h : t.isFile s.staged = true) :
    (s.dropHashFile t).isFile s.staged = true ∧ ∃ content, t.readBytes s.staged = .ok content ∧
      (s.dropHashFile t).readBytes s.staged = .ok content := by
  have same := s.dropHashFile_same t
  have there := (s.dropHashFile_change t).find_eq (by simpa using s.staged_ne_hashFile _)
  obtain ⟨content, read⟩ := FileTree.isFile_read h
  exact ⟨same.isFile there h, content, read, FileTree.readBytes_same same there read⟩

end ModuleStore

namespace Step

/-- However it ends, a step leaves the store as it is and does not issue a command. -/
def Spares (c : Tool.Command) (m : Step σ α) : Prop :=
  ∀ s : BuildState σ, (m s).2.store = s.store ∧
    ∃ issued, (m s).2.issued = s.issued ++ issued ∧ c ∉ issued

namespace Spares

variable {c : Tool.Command} {m : Step σ α} {next : α → Step σ β}

theorem bind (first : m.Spares c) (rest : ∀ a, (next a).Spares c) : (m >>= next).Spares c := by
  intro s
  obtain ⟨store, issued, grown, other⟩ := first s
  rcases bind_cases m next s with ⟨e, -, eq⟩ | ⟨a, -, eq⟩
  · rw [eq]
    exact ⟨store, issued, grown, other⟩
  · rw [eq]
    obtain ⟨store', more, grown', other'⟩ := rest a (m s).2
    refine ⟨store'.trans store, issued ++ more, ?_, by simp [other, other']⟩
    rw [grown', grown, List.append_assoc]

theorem ask_bind {f : BuildState σ → α} (rest : ∀ s, (next (f s)).Spares c) :
    (Step.ask f >>= next).Spares c :=
  fun s => rest s s

/-- A step that has nothing to do with tools or with the store. -/
theorem of_idle (h : ∀ s, (m s).2.store = s.store ∧ (m s).2.issued = s.issued) : m.Spares c :=
  fun s => ⟨(h s).1, [], by simp [(h s).2], List.not_mem_nil⟩

theorem pure (a : α) : (Pure.pure a : Step σ α).Spares c :=
  of_idle fun _ => ⟨rfl, rfl⟩

theorem info (text : String) : (Step.info text : Step σ Unit).Spares c :=
  of_idle fun _ => ⟨rfl, rfl⟩

theorem infoIf (wanted : Bool) (text : String) : (Step.infoIf wanted text : Step σ Unit).Spares c := by
  cases wanted
  · exact .pure ()
  · exact .info text

theorem need (f : BuildState σ → Except BuildError α) : (Step.need f).Spares c :=
  of_idle fun _ => ⟨rfl, rfl⟩

theorem files (path : Path) (f : FileTree → Except Fault FileTree) :
    (Step.files path f : Step σ Unit).Spares c := by
  refine of_idle fun s => ?_
  simp only [Step.files]
  split <;> exact ⟨rfl, rfl⟩

end Spares
end Step

namespace Builder

variable (b : Builder σ) (module image : Path)

theorem makeBuildDir_spares (c : Tool.Command) : (makeBuildDir : Step σ Unit).Spares c := by
  refine .of_idle fun s => ?_
  simp only [makeBuildDir]
  split <;> exact ⟨rfl, rfl⟩

theorem runTool_spares {c : Tool.Command} {other : Tool.Command} (apart : other ≠ c)
    (step subject : String) : (b.runTool other step subject).Spares c :=
  .bind (.infoIf _ _) fun _ => .bind (fun _ => ⟨rfl, [other], rfl, by simpa using apart.symm⟩)
    fun _ => .bind (.need _) fun _ => .infoIf _ _

theorem writeSources_spares (input : BuildInput) (c : Tool.Command) :
    (b.writeSources input).Spares c :=
  .ask_bind fun _ => .bind (makeBuildDir_spares c) fun _ => .bind (.need _) fun _ =>
    .bind (.files _ _) fun _ => .bind (.files _ _) fun _ => .files _ _

theorem compile_spares (job : CompileJob) :
    (b.compile job).Spares (b.toolchain.package module image) :=
  .bind (.info _) fun _ => .ask_bind fun _ => .ask_bind fun _ => .bind (.infoIf _ _) fun _ =>
    .bind (runTool_spares b (b.toolchain.package_ne_compile _ _ _ _ _) _ _) fun _ =>
      .bind (runTool_spares b (b.toolchain.package_ne_rename _ _ _) _ _) fun _ => .pure _

theorem compileAll_spares (jobs : List CompileJob) :
    (b.compileAll jobs).Spares (b.toolchain.package module image) := by
  induction jobs with
  | nil => exact .pure _
  | cons job rest ih =>
    exact .bind (compile_spares b module image job) fun _ => .bind ih fun _ => .pure _

theorem compileGroups_spares (groups : List CompileGroup) :
    (b.compileGroups groups).Spares (b.toolchain.package module image) := by
  induction groups with
  | nil => exact .pure _
  | cons group rest ih =>
    exact .bind (.info _) fun _ => .bind (compileAll_spares b module image group.jobs) fun _ =>
      .bind ih fun _ => .pure _

theorem compileProject_spares (input : BuildInput) :
    (b.compileProject input).Spares (b.toolchain.package module image) :=
  .bind (writeSources_spares b input _) fun _ => .ask_bind fun _ => .ask_bind fun _ =>
    .bind (compileGroups_spares b module image _) fun _ => .pure _

theorem link_spares (objects : List Path) :
    (b.link objects).Spares (b.toolchain.package module image) :=
  .ask_bind fun _ => .bind (.info _) fun _ =>
    runTool_spares b (b.toolchain.package_ne_link _ _ _ _) _ _

/-- Goes only so far in making a module, if one is to be made. -/
def updateUpTo (part : List Path → Step σ Unit) (work : Compiled) : Step σ Unit :=
  if work.relinked then part (work.jobs.map CompileJob.object)
  else do
    let store ← .ask BuildState.store
    .info ("   [pass]  " ++ store.binaryName ++ " is up to date")

/-- A build that goes only so far in making its module. -/
def upTo (part : List Path → Step σ Unit) (input : BuildInput) : Step σ Compiled := do
  let work ← b.compileProject input
  updateUpTo part work
  pure work

/-- Making a module up to its image. -/
def linkObjects (objects : List Path) : Step σ Unit :=
  if objects.isEmpty then .fail .nothingToLink else b.link objects

/-- Clearing the staged path, once the log says what is to come. -/
def clearWay : Step σ Unit := do
  let store ← .ask BuildState.store
  .info "\nGenerating PLC File:"
  .info ("   [UD]  " ++ store.image.displayName ++ " -> " ++ store.binaryName)
  clearStaged

/-- Running the packager, and forgetting the digest of the module before if it made a new one. -/
def package : Step σ Unit := do
  let store ← .ask BuildState.store
  orDropStaged
    (b.runTool (b.toolchain.package store.staged store.image) "Packaging" store.binaryName)
  checkStaged
  forgetHash

/-- Making a module up to where its packager is run. -/
def makeWay (objects : List Path) : Step σ Unit := do
  b.linkObjects objects
  clearWay

theorem clearWay_apply (s : BuildState σ) : ∃ log, clearWay s = clearStaged { s with log } :=
  ⟨_, rfl⟩

/-- The staged path is one and the same before and after it is cleared. -/
theorem stage_eq : (b.stage >>= fun _ => forgetHash) = clearWay >>= fun _ => b.package := by
  simp only [stage, package, clearWay, bind_assoc]
  funext s
  simp only [Step.bind_apply, Step.ask, Step.info, Step.tell]
  rcases clearStaged_apply (⟨s.tree, s.store, s.log ++ [.info "\nGenerating PLC File:"] ++
      [.info ("   [UD]  " ++ s.store.image.displayName ++ " -> " ++ s.store.binaryName)],
      s.issued, s.runnerState⟩ : BuildState σ) with ⟨_, _, _, failed⟩ | ⟨-, tree, -, went⟩
  · rw [failed]
  · rw [went]

theorem makeModule_eq : b.makeModule =
    fun objects => b.makeWay objects >>= fun _ => b.package >>= fun _ => install := by
  funext objects
  simp only [makeWay, bind_assoc]
  cases objects with
  | nil => rfl
  | cons object rest =>
    rw [makeModule_cons, ← bind_assoc clearWay, ← stage_eq, bind_assoc]
    rfl

/-- What comes after a part is done if the module is made. -/
theorem upTo_bind (part : List Path → Step σ Unit) (rest : Step σ Unit) (input : BuildInput) :
    b.upTo (fun objects => part objects >>= fun _ => rest) input =
      b.upTo part input >>= fun work =>
        (if work.relinked then rest else pure ()) >>= fun _ => pure work := by
  simp only [upTo, bind_assoc, pure_bind]
  congr 1
  funext work
  unfold updateUpTo
  cases work.relinked with
  | false => rfl
  | true => simp only [if_true, bind_assoc]

/-- A build that is to make its module anew clears the staged path, runs the packager and puts the
new module into place, and then it concludes. -/
theorem tryBuild_eq (input : BuildInput) :
    b.tryBuild input = b.upTo b.makeWay input >>= fun work =>
      (if work.relinked then b.package >>= fun _ => install else pure ()) >>= fun _ =>
        b.conclude work := by
  have whole : b.tryBuild input = b.upTo b.makeModule input >>= b.conclude := by
    simp only [tryBuild, upTo, bind_assoc, pure_bind]
    congr 1
    funext work
    cases relinked : work.relinked <;> simp only [updateModule, updateUpTo, relinked] <;> rfl
  simp only [whole, makeModule_eq, upTo_bind, bind_assoc, pure_bind]

theorem clearWay_spares (c : Tool.Command) : (clearWay : Step σ Unit).Spares c :=
  .ask_bind fun _ => .bind (.info _) fun _ => .bind (.info _) fun _ => .ask_bind fun _ =>
    .files _ _

theorem linkObjects_spares (objects : List Path) :
    (b.linkObjects objects).Spares (b.toolchain.package module image) := by
  cases objects with
  | nil => exact .of_idle fun _ => ⟨rfl, rfl⟩
  | cons object rest => exact link_spares b module image _

theorem makeWay_spares (objects : List Path) :
    (b.makeWay objects).Spares (b.toolchain.package module image) :=
  .bind (linkObjects_spares b module image objects) fun _ => clearWay_spares _

theorem upTo_spares {part : List Path → Step σ Unit}
    {c : Tool.Command} (input : BuildInput) (project : (b.compileProject input).Spares c)
    (spares : ∀ objects, (part objects).Spares c) : (b.upTo part input).Spares c := by
  refine .bind project fun work => .bind ?_ fun _ => .pure _
  unfold updateUpTo
  split
  · exact spares _
  · exact .ask_bind fun _ => .info _

/-- How running the packager ends. If it fails the staged path is cleared again; it may have left no
file there; or it has made a new module, and the digest of the one before is forgotten. -/
inductive Packaged (t : Tool.Toolchain) (store : ModuleStore) (call : Call) (s' : BuildState σ) :
    Except BuildError Unit → Prop where
  | failed (bad : ¬ call.WentWell) (kept : s'.store = store)
    (tree : s'.tree = (call.after.removeFile store.staged).toOption.getD call.after) :
    Packaged t store call s' (.error ((BuildPlan.packageTask t store).failure call.answer))
  | unmade (well : call.WentWell) (none : call.after.isFile store.staged = false)
    (kept : s'.store = store) (tree : s'.tree = call.after) :
    Packaged t store call s' (.error (.filesystem store.staged .noModuleWritten))
  | made (well : call.WentWell) (there : call.after.isFile store.staged = true)
    (forgot : s'.store = store.forgetHash) (tree : s'.tree = store.dropHashFile call.after) :
    Packaged t store call s' (.ok ())

/-- Before a new module is moved its record is not a file and its digest is not known, and the
module is still what the packager made. -/
theorem Packaged.ready {t : Tool.Toolchain} {store : ModuleStore} {call : Call} {s' : BuildState σ}
    (packaged : Packaged t store call s' (.ok ())) :
    s'.store.cachedHash = none ∧ s'.tree.isFile store.hashFile = false ∧
      s'.tree.isFile store.staged = true ∧
      ∃ content, call.after.readBytes store.staged = .ok content ∧
        s'.tree.readBytes store.staged = .ok content := by
  cases packaged with
  | made well there forgot tree =>
    rw [forgot, tree]
    exact ⟨rfl, store.dropHashFile_notFile call.after, ModuleStore.dropHashFile_staged there⟩

/-- A tool is handed the files as they are, and leaves them as it does. -/
theorem runTool_handed (c : Tool.Command) (step subject : String) (s : BuildState σ) :
    let ran := b.runner c s.tree s.runnerState
    ∃ log, let left : BuildState σ := ⟨ran.2.1, s.store, log, s.issued ++ [c], ran.2.2⟩
      Call.WentWell ⟨c, ran.1, ran.2.1⟩ ∧ b.runTool c step subject s = (.ok (), left) ∨
      ¬ Call.WentWell ⟨c, ran.1, ran.2.1⟩ ∧
        b.runTool c step subject s = (.error (Task.failure ⟨c, step, subject⟩ ran.1), left) := by
  intro ran
  obtain ⟨⟨c', answer, after⟩, s', called, ends⟩ := runTool_watched b c step subject s.watched
  obtain rfl : c' = c := called.command
  have answered : ran = (answer, after, s'.runnerState.1) := called.answered
  have left : s'.unwatched = ⟨after, s.store, s'.log, s.issued ++ [c'], s'.runnerState.1⟩ := by
    have tree : s'.tree = after := called.tree
    have store : s'.store = s.store := called.store
    have issued : s'.issued = s.issued ++ [c'] := called.issued
    rw [← tree, ← store, ← issued]
    rfl
  have mirror : b.runTool c' step subject s = _ := runTool_mirrors b c' step subject s.watched
  refine ⟨s'.log, ?_⟩
  simp only [answered, mirror]
  rcases ends with ⟨well, eq⟩ | ⟨bad, eq⟩
  · refine .inl ⟨well, ?_⟩
    rw [eq]
    exact congrArg (Prod.mk _) left
  · refine .inr ⟨bad, ?_⟩
    rw [eq]
    exact congrArg (Prod.mk _) left

theorem package_ends (s : BuildState σ) :
    let command := b.toolchain.package s.store.staged s.store.image
    let ran := b.runner command s.tree s.runnerState
    (b.package s).2.issued = s.issued ++ [command] ∧
      Packaged b.toolchain s.store ⟨command, ran.1, ran.2.1⟩ (b.package s).2 (b.package s).1 := by
  intro command ran
  obtain ⟨log, ⟨well, eq⟩ | ⟨bad, eq⟩⟩ :=
    runTool_handed b command "Packaging" s.store.binaryName s
  · have start : b.package s = (checkStaged >>= fun _ => forgetHash)
        ⟨ran.2.1, s.store, log, s.issued ++ [command], ran.2.2⟩ := by
      simp only [package, Step.bind_apply, Step.ask, orDropStaged]
      rw [eq]
    rw [start]
    simp only [Step.bind_apply, checkStaged, Step.need]
    cases there : ran.2.1.isFile s.store.staged with
    | false => exact ⟨rfl, .unmade well there rfl rfl⟩
    | true => exact ⟨rfl, .made well there rfl rfl⟩
  · have start : b.package s = (.error (Task.failure ⟨command, "Packaging", s.store.binaryName⟩ ran.1),
        ⟨(ran.2.1.removeFile s.store.staged).toOption.getD ran.2.1, s.store, log,
          s.issued ++ [command], ran.2.2⟩) := by
      simp only [package, Step.bind_apply, Step.ask, orDropStaged]
      rw [eq]
      rfl
    rw [start]
    exact ⟨rfl, .failed bad rfl rfl⟩

/-- A staged file is the module then, or it could not be moved and all is as it was. -/
theorem install_places {s : BuildState σ} {content : ByteArray}
    (file : s.tree.isFile s.store.staged = true)
    (read : s.tree.readBytes s.store.staged = .ok content) :
    (∃ e, (install s).1 = .error e) ∧ (install s).2.tree = s.tree ∨
      (install s).1 = .ok () ∧ (install s).2.tree.readBytes s.store.binary = .ok content := by
  obtain ⟨-, -, ⟨cause, -, failed, same⟩ | ⟨moved, placed⟩⟩ := install_cases s
  · exact .inl ⟨⟨_, failed⟩, same⟩
  · exact .inr ⟨placed, FileTree.rename_read moved file read⟩

section

variable {b} {input : BuildInput} {s : BuildState σ} {work : Compiled}

theorem makeWay_blocked {linked : BuildState σ} {cause : Fault}
    (linking : b.upTo b.linkObjects input s = (.ok work, linked)) (relinked : work.relinked = true)
    (failed : linked.tree.removeFile linked.store.staged = .error cause)
    (other : cause ≠ .notFound) :
    ∃ log, b.upTo b.makeWay input s =
      (.error (.filesystem linked.store.staged cause), { linked with log }) := by
  have way : b.upTo b.makeWay input s = (clearWay >>= fun _ => pure work) linked := by
    change b.upTo (fun objects => b.linkObjects objects >>= fun _ => clearWay) input s = _
    rw [upTo_bind, Step.bind_apply, linking]
    simp only [relinked, if_true]
  obtain ⟨log, told⟩ := clearWay_apply linked
  rw [way, Step.bind_apply, told]
  rcases clearStaged_apply { linked with log } with ⟨cause', failed', -, eq⟩ | ⟨missing, -⟩
  · cases failed.symm.trans failed'
    exact ⟨log, by rw [eq]⟩
  · exact absurd (missing cause failed) other

theorem makeWay_clear (went : (b.upTo b.makeWay input s).1 = .ok work)
    (relinked : work.relinked = true) :
    (b.upTo b.makeWay input s).2.tree.pathExists (b.upTo b.makeWay input s).2.store.staged =
      false := by
  have way : b.upTo b.makeWay input s = (b.upTo b.linkObjects input >>= fun work =>
      (if work.relinked then clearWay else pure ()) >>= fun _ => pure work) s :=
    congrFun (b.upTo_bind b.linkObjects clearWay input) s
  rw [way] at went ⊢
  obtain ⟨work', -, went, eq⟩ := Step.ok_of_bind_ok went
  obtain ⟨_, cleared, same, eq'⟩ := Step.ok_of_bind_ok went
  cases same
  rw [eq, eq']
  simp only [relinked, if_true] at cleared ⊢
  obtain ⟨log, told⟩ := clearWay_apply (b.upTo b.linkObjects input s).2
  rw [told] at cleared ⊢
  rcases clearStaged_apply { (b.upTo b.linkObjects input s).2 with log } with
    ⟨_, -, -, failed⟩ | ⟨-, tree, clear, went⟩
  · rw [failed] at cleared
    cases cleared
  · rw [went]
    exact clear

theorem upTo_linkObjects_store (b : Builder σ) (input : BuildInput) (s : BuildState σ) :
    (b.upTo b.linkObjects input s).2.store = s.store :=
  (upTo_spares b input (compileProject_spares b s.store.staged s.store.image input)
    (linkObjects_spares b _ _) s).1

theorem tryBuild_of_blocked {e : BuildError} {s' : BuildState σ}
    (blocked : b.upTo b.makeWay input s = (.error e, s')) : b.tryBuild input s = (.error e, s') := by
  rw [tryBuild_eq, Step.bind_apply, blocked]

theorem tryBuild_of_clear (went : (b.upTo b.makeWay input s).1 = .ok work)
    (relinked : work.relinked = true) : b.tryBuild input s =
      (b.package >>= fun _ => install >>= fun _ => b.conclude work)
        (b.upTo b.makeWay input s).2 := by
  rw [tryBuild_eq, Step.bind_of_ok _ went]
  simp only [relinked, if_true, bind_assoc]

theorem tryBuild_of_unpackaged {e : BuildError} {left : BuildState σ}
    (went : (b.upTo b.makeWay input s).1 = .ok work) (relinked : work.relinked = true)
    (failed : b.package (b.upTo b.makeWay input s).2 = (.error e, left)) :
    b.tryBuild input s = (.error e, left) := by
  rw [tryBuild_of_clear went relinked, Step.bind_apply, failed]

theorem tryBuild_of_packaged {ready : BuildState σ}
    (went : (b.upTo b.makeWay input s).1 = .ok work) (relinked : work.relinked = true)
    (made : b.package (b.upTo b.makeWay input s).2 = (.ok (), ready)) :
    b.tryBuild input s = (install >>= fun _ => b.conclude work) ready := by
  rw [tryBuild_of_clear went relinked, Step.bind_apply, made]

end

/-- Only what the packager has made in this build is installed, whatever was at the staged path
before and whatever the packager does. Up to where the package command is handed over no such
command is issued. If something at the staged path cannot be taken away, the build ends before that.
Otherwise nothing is there when the command is handed over. If the packager fails, the build does and
leaves no file there; if it makes no file there, the build fails with all as the packager left it. If
it makes one, then at the time of moving it into place it is as the packager made it, no record of
the module before is a file and its digest is forgotten; and where it can be moved, the module is
what the packager made. -/
theorem tryBuild_installs_fresh (b : Builder σ) (input : BuildInput) (s : BuildState σ) :
    let store := s.store
    let command := b.toolchain.package store.staged store.image
    let handed := (b.upTo b.makeWay input s).2
    let ran := b.runner command handed.tree handed.runnerState
    let call : Call := ⟨command, ran.1, ran.2.1⟩
    let result := (b.tryBuild input s).1
    let after := (b.tryBuild input s).2
    (b.tryBuild input = b.upTo b.makeWay input >>= fun work =>
      (if work.relinked then b.package >>= fun _ => install else pure ()) >>= fun _ =>
        b.conclude work) ∧
    (handed.store = store ∧ ∃ issued, handed.issued = s.issued ++ issued ∧ command ∉ issued) ∧
    (∀ work linked cause, b.upTo b.linkObjects input s = (.ok work, linked) →
      work.relinked = true → linked.tree.removeFile store.staged = .error cause →
      cause ≠ .notFound →
      result = .error (.filesystem store.staged cause) ∧ after.tree = linked.tree ∧
        after.store = store ∧ after.issued = linked.issued) ∧
    (∀ work, (b.upTo b.makeWay input s).1 = .ok work → work.relinked = true →
      handed.tree.pathExists store.staged = false ∧
      (b.package handed).2.issued = handed.issued ++ [command] ∧
      (¬ call.WentWell → (∃ e, result = .error e) ∧ after.tree.isFile store.staged = false ∧
        FileTree.Change {store.staged.route call.after.workingDirectory} ∅ call.after after.tree ∧
        after.store = store) ∧
      (call.WentWell → call.after.isFile store.staged = false →
        result = .error (.filesystem store.staged .noModuleWritten) ∧ after.tree = call.after ∧
          after.store = store) ∧
      (call.WentWell → call.after.isFile store.staged = true →
        let ready := (b.package handed).2
        (b.package handed).1 = .ok () ∧ ready.store.cachedHash = none ∧
        ready.tree.isFile store.hashFile = false ∧
        ∃ content, call.after.readBytes store.staged = .ok content ∧
          ready.tree.readBytes store.staged = .ok content ∧
          ((∃ e, result = .error e) ∧ after.tree = ready.tree ∨
            (install ready).1 = .ok () ∧
              (install ready).2.tree.readBytes store.binary = .ok content))) := by
  intro store command handed ran call result after
  have spares : (b.upTo b.makeWay input).Spares command :=
    upTo_spares b input (compileProject_spares b _ _ input) (makeWay_spares b _ _)
  obtain ⟨kept, issued⟩ := spares s
  refine ⟨tryBuild_eq b input, ⟨kept, issued⟩, ?_, ?_⟩
  · rintro work linked cause linking relinked failed other
    have kept : linked.store = store := by
      have kept := b.upTo_linkObjects_store input s
      rwa [linking] at kept
    rw [← kept] at failed
    obtain ⟨log, blocked⟩ := makeWay_blocked linking relinked failed other
    simp only [result, after, tryBuild_of_blocked blocked, kept]
    exact ⟨trivial, trivial, trivial, trivial⟩
  · intro work went relinked
    have kept : handed.store = store := kept
    have clear : handed.tree.pathExists handed.store.staged = false := makeWay_clear went relinked
    obtain ⟨issued, packaged⟩ := package_ends b handed
    rw [kept] at clear issued packaged
    refine ⟨clear, issued, ?_⟩
    change Packaged b.toolchain store call (b.package handed).2 (b.package handed).1 at packaged
    rcases ran' : b.package handed with ⟨r, ready⟩
    rw [ran'] at packaged
    simp only at packaged
    cases packaged with
    | failed bad kept tree =>
      refine ⟨fun _ => ?_, fun well => absurd well bad, fun well => absurd well bad⟩
      simp only [result, after, tryBuild_of_unpackaged went relinked ran', kept, tree]
      exact ⟨⟨_, rfl⟩, FileTree.removed_notFile fun _ => ModuleStore.staged_named,
        FileTree.removed_change _ _, trivial⟩
    | unmade well none kept tree =>
      refine ⟨fun bad => absurd well bad, fun _ _ => ?_, fun _ there => ?_⟩
      · simp only [result, after, tryBuild_of_unpackaged went relinked ran', kept, tree]
        exact ⟨trivial, trivial, trivial⟩
      · rw [none] at there
        cases there
    | made well there forgot tree =>
      refine ⟨fun bad => absurd well bad, fun _ none => ?_, fun _ _ => ?_⟩
      · rw [there] at none
        cases none
      have made : Packaged b.toolchain store call ready (.ok ()) := .made well there forgot tree
      obtain ⟨unknown, unrecorded, file, content, read, staged⟩ := made.ready
      refine ⟨rfl, unknown, unrecorded, content, read, staged, ?_⟩
      have paths : ready.store.staged = store.staged ∧ ready.store.binary = store.binary := by
        rw [forgot]
        exact ⟨rfl, rfl⟩
      rw [← paths.1] at file staged
      rcases install_places file staged with ⟨⟨e, failed⟩, same⟩ | placed
      · simp only [result, after, tryBuild_of_packaged went relinked ran',
          Step.bind_of_error _ failed]
        exact .inl ⟨⟨_, rfl⟩, same⟩
      · exact .inr (paths.2 ▸ placed)

/-- Makes the files of all commands but the packager's, which says that it did well and does
nothing. -/
def idlePackager : Runner Unit := fun c tree r =>
  if c.program = Sample.toolchain.packager then (.ok ⟨some 0, "", ""⟩, tree, r)
  else Sample.maker "M".toUTF8 c tree r

/-- A build directory in which an earlier build has left a staged module. -/
def staleStage : FileTree :=
  (Sample.tree.put ["work", "b"] .directory).put ["work", "b", "p.bin.tmp"]
    (.file "OLD".toUTF8 false)

/-- A packager that makes nothing fails the build, although there was a staged module. -/
theorem stale_stage_not_installed :
    let b := Sample.builder idlePackager
    let s := Sample.start staleStage "b"
    s.tree.isFile s.store.staged = true ∧
    (b.tryBuild Sample.input s).1 = .error (.filesystem s.store.staged .noModuleWritten) ∧
    (b.tryBuild Sample.input s).2.tree.pathExists s.store.binary = false := by
  intro b s
  have unmade (b : Builder Unit) (s : BuildState Unit) :
      let handed := b.upTo b.makeWay Sample.input s
      let command := b.toolchain.package s.store.staged s.store.image
      let ran := b.runner command handed.2.tree handed.2.runnerState
      (handed.1.toOption.map Compiled.relinked = some true ∧
        Call.WentWell ⟨command, ran.1, ran.2.1⟩ ∧ ran.2.1.isFile s.store.staged = false ∧
        ran.2.1.pathExists s.store.binary = false) →
      (b.tryBuild Sample.input s).1 = .error (.filesystem s.store.staged .noModuleWritten) ∧
        (b.tryBuild Sample.input s).2.tree.pathExists s.store.binary = false := by
    rintro handed command ran ⟨relinked, well, none, missing⟩
    obtain ⟨work, answered, relinked⟩ := Option.map_eq_some_iff.mp relinked
    have went : handed.1 = .ok work := by
      cases result : handed.1 with
      | error e => rw [result] at answered; cases answered
      | ok other => rw [result] at answered; cases answered; rfl
    obtain ⟨-, -, -, course⟩ := tryBuild_installs_fresh b Sample.input s
    obtain ⟨-, -, -, unmade, -⟩ := course work went relinked
    obtain ⟨result, tree, -⟩ := unmade well none
    exact ⟨result, tree ▸ missing⟩
  exact ⟨by decide +kernel, unmade b s (by decide +kernel)⟩

end Builder
end PlcModule
