import PlcModule.Proofs.Build.Leftovers
import PlcModule.Proofs.Build.Sample
import PlcModule.Proofs.Build.Tools
import PlcModule.Proofs.FileTree.Alongside

/-! What is left of objects and linked images. A build that gets as far as its module clears up,
whether it then ends well or not, and leaves none of them. One that ends before leaves all of them
as the last tool did, and the next build finds them. -/
namespace PlcModule

variable {σ : Type}

theorem Path.cutName_eq {name extension : String} {front : List Char}
    (text : name.toList = front ++ '.' :: extension.toList) (filled : front ≠ [])
    (plain : '.' ∉ extension.toList) : (cutName name).2 = some extension := by
  have pieces : Text.splitAt '.' name.toList = Text.splitAt '.' front ++ [extension.toList] := by
    rw [text, Text.splitAt_append, Text.splitAt_of_not_mem plain]
  simp only [cutName, pieces]
  simp [Text.joinAt_splitAt, filled]

theorem Path.cutName_ne {name : String} (filled : name ≠ "") : (cutName name).1 ≠ "" := by
  simp only [cutName]
  split
  · exact filled
  · rename_i stem
    simpa using stem

/-- A name that ends as one of an object or an image is one if something stands before. -/
theorem EndsAsIntermediate.isIntermediateName {name : String} {front : List Char}
    (filled : front ≠ [])
    (text : name.toList = front ++ ".o".toList ∨ name.toList = front ++ ".elf".toList) :
    FileTree.isIntermediateName name = true := by
  rcases text with object | image
  · have cut : (Path.cutName name).2 = some "o" := Path.cutName_eq object filled (by decide)
    simp [FileTree.isIntermediateName, cut]
  · have cut : (Path.cutName name).2 = some "elf" := Path.cutName_eq image filled (by decide)
    simp [FileTree.isIntermediateName, cut]

namespace ObjectName

theorem stemOf_ne (source : Path) : stemOf source ≠ "" := by
  simp only [stemOf, Path.fileStem]
  cases named : source.fileName with
  | none => decide
  | some name =>
    obtain ⟨piece, -, component⟩ := Path.fileName_piece named
    exact Path.cutName_ne (Path.pieceComponent_name component).2

theorem candidate_intermediate {stem : String} (filled : stem ≠ "") (n : Nat) :
    FileTree.isIntermediateName (candidate stem n) = true := by
  have filled : stem.toList ≠ [] := by simpa using filled
  unfold candidate
  split
  · exact EndsAsIntermediate.isIntermediateName filled (.inl (by simp))
  · have front : stem.toList ++ '_' :: (toString n).toList ≠ [] := by simp
    exact EndsAsIntermediate.isIntermediateName front (.inl (by simp))

end ObjectName

/-- The objects of a build are intermediates of the build directory. -/
theorem BuildPlan.objects_intermediate {dir object : Path} {locations : List Location}
    (planned : object ∈ objects dir locations) :
    ∃ name, IsPlainName name ∧ FileTree.isIntermediateName name = true ∧ object = dir.child name := by
  obtain ⟨name, assigned, rfl⟩ := List.mem_map.mp planned
  obtain ⟨source, n, rfl⟩ := ObjectName.assign_candidate assigned
  exact ⟨_, ObjectName.candidate_plain (ObjectName.stemOf_slash source) n,
    ObjectName.candidate_intermediate (ObjectName.stemOf_ne source) n, rfl⟩

namespace FileTree

variable {t u : FileTree} {p dir : Path} {name : String}

/-- Whether a path leads to a file hangs on the directories and on what is there. -/
theorem SameDirectories.isFile (same : SameDirectories t u)
    (there : u.find? (p.route t.workingDirectory) = t.find? (p.route t.workingDirectory))
    (file : t.isFile p = true) : u.isFile p = true := by
  refine AgreeAt.isFile same (fun place located => ?_) file
  rw [locate_route located, there]
  exact .refl _

/-- Clearing up leaves no intermediate that the path of the directory leads to. -/
theorem removeIntermediates_clears (there : t.isDirectory dir = true) (plain : IsPlainName name)
    (ends : isIntermediateName name = true) :
    (t.removeIntermediates dir).1.isFile (dir.child name) = false := by
  have removed : Without _ t (t.removeIntermediates dir).1 :=
    removeNamed_without t dir (t.intermediates dir)
  have same : SameDirectories t (t.removeIntermediates dir).1 :=
    removeNamed_same t dir (t.intermediates dir)
  generalize (t.removeIntermediates dir).1 = u at removed same
  refine Bool.eq_false_iff.mpr fun left => ?_
  obtain ⟨content, x, file⟩ := isFile_find left
  obtain ⟨_, read⟩ := isFile_read left
  obtain ⟨place, located⟩ := locate_of_read read
  rw [same.cwd] at file
  by_cases gone : (dir.child name).route t.workingDirectory ∈ t.takenNamed dir (t.intermediates dir)
  · rw [removed.none _ gone] at file
    cases file
  · -- It was there before, so it was listed and could be reached.
    rw [removed.kept _ gone] at file
    have located := same.symm.locate located
    obtain ⟨named, noSlash⟩ := place_child located plain
    have route := locate_route located
    refine gone ⟨name, mem_intermediates.mpr ⟨there, ends, .file content x, ?_, rfl⟩,
      ⟨place, located, by simp [named], noSlash, route⟩, by simp [file]⟩
    rw [← Path.route_child plain]
    exact file

end FileTree

/-- What two trees have in common if neither differs from the other in an object or an image. -/
def KeepsIntermediates (t u : FileTree) : Prop :=
  FileTree.Change intermediateRoutesᶜ ∅ t u

theorem KeepsIntermediates.of_change {t u : FileTree} {l : Route}
    (change : FileTree.Change {l} ∅ t u) (off : l ∉ intermediateRoutes) : KeepsIntermediates t u :=
  change.mono (Set.singleton_subset_iff.mpr off) le_rfl

theorem ModuleStore.hashFile_notMem (cwd : Route) (s : ModuleStore) :
    s.hashFile.route cwd ∉ intermediateRoutes := by
  rw [hashFile_route]
  rintro ⟨name, last, ends⟩
  obtain rfl : hashFileName = name := by simpa using last
  revert ends
  decide

/-- How a part of a build left off: it went well and so did the calls that it made, or it failed
and the objects and images are as the last call left them. -/
structure LeftOff {α : Type} (s s' : BuildState (σ × List Call)) (calls : List Call)
    (r : Except BuildError α) : Prop where
  made : s'.calls = s.calls ++ calls
  store : s'.store.reopened = s.store.reopened
  ends : (∃ a, r = .ok a) ∧ (∀ c ∈ calls, c.WentWell) ∨
    (∃ e, r = .error e) ∧ KeepsIntermediates (s.tree.afterCalls calls) s'.tree

namespace LeftOff

variable {α : Type} {s s' s'' : BuildState (σ × List Call)} {calls more : List Call}
  {r : Except BuildError α}

/-- What only runs tools may come before. -/
theorem after (h : LeftOff s' s'' more r) (driven : Driven s s' calls)
    (well : ∀ c ∈ calls, c.WentWell) : LeftOff s s'' (calls ++ more) r where
  made := by rw [h.made, driven.made, List.append_assoc]
  store := h.store.trans (congrArg _ driven.store)
  ends := by
    rcases h.ends with ⟨went, well'⟩ | ⟨failed, kept⟩
    · exact .inl ⟨went, List.forall_mem_append.mpr ⟨well, well'⟩⟩
    · refine .inr ⟨failed, ?_⟩
      rw [FileTree.afterCalls_append, ← driven.tree]
      exact kept

/-- What only runs tools may also fail. -/
theorem of_driven {e : BuildError} (driven : Driven s s' calls) :
    LeftOff s s' calls (.error e : Except BuildError α) :=
  ⟨driven.made, congrArg _ driven.store, .inr ⟨⟨e, rfl⟩, driven.tree ▸ .refl _ _ _⟩⟩

end LeftOff

namespace Builder

/-- A build gets as far as having its module: a new one went into place, or there was nothing to
make one of. -/
def UpdatesModule (b : Builder σ) (input : BuildInput) (s : BuildState σ) : Prop :=
  ((b.compileProject input >>= b.updateModule) s).1 = .ok ()

variable {b : Builder σ} {input : BuildInput}

theorem stageAndInstall_leftOff (b : Builder σ) (s : BuildState (σ × List Call)) :
    let m : Step _ Unit := b.watched.stage >>= fun _ => forgetHash >>= fun _ => install
    ∃ calls, LeftOff s (m s).2 calls (m s).1 := by
  intro m
  have store : (b.watched.stage s).2.store.reopened = s.store.reopened :=
    (stage_performs b s rfl).1
  have rest := Step.bind_cases b.watched.stage
    (fun _ => (forgetHash >>= fun _ => install : Step (σ × List Call) Unit)) s
  change (∃ e, _ ∧ m s = _) ∨ (∃ a, _ ∧ m s = _) at rest
  rcases ran : b.watched.stage s with ⟨r, s₁⟩
  rw [ran] at rest store
  rcases rest with ⟨e, rfl, eq⟩ | ⟨a, rfl, eq⟩
  all_goals rw [eq]
  · rcases stage_ends ran with ⟨-, -, -, -, calls, tree⟩ |
      ⟨call, -, calls, ⟨-, went, -⟩ | ⟨-, -, cleared⟩⟩
    · exact ⟨[], by simp [calls], store, .inr ⟨⟨e, rfl⟩, tree ▸ .refl _ _ _⟩⟩
    · cases went
    · exact ⟨[call], calls, store, .inr ⟨⟨e, rfl⟩, .of_change cleared (s.store.staged_notMem _)⟩⟩
  · rcases stage_ends ran with ⟨cause, -, -, lost, -⟩ |
      ⟨call, -, calls, ⟨packages, -, tree⟩ | ⟨-, ⟨e, lost⟩, -⟩⟩
    · cases lost
    · obtain ⟨store', runnerState, ends⟩ := replace_cases s₁
      refine ⟨[call], (congrArg Prod.snd runnerState).trans calls, ?_, ?_⟩
      · rw [store']
        exact store
      rcases ends with ⟨cause, -, result, dropped⟩ | ⟨-, result⟩
      · rw [result, dropped, tree]
        exact .inr ⟨⟨_, rfl⟩, .of_change (ModuleStore.dropHashFile_change _ _)
          (ModuleStore.hashFile_notMem _ _)⟩
      · exact .inl ⟨⟨_, result⟩, by simpa using packages.2.1⟩
    · cases lost

theorem updateModule_leftOff (b : Builder σ) (work : Compiled) (s : BuildState (σ × List Call)) :
    ∃ calls, LeftOff s (b.watched.updateModule work s).2 calls
      (b.watched.updateModule work s).1 := by
  rw [updateModule_apply]
  split
  swap
  · exact ⟨[], (List.append_nil _).symm, rfl, .inl ⟨⟨_, rfl⟩, by simp⟩⟩
  cases work.jobs.map CompileJob.object with
  | nil => exact ⟨[], (List.append_nil _).symm, rfl, .inr ⟨⟨_, rfl⟩, .refl _ _ _⟩⟩
  | cons object rest =>
    rw [makeModule_cons]
    obtain ⟨calls, driven, well⟩ := link_onlyTools b (object :: rest) s
    rcases Step.bind_cases (b.watched.link (object :: rest)) (fun _ => b.watched.stage >>=
      fun _ => forgetHash >>= fun _ => install) s with ⟨e, -, eq⟩ | ⟨a, linked, eq⟩
    · rw [eq]
      exact ⟨calls, .of_driven driven⟩
    · rw [eq]
      obtain ⟨more, left⟩ := stageAndInstall_leftOff b (b.watched.link (object :: rest) s).2
      exact ⟨calls ++ more, left.after driven (well.mp ⟨a, linked⟩)⟩

/-- Up to the module, from where the glue sources are written. -/
theorem prepared_leftOff (b : Builder σ) (input : BuildInput) (s : BuildState (σ × List Call)) :
    let m := b.watched.compileProject input >>= b.watched.updateModule
    ∃ calls, LeftOff (b.watched.writeSources input s).2 (m s).2 calls (m s).1 := by
  intro m
  cases glue : (b.watched.writeSources input s).1 with
  | error e =>
    have project : b.watched.compileProject input s =
        (.error e, (b.watched.writeSources input s).2) := Step.bind_of_error _ glue
    have failed : m s = (.error e, (b.watched.compileProject input s).2) :=
      Step.bind_of_error _ (congrArg Prod.fst project)
    rw [failed, project]
    exact ⟨[], (List.append_nil _).symm, rfl, .inr ⟨⟨e, rfl⟩, .refl _ _ _⟩⟩
  | ok a =>
    obtain ⟨calls, driven, well⟩ := compileProject_driven (b := b) glue
    rcases Step.bind_cases (b.watched.compileProject input) b.watched.updateModule s with
      ⟨e, -, eq⟩ | ⟨work, compiled, eq⟩
    · rw [show m s = _ from eq]
      exact ⟨calls, .of_driven driven⟩
    · rw [show m s = _ from eq]
      obtain ⟨more, left⟩ := updateModule_leftOff b work (b.watched.compileProject input s).2
      exact ⟨calls ++ more, left.after driven (well.mp ⟨work, compiled⟩)⟩

/-- A build that does not get to its module ends where that leaves off, and one that does concludes
from there. -/
theorem tryBuild_prepared (b : Builder σ) (input : BuildInput) (s : BuildState σ) :
    let m := b.compileProject input >>= b.updateModule
    (∃ e, (m s).1 = .error e ∧ b.tryBuild input s = (.error e, (m s).2)) ∨
    (∃ work, (m s).1 = .ok () ∧ b.tryBuild input s = b.conclude work (m s).2) := by
  intro m
  rcases Step.bind_cases (b.compileProject input) b.updateModule s with
    ⟨e, failed, eq⟩ | ⟨work, compiled, eq⟩
  · rw [show m s = _ from eq]
    exact .inl ⟨e, rfl, Step.bind_of_error _ failed⟩
  · rw [show m s = _ from eq]
    have build : b.tryBuild input s = _ := Step.bind_of_ok _ compiled
    rw [build]
    rcases Step.bind_cases (b.updateModule work) (fun _ => b.conclude work)
      (b.compileProject input s).2 with ⟨e, failed, eq⟩ | ⟨_, updated, eq⟩
    · exact .inl ⟨e, failed, eq⟩
    · exact .inr ⟨work, updated, eq⟩

theorem writeSources_calls (b : Builder σ) (input : BuildInput) (s : BuildState (σ × List Call)) :
    (b.watched.writeSources input s).2.calls = s.calls := by
  obtain ⟨-, calls, performed⟩ := writeSources_performs b input s rfl
  rw [performed.watched, performed.follows.eq_nil, List.append_nil]

/-- Recording changes at most the record. -/
theorem Concluded.leaves {store : ModuleStore} {t : FileTree} {s' : BuildState σ}
    {r : Except BuildError BuildReport} (h : Concluded store t s' r) :
    FileTree.SameDirectories t s'.tree ∧
      FileTree.Change {store.hashFile.route t.workingDirectory} ∅ t s'.tree := by
  cases h with
  | unread _ _ tree => exact ⟨tree ▸ .refl _, tree ▸ .refl _ _ _⟩
  | unwritten _ _ _ _ tree => exact ⟨tree ▸ .refl _, tree ▸ .refl _ _ _⟩
  | recorded _ _ _ written =>
    exact ⟨FileTree.writeBytes_same written, FileTree.writeBytes_change written⟩

/-- A build that concludes leaves no intermediate in its directory. -/
theorem conclude_clears (b : Builder σ) (work : Compiled) (s : BuildState σ) {name : String}
    (there : (b.conclude work s).2.tree.isDirectory s.store.buildDir = true)
    (plain : IsPlainName name) (ends : FileTree.isIntermediateName name = true) :
    (b.conclude work s).2.tree.isFile (s.store.buildDir.child name) = false := by
  obtain ⟨same, change⟩ := (conclude_ends b work s).2.leaves
  have cleared := FileTree.removeNamed_same s.tree s.store.buildDir
    (s.tree.intermediates s.store.buildDir)
  have before : s.tree.isDirectory s.store.buildDir = true :=
    cleared.symm.isDirectory (same.symm.isDirectory there)
  have none := FileTree.removeIntermediates_clears before plain ends
  have other : (s.store.buildDir.child name).route
      (s.tree.removeIntermediates s.store.buildDir).1.workingDirectory ∈ intermediateRoutes :=
    (FileTree.endsAsIntermediate ends).route_child _ _
  refine Bool.eq_false_iff.mpr fun left => ?_
  rw [same.symm.isFile ?_ left] at none
  · cases none
  · rw [same.cwd]
    refine (change.find_eq ?_).symm
    rintro record
    exact s.store.hashFile_notMem _ (Set.mem_singleton_iff.mp record ▸ other)

/-- A whole build: it has its module and concludes from there, or it ends with the objects and
images that the last call left. -/
theorem tryBuild_leftOff (b : Builder σ) (input : BuildInput) {s : BuildState (σ × List Call)}
    (start : s.calls = []) :
    let m := b.watched.compileProject input >>= b.watched.updateModule
    let s' := (b.watched.tryBuild input s).2
    ((m s).1 = .ok () ∧ (∀ c ∈ s'.calls, c.WentWell) ∧
      (m s).2.store.reopened = s.store.reopened ∧
      ∃ work, b.watched.tryBuild input s = b.watched.conclude work (m s).2) ∨
    (∃ e, (m s).1 = .error e ∧ (b.watched.tryBuild input s).1 = .error e) ∧
      KeepsIntermediates ((b.watched.writeSources input s).2.tree.afterCalls s'.calls) s'.tree := by
  intro m s'
  obtain ⟨calls, left⟩ := prepared_leftOff b input s
  have glue := (writeSources_performs b input s rfl).1
  have made : (m s).2.calls = calls := by
    rw [left.made, writeSources_calls, start, List.nil_append]
  rcases tryBuild_prepared b.watched input s with ⟨e, failed, eq⟩ | ⟨work, went, eq⟩
  · have kept : (∃ a, (m s).1 = .ok a) ∧ _ ∨ _ := left.ends
    rw [failed] at kept
    rcases kept with ⟨⟨_, went⟩, -⟩ | ⟨-, kept⟩
    · cases went
    · simp only [s', eq]
      refine .inr ⟨⟨e, failed, rfl⟩, ?_⟩
      rw [show (m s).2.calls = calls from made]
      exact kept
  · refine .inl ⟨went, ?_, left.store.trans glue, work, eq⟩
    rcases left.ends with ⟨-, well⟩ | ⟨⟨e, failed⟩, -⟩
    · simp only [s', eq, BuildState.calls, (conclude_ends b.watched work _).1]
      rw [← made] at well
      exact well
    · rw [went] at failed
      cases failed

/-- A build clears up exactly if it gets as far as its module. Then all its calls went well and no
object and no image is left in its directory, whether recording the digest goes well or not; only
a project without a name keeps its image, which has no extension. If the build ends before, for
whatever reason, all objects and images are as the last call left them. -/
theorem tryBuild_clears_up (b : Builder σ) (input : BuildInput) (s : BuildState σ) :
    let dir := s.store.buildDir
    let after := (b.tryBuild input s).2.tree
    (∀ report, (b.tryBuild input s).1 = .ok report → b.UpdatesModule input s) ∧
    (b.UpdatesModule input s → (∀ call ∈ b.calls input s, call.WentWell) ∧
      (after.isDirectory dir = true →
        (∀ name, IsPlainName name → FileTree.isIntermediateName name = true →
          after.isFile (dir.child name) = false) ∧
        (∀ object ∈ BuildPlan.objects dir input.locations, after.isFile object = false) ∧
        (s.store.projectName ≠ "" → '/' ∉ s.store.projectName.toList →
          after.isFile s.store.image = false))) ∧
    (¬ b.UpdatesModule input s →
      KeepsIntermediates ((b.writeSources input s).2.tree.afterCalls (b.calls input s)) after) := by
  intro dir after
  have glued : (b.writeSources input s).2.tree = (b.watched.writeSources input s.watched).2.tree :=
    congrArg (fun x => x.2.tree) (writeSources_mirrors b input s.watched)
  have mirror : (b.watched.compileProject input >>= b.watched.updateModule).Mirrors
      (b.compileProject input >>= b.updateModule) :=
    (compileProject_mirrors b input).bind (updateModule_mirrors b)
  have seen : b.UpdatesModule input s ↔
      ((b.watched.compileProject input >>= b.watched.updateModule) s.watched).1 = .ok () := by
    rw [UpdatesModule, show (b.compileProject input >>= b.updateModule) s = _ from mirror s.watched]
  have leaves : after = (b.watched.tryBuild input s.watched).2.tree :=
    congrArg (fun x => x.2.tree) (tryBuild_watched b input s)
  rw [leaves, glued, seen, tryBuild_watched, calls]
  rcases tryBuild_leftOff b input (s := s.watched) rfl with
    ⟨went, well, store, work, eq⟩ | ⟨⟨e, failed, result⟩, kept⟩
  · refine ⟨fun _ _ => went, fun _ => ⟨well, fun there => ?_⟩, fun other => absurd went other⟩
    rw [eq] at there ⊢
    generalize ((b.watched.compileProject input >>= b.watched.updateModule) s.watched).2 = t at *
    have here := congrArg ModuleStore.buildDir store
    change t.store.buildDir = dir at here
    rw [← here] at there ⊢
    have clear {name : String} (plain : IsPlainName name)
        (ends : FileTree.isIntermediateName name = true) :=
      conclude_clears b.watched work t there plain ends
    refine ⟨fun name plain ends => clear plain ends, fun object planned => ?_, fun named slash => ?_⟩
    · obtain ⟨name, plain, ends, rfl⟩ := BuildPlan.objects_intermediate planned
      exact clear plain ends
    · have filled : s.store.projectName.toList ≠ [] := by simpa using named
      have ends : FileTree.isIntermediateName s.store.imageName = true :=
        EndsAsIntermediate.isIntermediateName filled (.inr (by simp [ModuleStore.imageName]))
      have plain : IsPlainName s.store.imageName :=
        (FileTree.endsAsIntermediate ends).plain (by simpa [ModuleStore.imageName] using slash)
      have image : s.store.image = t.store.buildDir.child s.store.imageName := by
        rw [here]
        rfl
      rw [image]
      exact clear plain ends
  · refine ⟨fun report built => ?_, fun went => ?_, fun _ => kept⟩
    · rw [result] at built
      cases built
    · rw [failed] at went
      cases went

/-- Makes the files of all commands but those on the second glue source, which fail. -/
def halting : Runner Unit := fun c tree r =>
  if c.args.contains "b/plc_debugger.c" then (.ok ⟨some 1, "", ""⟩, tree, r)
  else Sample.maker "M".toUTF8 c tree r

theorem halting_tame : Runner.Tame halting Sample.toolchain := by
  intro c p makes tree r
  unfold halting
  split
  · exact .refl _ _ tree
  · exact Sample.maker_tame _ c p makes tree r

/-- A compiler that fails on the second source leaves the object of the first. -/
theorem failed_compiler_leaves_object :
    let b := Sample.builder halting
    let s := Sample.start Sample.tree "b"
    let after := (b.tryBuild Sample.input s).2.tree
    Runner.Tame b.runner b.toolchain ∧
    s.tree.pathExists s.store.buildDir = false ∧
    (b.tryBuild Sample.input s).1 =
      .error (.tool "C compilation" "plc_debugger.c" (some 1) "") ∧
    after.isDirectory s.store.buildDir = true ∧
    ∃ object ∈ BuildPlan.objects s.store.buildDir Sample.input.locations,
      after.isFile object = true := by
  refine ⟨halting_tame, ?_⟩
  decide +kernel

end Builder
end PlcModule
