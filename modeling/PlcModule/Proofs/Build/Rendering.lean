import PlcModule.Proofs.Build.Sample

/-! Rendering is all or nothing. The glue sources are made in stages that only read; the first stage
that fails is the one reported, and by then nothing has been written but the build directory. A
failure while they are put into the build directory leaves those that were put and runs no tool. -/
namespace PlcModule

variable {σ : Type}

namespace GlueSources

/-- The stages in which the glue sources are made. -/
inductive Stage where
  | inventory
  | keys
  | mainTemplate
  | mainRendering
  | debugTemplate
  | accessCode
  | debugRendering
  deriving DecidableEq, Repr

namespace Stage

def inOrder : List Stage :=
  [inventory, keys, mainTemplate, mainRendering, debugTemplate, accessCode, debugRendering]

def error? {α : Type} : Except BuildError α → Option BuildError
  | .error e => some e
  | .ok _ => none

/-- How a stage fails on a tree, if it does. Rendering is tried on what the stages before it yield,
and does not fail for want of that. -/
def failure? (tree : FileTree) (templates : TemplateSet) (input : BuildInput) :
    Stage → Option BuildError
  | inventory => error? (input.inventory tree)
  | keys => error? (MainFragments.ofLocations input.locations input.extensionsDisabled)
  | mainTemplate => error? (Template.load tree templates.mainTemplate)
  | mainRendering => do
    let fragments ← (MainFragments.ofLocations input.locations input.extensionsDisabled).toOption
    let template ← (Template.load tree templates.mainTemplate).toOption
    error? (fragments.render template)
  | debugTemplate => error? (Template.load tree templates.debugTemplate)
  | accessCode => error? (GlueSources.accessCode tree templates)
  | debugRendering => do
    let inventory ← (input.inventory tree).toOption
    let template ← (Template.load tree templates.debugTemplate).toOption
    let access ← (GlueSources.accessCode tree templates).toOption
    error? ((DebugFragments.ofInventory inventory access).render template)

/-- A stage fails, and none before it does. -/
def FailsFirst (tree : FileTree) (templates : TemplateSet) (input : BuildInput) (stage : Stage)
    (e : BuildError) : Prop :=
  ∃ front back, inOrder = front ++ stage :: back ∧ failure? tree templates input stage = some e ∧
    ∀ before ∈ front, failure? tree templates input before = none

end Stage

section

variable {tree : FileTree} {templates : TemplateSet} {input : BuildInput}

/-- Generation fails as the first of its stages does, and otherwise not at all. -/
theorem error?_generate : Stage.error? (generate tree templates input) =
    Stage.inOrder.findSome? (Stage.failure? tree templates input) := by
  simp only [Stage.inOrder, List.findSome?, Stage.failure?, generate]
  -- A rendering is tried on what earlier stages yield, so the stages are split in their order.
  cases input.inventory tree with
  | error e => rfl
  | ok inventory =>
  cases MainFragments.ofLocations input.locations input.extensionsDisabled with
  | error e => rfl
  | ok fragments =>
  cases Template.load tree templates.mainTemplate with
  | error e => rfl
  | ok mainTemplate =>
  cases main : fragments.render mainTemplate with
  | error e => simp [Stage.error?, Except.toOption, bind, Except.bind, main]
  | ok main' =>
  cases Template.load tree templates.debugTemplate with
  | error e => simp [Stage.error?, Except.toOption, bind, Except.bind, main]
  | ok debugTemplate =>
  cases accessCode tree templates with
  | error e => simp [Stage.error?, Except.toOption, bind, Except.bind, main]
  | ok access =>
  cases debug : (DebugFragments.ofInventory inventory access).render debugTemplate <;>
    simp [Stage.error?, Except.toOption, bind, Except.bind, main, debug]

theorem generate_error_iff {e : BuildError} : generate tree templates input = .error e ↔
    ∃ stage, Stage.FailsFirst tree templates input stage e := by
  have reported : generate tree templates input = .error e ↔
      Stage.error? (generate tree templates input) = some e := by
    cases generate tree templates input <;> simp [Stage.error?]
  rw [reported, error?_generate, List.findSome?_eq_some_iff]
  constructor
  · rintro ⟨front, stage, back, order, fails, before⟩
    exact ⟨stage, front, back, order, fails, before⟩
  · rintro ⟨stage, front, back, order, fails, before⟩
    exact ⟨front, stage, back, order, fails, before⟩

/-- Where any stage fails, one does first. -/
theorem generate_of_failure {stage : Stage} {e : BuildError}
    (fails : Stage.failure? tree templates input stage = some e) :
    ∃ first e', Stage.FailsFirst tree templates input first e' ∧
      generate tree templates input = .error e' := by
  have listed : stage ∈ Stage.inOrder := by cases stage <;> decide
  cases found : Stage.inOrder.findSome? (Stage.failure? tree templates input) with
  | none =>
    rw [List.findSome?_eq_none_iff] at found
    rw [found stage listed] at fails
    cases fails
  | some e' =>
    have made : generate tree templates input = .error e' := by
      rw [← error?_generate] at found
      revert found
      cases generate tree templates input <;> simp [Stage.error?]
    obtain ⟨first, firstFails⟩ := generate_error_iff.mp made
    exact ⟨first, e', firstFails, made⟩

end

/-- The files that the sources go to, in the order in which they are written. -/
def files (dir : Path) (sources : GlueSources) : List (Path × String) :=
  [(dir.child mainSourceName, sources.main), (dir.child debugSourceName, sources.debug)]

end GlueSources

namespace FileTree

/-- Writes texts to files, one after the other. -/
def writeAll (files : List (Path × String)) (t : FileTree) : Except Fault FileTree :=
  files.foldlM (fun t file => t.writeBytes file.1 file.2.toUTF8) t

theorem writeAll_cons {file : Path × String} {files : List (Path × String)} {t u v : FileTree}
    (first : t.writeBytes file.1 file.2.toUTF8 = .ok u) (others : writeAll files u = .ok v) :
    writeAll (file :: files) t = .ok v := by
  rw [writeAll, List.foldlM_cons, first]
  exact others

theorem writeAll_change {files : List (Path × String)} {t u : FileTree}
    (written : writeAll files t = .ok u) :
    Change {l | ∃ file ∈ files, l = file.1.route t.workingDirectory} ∅ t u := by
  induction files generalizing t with
  | nil =>
    cases written
    exact .refl _ _ _
  | cons file files ih =>
    obtain ⟨v, first, others⟩ := ok_of_bind written
    have first := writeBytes_change first
    refine (first.mono ?_ le_rfl).trans ((ih others).mono ?_ le_rfl)
    · rintro l rfl
      exact ⟨file, List.mem_cons_self, rfl⟩
    · rintro l ⟨other, member, rfl⟩
      exact ⟨other, List.mem_cons_of_mem _ member, by rw [first.cwd]⟩

end FileTree

namespace Builder

variable {b : Builder σ} {input : BuildInput} {s : BuildState σ} {e : BuildError}

/-- Writes texts to files and then goes on. -/
def writeThen (files : List (Path × String)) (last : Step σ Unit) : Step σ Unit :=
  files.foldr (fun file rest => do writeText file.1 file.2; rest) last

def copyHeader (header goal : Path) : Step σ Unit :=
  .files header (·.copyFile header goal)

/-- How writing stops: at a file that cannot be written, or past all of them at the header, which
cannot be copied. -/
inductive StopsAt (header goal : Path) (u : FileTree) : List (Path × String) → BuildError → Prop
  | file {path : Path} {content : String} {cause : Fault} (rest : List (Path × String))
      (failed : u.writeBytes path content.toUTF8 = .error cause) :
      StopsAt header goal u ((path, content) :: rest) (.filesystem path cause)
  | header {cause : Fault} (failed : u.copyFile header goal = .error cause) :
      StopsAt header goal u [] (.filesystem header cause)

/-- Writing that fails has written what comes before the point of failure, and nothing else. -/
theorem writeThen_error {files : List (Path × String)} {header goal : Path}
    (h : (writeThen files (copyHeader header goal) s).1 = .error e) :
    ∃ written rest u, files = written ++ rest ∧ FileTree.writeAll written s.tree = .ok u ∧
      StopsAt header goal u rest e ∧
      writeThen files (copyHeader header goal) s = (.error e, { s with tree := u }) := by
  -- On the files that are still to be written, from whatever state those before them left.
  induction files generalizing s with
  | nil =>
    refine ⟨[], [], s.tree, rfl, rfl, ?_⟩
    change (copyHeader header goal s).1 = .error e at h
    change _ ∧ copyHeader header goal s = _
    simp only [copyHeader, Step.files] at h ⊢
    cases copied : s.tree.copyFile header goal with
    | ok u =>
      rw [copied] at h
      cases h
    | error cause =>
      rw [copied] at h
      cases h
      exact ⟨.header copied, rfl⟩
  | cons file files ih =>
    obtain ⟨path, content⟩ := file
    cases first : s.tree.writeBytes path content.toUTF8 with
    | error cause =>
      have failed : (writeText path content : Step σ Unit) s =
          (.error (.filesystem path cause), s) := by
        simp only [writeText, Step.files, first]
      have whole : writeThen ((path, content) :: files) (copyHeader header goal) s =
          (.error (.filesystem path cause), s) :=
        (Step.bind_of_error _ (congrArg Prod.fst failed)).trans (by rw [failed])
      rw [whole] at h
      cases h
      exact ⟨[], _, s.tree, rfl, rfl, .file files first, whole⟩
    | ok t =>
      have went : (writeText path content : Step σ Unit) s = (.ok (), { s with tree := t }) := by
        simp only [writeText, Step.files, first]
      have whole : writeThen ((path, content) :: files) (copyHeader header goal) s =
          writeThen files (copyHeader header goal) { s with tree := t } :=
        (Step.bind_of_ok _ (congrArg Prod.fst went)).trans (by rw [went]; rfl)
      rw [whole] at h ⊢
      obtain ⟨written, rest, u, rfl, others, stops, eq⟩ := ih h
      exact ⟨(path, content) :: written, rest, u, rfl, FileTree.writeAll_cons first others, stops,
        eq⟩

/-- With the build directory made, the sources are generated and then written. -/
theorem writeSources_eq (b : Builder σ) (input : BuildInput)
    (made : (s.tree.makeDirectories s.store.buildDir).2 = .ok ()) :
    let tree := (s.tree.makeDirectories s.store.buildDir).1
    b.writeSources input s = match GlueSources.generate tree b.templates input with
      | .error e => (.error e, { s with tree })
      | .ok sources => writeThen (sources.files s.store.buildDir)
          (copyHeader b.templates.header (s.store.buildDir.child headerName)) { s with tree } := by
  intro tree
  have dir : makeBuildDir s = (.ok (), { s with tree }) := by
    simp only [makeBuildDir]
    split <;> simp_all [tree]
  let put (sources : GlueSources) : Step σ Unit := writeThen (sources.files s.store.buildDir)
    (copyHeader b.templates.header (s.store.buildDir.child headerName))
  have steps : b.writeSources input s =
      (makeBuildDir >>= fun _ =>
        Step.need (fun s => GlueSources.generate s.tree b.templates input) >>= put) s := rfl
  rw [steps, Step.bind_of_ok _ (congrArg Prod.fst dir), dir, Step.bind_apply]
  simp only [Step.need]
  cases GlueSources.generate tree b.templates input <;> rfl

/-- A build that cannot put its glue sources into the build directory goes no further. -/
theorem tryBuild_of_error {s' : BuildState σ} (h : b.writeSources input s = (.error e, s')) :
    b.tryBuild input s = (.error e, s') := by
  have project : b.compileProject input s = (.error e, s') := by
    rw [compileProject, Step.bind_of_error _ (congrArg Prod.fst h), h]
  rw [tryBuild, Step.bind_of_error _ (congrArg Prod.fst project), project]

/-- A stage of generation that fails is reported before anything is written or run: the first that
fails is the answer of generating, writing and building alike, and but for directories on the way
to the build directory the state is as it was. Writing that fails later has written the files
before the one that it stops at, and no tool is run either. -/
theorem writeSources_allOrNothing (b : Builder σ) (input : BuildInput) (s : BuildState σ)
    (made : (s.tree.makeDirectories s.store.buildDir).2 = .ok ()) :
    let dir := s.store.buildDir
    let tree := (s.tree.makeDirectories dir).1
    let cwd := s.tree.workingDirectory
    FileTree.Change ∅ (FileTree.wayTo cwd dir) s.tree tree ∧
    (∀ stage e, GlueSources.Stage.failure? tree b.templates input stage = some e →
      ∃ first e', GlueSources.Stage.FailsFirst tree b.templates input first e' ∧
        GlueSources.generate tree b.templates input = .error e' ∧
        b.writeSources input s = (.error e', { s with tree }) ∧
        b.tryBuild input s = (.error e', { s with tree })) ∧
    ∀ sources e, GlueSources.generate tree b.templates input = .ok sources →
      (b.writeSources input s).1 = .error e →
      ∃ written rest u, sources.files dir = written ++ rest ∧
        FileTree.writeAll written tree = .ok u ∧
        StopsAt b.templates.header (dir.child headerName) u rest e ∧
        b.writeSources input s = (.error e, { s with tree := u }) ∧
        b.tryBuild input s = (.error e, { s with tree := u }) ∧
        FileTree.Change {l | ∃ file ∈ written, l = file.1.route cwd} (FileTree.wayTo cwd dir)
          s.tree u := by
  intro dir tree cwd
  have way : FileTree.Change ∅ (FileTree.wayTo cwd dir) s.tree tree :=
    FileTree.makeDirectories_change s.tree dir
  have steps := writeSources_eq b input made
  refine ⟨way, fun stage e fails => ?_, fun sources e generated failed => ?_⟩
  · obtain ⟨first, e', firstFails, reported⟩ := GlueSources.generate_of_failure fails
    have ended : b.writeSources input s = (.error e', { s with tree }) := by
      rw [steps, reported]
    exact ⟨first, e', firstFails, reported, ended, tryBuild_of_error ended⟩
  · rw [steps, generated] at failed
    obtain ⟨written, rest, u, all, wrote, stops, ended⟩ := writeThen_error failed
    have ended : b.writeSources input s = (.error e, { s with tree := u }) := by
      rw [steps, generated]
      exact ended
    refine ⟨written, rest, u, all, wrote, stops, ended, tryBuild_of_error ended, ?_⟩
    have change := FileTree.writeAll_change wrote
    rw [way.cwd] at change
    exact (way.mono (Set.empty_subset _) le_rfl).trans (change.mono le_rfl (Set.empty_subset _))

/-- A main template with a placeholder that nothing is known of, and no debug template. -/
def misspelt : FileTree :=
  (Sample.tree.put ["work", "t", "T", "T_main.c"] (.file "%(inits)s".toUTF8 false)).erase
    ["work", "t", "T", "T_debug.c"]

/-- Templates that can be rendered, and no header beside them. -/
def headless : FileTree :=
  Sample.tree.erase ["work", "t", "T", "beremiz.h"]

/-- A misspelt placeholder is reported, though the debug template is missing too, and leaves only
the build directory. Without the header both sources are written and nothing else. -/
theorem misspelt_headless :
    let b := Sample.builder (Sample.runner 0 .empty)
    let broken := Sample.start misspelt "b"
    let unfinished := Sample.start headless "b"
    b.tryBuild Sample.input broken =
      (.error (.unknownPlaceholder b.templates.mainTemplate "inits"),
        { broken with tree := (misspelt.makeDirectories ⟨"b"⟩).1 }) ∧
    ∃ u, b.tryBuild Sample.input unfinished =
        (.error (.filesystem b.templates.header .notFound), { unfinished with tree := u }) ∧
      FileTree.Change {["work", "b", "plc_main.c"], ["work", "b", "plc_debugger.c"]}
        (FileTree.wayTo ["work"] ⟨"b"⟩) headless u := by
  intro b broken unfinished
  constructor
  · obtain ⟨-, rendering, -⟩ := writeSources_allOrNothing b Sample.input broken (by decide +kernel)
    obtain ⟨_, e', -, reported, -, ended⟩ := rendering .mainRendering
      (.unknownPlaceholder b.templates.mainTemplate "inits") (by decide +kernel)
    have known : GlueSources.generate (misspelt.makeDirectories ⟨"b"⟩).1 b.templates Sample.input =
        .error (.unknownPlaceholder b.templates.mainTemplate "inits") := by decide +kernel
    cases known.symm.trans reported
    exact ended
  · obtain ⟨-, -, writing⟩ := writeSources_allOrNothing b Sample.input unfinished (by decide +kernel)
    obtain ⟨written, rest, u, all, -, -, -, ended, change⟩ := writing ⟨"", ""⟩
      (.filesystem b.templates.header .notFound) (by decide +kernel) (by decide +kernel)
    refine ⟨u, ended, change.mono ?_ le_rfl⟩
    rintro l ⟨file, member, rfl⟩
    have listed : file ∈ GlueSources.files ⟨"b"⟩ ⟨"", ""⟩ := all ▸ List.mem_append_left rest member
    have routes : ∀ file ∈ GlueSources.files ⟨"b"⟩ ⟨"", ""⟩,
        file.1.route ["work"] = ["work", "b", "plc_main.c"] ∨
          file.1.route ["work"] = ["work", "b", "plc_debugger.c"] := by decide +kernel
    exact routes file listed

end Builder
end PlcModule
