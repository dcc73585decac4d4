import PlcModule.Build.Intermediates
import PlcModule.Build.Plan
import PlcModule.Build.Step
import PlcModule.FileTree.Digest
import PlcModule.Glue.Sources
import PlcModule.Hint
import PlcModule.Style
import PlcModule.Tool.Toolchain

/-! The builder of a module. It makes the glue sources, compiles each source and renames the
object's symbols, links, packages, and records the module's digest. The module and its digest
are replaced only once packaging has succeeded. -/
namespace PlcModule

structure Builder (σ : Type) where
  toolchain : Tool.Toolchain
  templates : TemplateSet
  runner : Runner σ
  verbose : Bool
  style : Style
  /-- How long the log says that a build took. -/
  elapsed : String

structure BuildReport where
  binary : Path
  hash : String
  compiled : Nat
  relinked : Bool
  deriving DecidableEq, Repr

namespace Builder

variable {σ : Type} (b : Builder σ)

def makeBuildDir : Step σ Unit := fun s =>
  match s.tree.makeDirectories s.store.buildDir with
  | (tree, .ok _) => (.ok (), { s with tree })
  | (tree, .error cause) => (.error (.filesystem s.store.buildDir cause), { s with tree })

def writeText (path : Path) (content : String) : Step σ Unit :=
  .files path fun tree => tree.writeBytes path content.toUTF8

/-- Makes the glue sources and puts them into the build directory, with the target's header. -/
def writeSources (input : BuildInput) : Step σ Unit := do
  let dir ← .ask fun s => s.store.buildDir
  makeBuildDir
  let sources ← .need fun s => GlueSources.generate s.tree b.templates input
  writeText (dir.child mainSourceName) sources.main
  writeText (dir.child debugSourceName) sources.debug
  .files b.templates.header fun tree => tree.copyFile b.templates.header (dir.child headerName)

/-- Runs a tool for a step of the build on a subject. What a tool that did well still has to say
is told as a warning. -/
def runTool (c : Tool.Command) (step subject : String) : Step σ Unit := do
  .infoIf b.verbose ("         $ " ++ c.display)
  let answer ← .issue b.runner c
  let output ← .need fun _ => Tool.judge c step subject answer
  .infoIf (!Text.isBlankText output.stderr)
    (b.style.yellow "!" ++ " Warning in " ++ subject ++ ":\n" ++ Text.trim output.stderr)

/-- Compiles a source and renames the symbols of its object. Answers the digest that the source
had before, if it could be read. -/
def compile (job : CompileJob) : Step σ (List (Path × String)) := do
  let source := job.unit.file
  let name := source.displayName
  .info ("   [CC]  " ++ name ++ " -> " ++ job.object.displayName)
  let digest ← .ask fun s => (s.tree.digest source).toOption
  let known ← .ask fun s => s.store.digests.find? source
  .infoIf (b.verbose && digest.isSome && known == digest)
    ("         " ++ name ++ " unchanged since last build")
  b.runTool (b.toolchain.compile source job.object job.unit.cflags) "C compilation" name
  b.runTool (b.toolchain.rename job.object) "Symbol rename" name
  pure (digest.toList.map fun d => (source, d))

def compileAll : List CompileJob → Step σ (List (Path × String))
  | [] => pure []
  | job :: rest => do
    let digests ← b.compile job
    let others ← compileAll rest
    pure (digests ++ others)

def compileGroups : List CompileGroup → Step σ (List (Path × String))
  | [] => pure []
  | group :: rest => do
    .info ("\nCompiling PLC code for: " ++ group.label)
    let digests ← b.compileAll group.jobs
    let others ← compileGroups rest
    pure (digests ++ others)

def link (objects : List Path) : Step σ Unit := do
  let store ← .ask BuildState.store
  let image := store.image.displayName
  .info ("\nLinking:   [LD]  " ++ " ".intercalate (objects.map Path.displayName) ++ " -> " ++ image)
  b.runTool (b.toolchain.link objects store.image) "Linking" image

/-- Makes sure that nothing is at the staged path, where a build that was broken off may have
left something. -/
def clearStaged : Step σ Unit := do
  let staged ← .ask fun s => s.store.staged
  .files staged fun tree =>
    match tree.removeFile staged with
    | .error (.system .notFound) => .ok tree
    | answer => answer

/-- Takes the staged module away again if the step fails. -/
def orDropStaged (m : Step σ Unit) : Step σ Unit := fun s =>
  match m s with
  | (.ok a, s) => (.ok a, s)
  | (.error e, s) => (.error e, (Step.tryFiles (·.removeFile s.store.staged) s).2)

/-- A packager that says it did well has left a file at the staged path. -/
def checkStaged : Step σ Unit :=
  .need fun s =>
    if s.tree.isFile s.store.staged then .ok ()
    else .error (.filesystem s.store.staged .noModuleWritten)

/-- Forgets the digest of the module before, so that no digest is on record without its module. -/
def forgetHash : Step σ Unit := fun s =>
  (.ok (), { s with tree := s.store.dropHashFile s.tree, store := s.store.forgetHash })

/-- Puts the staged module into the place of the one before. -/
def install : Step σ Unit := do
  let store ← .ask BuildState.store
  .files store.binary fun tree => tree.rename store.staged store.binary
  .info ("Output file: " ++ store.binaryName)

/-- Packages the image to a new module at the staged path. -/
def stage : Step σ Unit := do
  let store ← .ask BuildState.store
  .info "\nGenerating PLC File:"
  .info ("   [UD]  " ++ store.image.displayName ++ " -> " ++ store.binaryName)
  clearStaged
  orDropStaged
    (b.runTool (b.toolchain.package store.staged store.image) "Packaging" store.binaryName)
  checkStaged

/-- Makes a new module of the objects. The one before stays until the new one is ready. -/
def makeModule (objects : List Path) : Step σ Unit := do
  if objects.isEmpty then .fail .nothingToLink
  else
    b.link objects
    b.stage
    forgetHash
    install

def removeIntermediates : Step σ Unit := do
  let removed ← fun s =>
    let (tree, count) := s.tree.removeIntermediates s.store.buildDir
    (.ok count, { s with tree })
  .infoIf b.verbose ("Removed " ++ toString removed ++ " intermediate file(s)")

/-- Puts a digest on record, beside the module and in the store. -/
def keepHash (hash : String) : Step σ String := fun s =>
  match s.store.writeHashFile s.tree hash with
  | .ok tree => (.ok hash, { s with tree, store := s.store.rememberHash hash })
  | .error e => (.error e, s)

/-- Records the digest of the module. -/
def recordHash : Step σ String := do
  let hash ← .need fun s =>
    match s.tree.digest s.store.binary with
    | .ok hash => .ok hash
    | .error cause => .error (.filesystem s.store.binary cause)
  keepHash hash

def recordDigests (digests : List (Path × String)) : Step σ Unit := fun s =>
  (.ok (), { s with store := s.store.recordDigests digests })

def tellDone (hash : String) : Step σ Unit := do
  let store ← .ask BuildState.store
  .info ("\nCalculated MD5 for " ++ store.binaryName ++ " is " ++ hash)
  .info ("MD5 written to " ++ store.hashFile.text)
  .info (b.style.green "✓" ++ " Build finished in " ++ b.elapsed)

/-- What a build has compiled, and whether the module has to be made anew. -/
structure Compiled where
  jobs : List CompileJob
  /-- The digests that the sources had. -/
  digests : List (Path × String)
  relinked : Bool

/-- Makes the glue sources and compiles all sources. The module is to be made anew if there is
none or anything was compiled, so a digest on record never keeps a source from being compiled. -/
def compileProject (input : BuildInput) : Step σ Compiled := do
  b.writeSources input
  let store ← .ask BuildState.store
  let missing ← .ask fun s => !s.tree.pathExists store.binary
  let groups := CompileGroup.plan store.buildDir input.locations
  let digests ← b.compileGroups groups
  pure ⟨planJobs groups, digests, missing || !(planJobs groups).isEmpty⟩

def updateModule (work : Compiled) : Step σ Unit := do
  let store ← .ask BuildState.store
  if work.relinked then b.makeModule (work.jobs.map CompileJob.object)
  else .info ("   [pass]  " ++ store.binaryName ++ " is up to date")

/-- Clears up after a build and records what it has made. -/
def conclude (work : Compiled) : Step σ BuildReport := do
  let store ← .ask BuildState.store
  b.removeIntermediates
  let hash ← recordHash
  recordDigests work.digests
  b.tellDone hash
  pure ⟨store.binary, hash, work.jobs.length, work.relinked⟩

/-- Builds the module of a project. -/
def tryBuild (input : BuildInput) : Step σ BuildReport := do
  let work ← b.compileProject input
  b.updateModule work
  b.conclude work

/-- The lines that tell why a build ended early. -/
def failureLines (style : Style) (e : BuildError) : Log :=
  let hinted (hint : Hint) : LogLine := .info (style.yellow "💡" ++ " " ++ hint.text style)
  match e with
  | .tool _ _ _ output =>
    ((Text.lines output).filter fun line => !Text.isBlankText line).map .error ++
      .error (e.message ++ ".") :: ((Hint.ofOutput output).map hinted).toList
  | .toolUnavailable _ _ program _ => [.error (e.message ++ "."), hinted (.ofProgram program)]
  | _ => [.error e.message]

/-- Builds the module of a project, and tells of a failure in the log. -/
def build (input : BuildInput) (s : BuildState σ) : Bool × BuildState σ :=
  match b.tryBuild input s with
  | (.ok _, s) => (true, s)
  | (.error e, s) => (false, { s with log := s.log ++ failureLines b.style e })

/-- The builder of a project, with a runner for its tools. -/
def ofProject (p : Project) (runner : Runner σ) (style : Style) (elapsed : String) : Builder σ where
  toolchain := p.toolchain
  templates := ⟨p.templates, p.target⟩
  runner
  verbose := false
  style
  elapsed

end Builder

/-- The store of a project's module, as it is before anything is remembered. -/
def Project.store (p : Project) : ModuleStore :=
  .fresh p.buildDir p.name p.extension

end PlcModule
