import PlcModule.Build.Builder
import PlcModule.CommandLine.Arguments

/-! The tasks of the command line, and what it says of them. -/
namespace PlcModule.CommandLine

/-- What the command line has written and left, and its exit code. -/
structure Outcome where
  code : Nat
  stdout : String
  stderr : String
  tree : FileTree

/-- How the command line works: the tools it runs, and the looks it gives its lines. -/
structure Setting where
  runner : Runner Unit
  style : Style
  elapsed : String

def version : String := "0.1.0"

def programName : String := "plcmod"

def usage : String :=
  "Usage: plcmod [--project <PROJECT>] <build [-v|--verbose]|generate|hash|reset-hash|clean>\n"

namespace Outcome

def line (text : String) : String :=
  text ++ "\n"

/-- A task that went well, with a line on it. -/
def well (tree : FileTree) (text : String) : Outcome :=
  ⟨0, line text, "", tree⟩

/-- A task that could not be done, with the reason. -/
def failed (tree : FileTree) (message : String) : Outcome :=
  ⟨1, "", line ("Error: " ++ message), tree⟩

end Outcome

def infoText (log : Log) : String :=
  String.join (log.filterMap fun
    | .info text => some (Outcome.line text)
    | .error _ => none)

def errorText (style : Style) (log : Log) : String :=
  String.join (log.errors.map fun text => Outcome.line (style.red "x" ++ " " ++ style.red text))

namespace Setting

variable (c : Setting)

def check (text : String) : String :=
  c.style.green "✓" ++ " " ++ text

def builder (p : Project) (verbose : Bool) : Builder Unit :=
  { Builder.ofProject p c.runner c.style c.elapsed with verbose }

def start (p : Project) (tree : FileTree) : BuildState Unit :=
  ⟨tree, p.store, [], [], ()⟩

def build (p : Project) (verbose : Bool) (tree : FileTree) : Outcome :=
  let (done, s) := (c.builder p verbose).build p.input (start p tree)
  let title :=
    c.style.blue "🚀" ++ " Project: " ++ c.style.bold p.name ++ " (" ++ p.target ++ ")"
  ⟨if done then 0 else 1, Outcome.line title ++ infoText s.log, errorText c.style s.log, s.tree⟩

def generate (p : Project) (tree : FileTree) : Outcome :=
  match (c.builder p false).writeSources p.input (start p tree) with
  | (.ok _, s) =>
    .well s.tree (c.check ("Generated " ++ mainSourceName ++ " and " ++ debugSourceName ++
      " in " ++ p.buildDir.text))
  | (.error e, s) => .failed s.tree e.message

def hash (p : Project) (tree : FileTree) : Outcome :=
  .well tree ((p.store.hash tree).getD "unknown")

def resetHash (p : Project) (tree : FileTree) : Outcome :=
  .well (p.store.dropHashFile tree) (c.check "Module hash reset")

def clean (p : Project) (tree : FileTree) : Outcome :=
  if tree.pathExists p.buildDir then
    match tree.removeTree p.buildDir with
    | (tree, .ok _) => .well tree (c.check ("Removed " ++ p.buildDir.text))
    | (tree, .error _) => .failed tree ("Failed to remove " ++ p.buildDir.text)
  else .well tree (c.style.yellow "!" ++ " Nothing to clean")

def perform (task : Task) (verbose : Bool) (p : Project) (tree : FileTree) : Outcome :=
  match task with
  | .build => c.build p verbose tree
  | .generate => c.generate p tree
  | .hash => hash p tree
  | .resetHash => c.resetHash p tree
  | .clean => c.clean p tree

/-- Runs the command line on the files. -/
def run (args : List String) (tree : FileTree) : Outcome :=
  match Request.ofArguments args with
  | .unusable => ⟨2, "", usage, tree⟩
  | .help => ⟨0, usage, "", tree⟩
  | .version task =>
    let name := match task with
      | some t => programName ++ "-" ++ t.name
      | none => programName
    .well tree (name ++ " " ++ version)
  | .perform task path verbose =>
    match Project.load tree path with
    | .error e => .failed tree e.message
    | .ok p => c.perform task verbose p tree

end Setting
end PlcModule.CommandLine
