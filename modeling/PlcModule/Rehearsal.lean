import PlcModule.Build.Step
import PlcModule.FileTree.Seed

/-! Tools that are played. Each role has an effect of its own, which keeps to the files that the
command names: compiling copies, renaming marks, linking joins, packaging heads. Rules stand in
for the effect of the commands that they match, so a build can be rehearsed with any mishap. -/
namespace PlcModule.Rehearsal

open Tool (Command Output)

inductive Role where
  | compile
  | rename
  | link
  | package
  deriving DecidableEq, Repr

def Role.all : List Role :=
  [compile, rename, link, package]

def Role.text : Role → String
  | compile => "compile"
  | rename => "rename"
  | link => "link"
  | package => "package"

/-- What a command is for, as its first argument tells. -/
def Role.of (c : Command) : Role :=
  match c.args.head? with
  | some "-I" => compile
  | some "-gdwarf-4" => link
  | some "--no-debug" => package
  | _ => rename

def argument (c : Command) (i : Nat) : Path :=
  ⟨c.args.getD i ""⟩

def lastArgument (c : Command) : Path :=
  ⟨c.args.getLast?.getD ""⟩

def succeed (stderr : String) : Output :=
  ⟨some 0, "", stderr⟩

def refuse (stderr : String) : Output :=
  ⟨some 1, "", stderr⟩

/-- Writes what a tool makes, which then says `stderr`. -/
def produce (tree : FileTree) (p : Path) (content : ByteArray) (stderr : String) :
    Output × FileTree :=
  match tree.writeBytes p content with
  | .ok tree => (succeed stderr, tree)
  | .error _ => (refuse ("cannot write " ++ p.text), tree)

def compile (c : Command) (tree : FileTree) : Output × FileTree :=
  let source := argument c 3
  match tree.readBytes source with
  | .error _ => (refuse ("cc: " ++ source.text ++ ": cannot read"), tree)
  | .ok content =>
    let mentions := Text.contains (Text.lossy content)
    if mentions "#error" then (refuse (source.text ++ ":1:2: error: #error rejected"), tree)
    else produce tree (argument c 5) content
      (if mentions "#warning" then "\n  " ++ source.text ++ ": warning\n" else "")

def rename (c : Command) (tree : FileTree) : Output × FileTree :=
  let object := lastArgument c
  match tree.readBytes object with
  | .error _ => (refuse ("rename: " ++ object.text ++ ": cannot read"), tree)
  | .ok content => produce tree object (content ++ "!".toUTF8) ""

/-- The objects that a link command names. -/
def objects (c : Command) : List Path :=
  (c.args.filter fun a => a.endsWith ".o" && !a.startsWith "-T").map Path.mk

/-- The bytes of files one after the other, or the first that cannot be read. -/
def gather (tree : FileTree) : List Path → Except Path ByteArray
  | [] => .ok .empty
  | p :: rest =>
    match tree.readBytes p with
    | .error _ => .error p
    | .ok content => (gather tree rest).map (content ++ ·)

def link (c : Command) (tree : FileTree) : Output × FileTree :=
  match gather tree (objects c) with
  | .error p => (refuse ("ld: " ++ p.text ++ ": cannot read"), tree)
  | .ok content => produce tree (lastArgument c) content ""

def package (c : Command) (tree : FileTree) : Output × FileTree :=
  let image := lastArgument c
  match tree.readBytes image with
  | .error _ => (refuse ("pack: " ++ image.text ++ ": cannot read"), tree)
  | .ok content => produce tree (argument c 2) ("MOD1".toUTF8 ++ content) ""

/-- The effect that a command has by its role. -/
def perform (c : Command) (tree : FileTree) : Output × FileTree :=
  match Role.of c with
  | .compile => compile c tree
  | .rename => rename c tree
  | .link => link c tree
  | .package => package c tree

/-- What happens instead when a command matches. -/
structure Rule where
  role : Option Role
  contains : Option String
  /-- The tool does not start, for this reason. -/
  refusal : Option Errno
  /-- The command has its effect all the same. -/
  effect : Bool
  writes : List (Path × Item)
  output : Output

namespace Rule

def applies (r : Rule) (c : Command) : Bool :=
  (r.role.all fun role => role == Role.of c) &&
    r.contains.all fun part => Text.contains c.display part

def act (r : Rule) (c : Command) (tree : FileTree) : Except BuildError Output × FileTree :=
  match r.refusal with
  | some reason => (.error (.toolSpawn c.program.text (.system reason)), tree)
  | none =>
    let tree := if r.effect then (perform c tree).2 else tree
    (.ok r.output, r.writes.foldl (fun t x => t.plant x.1 x.2) tree)

end Rule

/-- Plays the tools by the first rule that applies. -/
def run (c : Command) (tree : FileTree) (rules : List Rule) :
    Except BuildError Output × FileTree × List Rule :=
  match rules.find? fun r => r.applies c with
  | some r =>
    let (answer, tree) := r.act c tree
    (answer, tree, rules)
  | none =>
    let (output, tree) := perform c tree
    (.ok output, tree, rules)

def runner : Runner (List Rule) := run

end PlcModule.Rehearsal
