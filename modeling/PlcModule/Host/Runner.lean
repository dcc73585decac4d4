import PlcModule.Build.Step
import PlcModule.Host.Loading

/-! Running tools on a host: a tool is a process of its own, with nothing to read and two pipes
for what it writes. -/
namespace PlcModule.Host

def usualEnvironment : List (String × String) := [
  ("PATH", "/usr/local/sbin:/usr/local/bin:/usr/sbin:/usr/bin:/sbin:/bin"), ("HOME", "/root")]

/-- The number of the process that runs tools. -/
def runnerProcess : Nat := Shell.firstProcess - 1

/-- A process that is to become a tool. -/
def freshProcess (tree : FileTree) : Process where
  machine := ⟨tree, #[.sink, .pipe [] [] none, .pipe [] [] none], [], Shell.firstProcess + 1⟩
  descriptors := [(0, 0), (1, 1), (2, 2)]
  environment := usualEnvironment
  name := ""
  id := Shell.firstProcess
  parent := runnerProcess
  ignored := []

/-- All that was written to a pipe. -/
def written (p : Process) (channel : Nat) : String :=
  match p.machine.channel channel with
  | .pipe left parts _ => String.ofList left ++ String.join parts.reverse
  | _ => ""

/-- What a finished run looks like from outside. -/
def outputOf (status : Status) (p : Process) : Tool.Output where
  code := match status with
    | .exited n => some n
    | .killed _ => none
  stdout := Octets.decode (written p 1)
  stderr := Octets.decode (written p 2)

/-- Whether a command holds a character that no program can be given. -/
def hasNul (c : Tool.Command) : Bool :=
  (c.program.text :: c.args).any fun s => s.toList.contains '\x00'

/-- Runs tools on the host. -/
def runner : PlcModule.Runner Unit := fun c tree s =>
  if hasNul c then (.error (.toolSpawn c.program.text .nulInCommand), tree, s)
  else
    let name := Octets.encode c.program.text
    let args := c.args.map Octets.encode
    match search (exec startDepth) name args (freshProcess tree) with
    | .error e => (.error (.toolSpawn c.program.text (.system e)), tree, s)
    | .ok (status, p) =>
      let after := { p.tree with workingDirectory := tree.workingDirectory }
      (.ok (outputOf status p), after, s)

end PlcModule.Host
