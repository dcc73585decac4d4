import PlcModule.BuildError
import PlcModule.Tool.Flags

/-! Invocations of tools, and what becomes of them. -/
namespace PlcModule.Tool

structure Command where
  program : Path
  args : List String
  /-- The exit code of a run that went well. -/
  expectedExit : Int
  deriving DecidableEq, Repr

namespace Command

def of (program : Path) : Command :=
  ⟨program, [], 0⟩

def withArgs (c : Command) (args : List String) : Command :=
  { c with args := c.args ++ args }

def withArg (c : Command) (arg : String) : Command :=
  c.withArgs [arg]

def withPath (c : Command) (p : Path) : Command :=
  c.withArg p.text

/-- Adds the words of a flag text. -/
def withFlags (c : Command) (flags : String) : Command :=
  c.withArgs (splitFlags flags)

def programName (c : Command) : String :=
  c.program.displayName

/-- The command as one line, its words not quoted. -/
def display (c : Command) : String :=
  " ".intercalate (c.program.text :: c.args)

end Command

/-- How a tool ended and what it wrote. A tool ended by a signal has no exit code. -/
structure Output where
  code : Option Int
  stdout : String
  stderr : String
  deriving DecidableEq, Repr

/-- Both streams as one text. A stream of blanks counts as nothing beside the other. -/
def Output.combined (o : Output) : String :=
  if Text.isBlankText o.stdout then o.stderr
  else if Text.isBlankText o.stderr then o.stdout
  else Text.trimEnd o.stdout ++ "\n" ++ o.stderr

/-- Judges what a runner answers for a step: a tool that did not start, or that exited
otherwise than expected, fails the step by the names of the tool and its subject. -/
def judge (c : Command) (step subject : String) :
    Except BuildError Output → Except BuildError Output
  | .error (.toolSpawn program cause) => .error (.toolUnavailable step subject program cause)
  | .error e => .error e
  | .ok output =>
    if output.code = some c.expectedExit then .ok output
    else .error (.tool step subject output.code output.combined)

end PlcModule.Tool
