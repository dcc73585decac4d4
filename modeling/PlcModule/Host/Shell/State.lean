import PlcModule.Host.Devices
import PlcModule.Host.Glob
import PlcModule.Host.Shell.Formula
import PlcModule.Host.Shell.Source

/-! What a shell knows while it runs a script, and how it ends a command early. -/
namespace PlcModule.Host.Shell

structure Variable where
  value : Option String
  exported : Bool
  fixed : Bool
  deriving Inhabited

/-- A command that nobody waits for, with what it knows of the script. It is put off until somebody
does wait. -/
structure Work where
  body : Command
  line : Nat
  descriptors : Descriptors
  directory : Route
  arguments : List String
  vars : List (String × Variable)
  functions : List (String × Command)

structure Job where
  id : Nat
  work : Option Work
  ended : Option Status

def Job.finish (id : Nat) (status : Status) (j : Job) : Job :=
  if j.id = id then ⟨id, none, some status⟩ else j

structure Session where
  process : Process
  /-- What the script is called. -/
  zero : String
  arguments : List String
  vars : List (String × Variable)
  functions : List (String × Command)
  aliases : List (String × String)
  options : List Char
  status : Nat
  /-- The exit code of the last command whose output was put in place of it, in this command. -/
  substituted : Nat
  /-- The number of the line, and the command of the shell's own, that messages tell. -/
  line : Nat
  command : Option String
  nextLine : Nat
  /-- What to do on a signal. The end of the shell counts as signal zero. -/
  traps : List (Nat × String)
  /-- What the variables of the functions that are running were before. -/
  saved : List (List (String × Option Variable))
  loops : Nat
  /-- How many functions are running. -/
  calls : Nat
  documents : List (Nat × Document)
  nextDocument : Nat
  jobs : List Job
  /-- The number of the process that the script began in. -/
  root : Nat
  /-- The letter within an argument that `getopts` looks at next. -/
  optionOffset : Nat
  umask : Nat
  located : List (String × String)

/-- How a command is left before its end. -/
inductive Stop where
  /-- The shell ends, with an exit code of its own or with that of the last command. -/
  | exit (code : Option Nat)
  | failed
  /-- The process has ended, or has become a program that has ended. -/
  | over (status : Status)
  /-- So many loops end, or go on with their next turn. -/
  | leave (again : Bool) (levels : Nat)
  | return_

abbrev Eval := ExceptT Stop (StateM Session)

structure Mode where
  /-- A failure is looked at, so that it does not end a strict script. -/
  tested : Bool
  last : Bool

def Mode.plain : Mode := ⟨false, false⟩

def Mode.inner (m : Mode) : Mode := ⟨m.tested, false⟩

namespace Session

def var? (s : Session) (name : String) : Option Variable :=
  s.vars.lookup name

def value? (s : Session) (name : String) : Option String :=
  (s.vars.lookup name).bind Variable.value

def setVariable (s : Session) (name : String) (v : Variable) : Session :=
  { s with vars :=
      if s.vars.any fun x => x.1 = name then
        s.vars.map fun x => if x.1 = name then (name, v) else x
      else s.vars ++ [(name, v)] }

def isSet (s : Session) (option : Char) : Bool :=
  s.options.contains option

def usualSplitters : String := " \t\n"

/-- The characters that part fields. -/
def splitters (s : Session) : String :=
  (s.value? "IFS").getD usualSplitters

/-- The character between the arguments when they stand as one text. -/
def joint (s : Session) : String :=
  match s.value? "IFS" with
  | some ifs => String.ofList (ifs.toList.take 1)
  | none => " "

def tree (s : Session) : FileTree :=
  s.process.tree

/-- The variables that programs are given. -/
def environment (s : Session) : List (String × String) :=
  s.vars.filterMap fun x =>
    if x.2.exported then x.2.value.map fun v => (x.1, v) else none

def leaving (s : Session) : Process :=
  { s.process with
    environment := s.environment
    ignored := (s.traps.filter (fun x => x.2 = "")).map Prod.fst ++ s.process.ignored }

end Session

/-- Writes a text to a descriptor. Answers whether that was possible. -/
def put (descriptor : Nat) (text : String) : Eval Bool := do
  if text = "" then return true
  let s ← get
  let (process, fault) := s.process.write descriptor text
  set { s with process }
  match fault with
  | none => return true
  | some .unread => throw (.over (.killed Task.unreadSignal))
  | some (.error _) => return false

/-- Tells what is wrong: where, and in which command of the shell's own. -/
def tell (message : String) : Eval Unit := do
  let s ← get
  let command := match s.command with
    | some c => c ++ ": "
    | none => ""
  let _ ← put 2 (s.zero ++ ": " ++ toString s.line ++ ": " ++ command ++ message ++ "\n")

def setStatus (code : Nat) : Eval Unit :=
  modify fun s => { s with status := code }

def failWith {α : Type} (message : String) : Eval α := do
  tell message
  setStatus 2
  throw .failed

def say (text : String) : Eval Nat := do
  if ← put 1 text then return 0
  let name := ((← get).command.getD "")
  tell (name ++ ": I/O error")
  return 1

def assign (name value : String) (exports : Bool) : Eval Unit := do
  let s ← get
  match s.var? name with
  | some v =>
    if v.fixed then failWith (name ++ ": is read only")
    let exported := v.exported || exports || s.isSet 'a'
    set (s.setVariable name { v with value := some value, exported })
  | none => set (s.setVariable name ⟨some value, exports || s.isSet 'a', false⟩)
  if name = "OPTIND" then modify fun s => { s with optionOffset := 0 }
  if name = "PATH" then modify fun s => { s with located := [] }

def signalNames : List (String × Nat) := [
  ("EXIT", 0), ("HUP", 1), ("INT", 2), ("QUIT", 3), ("ILL", 4), ("TRAP", 5), ("ABRT", 6), ("BUS", 7),
  ("FPE", 8), ("KILL", 9), ("USR1", 10), ("SEGV", 11), ("USR2", 12), ("PIPE", 13), ("ALRM", 14),
  ("TERM", 15), ("STKFLT", 16), ("CHLD", 17), ("CONT", 18), ("STOP", 19), ("TSTP", 20), ("TTIN", 21),
  ("TTOU", 22), ("URG", 23), ("XCPU", 24), ("XFSZ", 25), ("VTALRM", 26), ("PROF", 27), ("WINCH", 28),
  ("IO", 29), ("PWR", 30), ("SYS", 31)]

/-- What is told of a program that a signal has ended. -/
def signalTexts : List (Nat × String) := [
  (1, "Hangup"), (3, "Quit"), (4, "Illegal instruction"), (5, "Trace/breakpoint trap"), (6, "Aborted"),
  (7, "Bus error"), (8, "Floating point exception"), (9, "Killed"), (10, "User defined signal 1"),
  (11, "Segmentation fault"), (12, "User defined signal 2"), (14, "Alarm clock"), (15, "Terminated"),
  (16, "Stack fault"), (24, "CPU time limit exceeded"), (25, "File size limit exceeded"),
  (26, "Virtual timer expired"), (27, "Profiling timer expired"), (29, "I/O possible"),
  (30, "Power failure"), (31, "Bad system call")]

def signal? (s : String) : Option Nat :=
  match Numeral.count? s with
  | some n => if n ≤ 64 then some n else none
  | none =>
    signalNames.lookup (s.map Char.toUpper)

/-- Signals that a process takes no notice of unless it asks for them. -/
def isHarmless (signal : Nat) : Bool :=
  [0, 17, 18, 19, 20, 21, 22, 23, 28].contains signal

end PlcModule.Host.Shell
