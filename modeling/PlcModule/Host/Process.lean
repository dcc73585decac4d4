import PlcModule.Host.Channel

/-! A program while it runs. What it does is written as a `Task`, which may end early; the files and
the channels are left as they are at that point. -/
namespace PlcModule.Host

structure Process where
  machine : Machine
  descriptors : Descriptors
  environment : List (String × String)
  /-- The name that it was started by. -/
  name : String
  id : Nat
  /-- The number of the process that has started it. -/
  parent : Nat
  /-- The signals that it takes no notice of. -/
  ignored : List Nat

abbrev Task := ExceptT Status (StateM Process)

/-- What a program does with its arguments, and the code that it exits with. -/
abbrev Program := List String → Task Nat

/-- Has a process become the program at a path, unless that cannot be started. The program is told a
name of its own and arguments. -/
abbrev Exec := String → String → List String → Process → Except Errno (Status × Process)

/-- Has a process become another program by its name, unless that cannot be started. -/
abbrev Start := String → List String → Process → Except Errno (Status × Process)

namespace Process

def tree (p : Process) : FileTree :=
  p.machine.tree

def withTree (p : Process) (tree : FileTree) : Process :=
  { p with machine := { p.machine with tree } }

/-- A process of its own that begins as a copy of this one. -/
def fork (p : Process) : Process :=
  { p with
    id := p.machine.nextProcess
    parent := p.id
    machine := { p.machine with nextProcess := p.machine.nextProcess + 1 } }

/-- Goes on after another process, which leaves all but the working directory. -/
def resume (p child : Process) : Process :=
  let tree := { child.machine.tree with workingDirectory := p.machine.tree.workingDirectory }
  { p with machine := { child.machine with tree } }

/-- Writes to a descriptor. -/
def write (p : Process) (descriptor : Nat) (text : String) : Process × Option WriteFault :=
  match p.descriptors.lookup descriptor with
  | none => (p, some (.error (.other 9)))
  | some n =>
    let (machine, fault) := p.machine.write n text
    ({ p with machine }, fault)

/-- A descriptor's channel. -/
def open_ (p : Process) (descriptor : Nat) (c : Channel) : Process :=
  let (machine, n) := p.machine.open_ c
  { p with machine, descriptors := p.descriptors.set descriptor n }

end Process

namespace Task

def run (t : Task Nat) (p : Process) : Status × Process :=
  match ExceptT.run t p with
  | (.ok code, p) => (.exited (code % 256), p)
  | (.error status, p) => (status, p)

/-- Ends the program. -/
def quit {α : Type} (code : Nat) : Task α :=
  throw (.exited code)

/-- Writes an error line. What cannot be written is lost. -/
def complainPlain (line : String) : Task Unit :=
  modify fun p => (p.write 2 (line ++ "\n")).1

/-- Writes an error line that begins with the name of the program. -/
def complain (message : String) : Task Unit := do
  complainPlain ((← get).name ++ ": " ++ message)

/-- Writes an error line and ends the program. -/
def fail {α : Type} (code : Nat) (message : String) : Task α := do
  complain message
  quit code

/-- The number of the signal that ends a program when nobody reads what it writes. -/
def unreadSignal : Nat := 13

/-- Writes to the output. -/
def say (text : String) : Task Unit := do
  if text ≠ "" then
    let (p, fault) := (← get).write 1 text
    set p
    match fault with
    | none => return
    | some .unread => throw (.killed unreadSignal)
    | some (.error e) => fail 1 ("write error: " ++ e.text)

def sayLine (text : String) : Task Unit :=
  say (text ++ "\n")

/-- A change to the files, or what stands against it. -/
def change (f : FileTree → Except Fault FileTree) : Task (Option Fault) := do
  let p ← get
  match f p.tree with
  | .ok tree =>
    set (p.withTree tree)
    return none
  | .error e => return some e

def ask {α : Type} (f : FileTree → α) : Task α := do
  return f (← get).tree

/-- What is left of the input. -/
def input : Task (Except Errno String) := do
  let p ← get
  match p.descriptors.lookup 0 with
  | none => return .error (.other 9)
  | some n =>
    match p.machine.readAll n with
    | .ok (text, machine) =>
      set { p with machine }
      return .ok text
    | .error e => return .error e

/-- Does something with each of the operands. Answers the worst code. -/
def each {α : Type} (operands : List α) (act : α → Task Nat) : Task Nat :=
  operands.foldlM (fun worst a => do return max worst (← act a)) 0

end Task

/-- How a message names what went wrong with a file. -/
def reason : Fault → String
  | .system e => e.text
  | f => f.message

end PlcModule.Host
