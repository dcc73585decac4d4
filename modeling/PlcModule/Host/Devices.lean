import PlcModule.Host.Options

/-! Files that stand for something else: the devices of a host, and the descriptors of a process
under names of their own. -/
namespace PlcModule.Host

/-- What a path may stand for beside an entry of the tree. -/
inductive Special where
  /-- Zeros without end. It takes nothing if it is full. -/
  | zeros (full : Bool)
  | descriptor (n : Nat)

def specialPaths : List (String × Special) := [
  ("/dev/zero", .zeros false), ("/dev/full", .zeros true), ("/dev/stdin", .descriptor 0),
  ("/dev/stdout", .descriptor 1), ("/dev/stderr", .descriptor 2), ("/dev/fd/0", .descriptor 0),
  ("/dev/fd/1", .descriptor 1), ("/dev/fd/2", .descriptor 2), ("/proc/self/fd/0", .descriptor 0),
  ("/proc/self/fd/1", .descriptor 1), ("/proc/self/fd/2", .descriptor 2)]

def special? (path : String) : Option Special :=
  specialPaths.lookup path

namespace Task

/-- What is left to be read from a descriptor, or so much of what never ends. -/
def readDescriptor (descriptor wanted : Nat) : Task (Except Fault String) := do
  let p ← get
  match p.descriptors.lookup descriptor with
  | none => return .error (.system (.other 9))
  | some n =>
    match p.machine.channel n with
    | .zeros _ => return .ok (String.ofList (List.replicate wanted '\x00'))
    | _ =>
      match p.machine.readAll n with
      | .ok (text, machine) =>
        set { p with machine }
        return .ok text
      | .error e => return .error (.system e)

/-- What a file holds, or what is left of the input under the name of a dash. So much is read of
what never ends. -/
def readSource (path : String) (wanted : Nat) : Task (Except Fault String) := do
  if path = "-" then readDescriptor 0 wanted
  else match special? path with
    | some (.zeros _) => return .ok (String.ofList (List.replicate wanted '\x00'))
    | some (.descriptor n) => readDescriptor n wanted
    | none => ask fun t => (t.readBytes (Octets.path path)).map Octets.ofBytes

def readFile (path : String) : Task (Except Fault String) :=
  readSource path Machine.endless

/-- Whether a source goes on without end. -/
def isEndless (path : String) : Task Bool := do
  let p ← get
  if path = "-" then
    match p.descriptors.lookup 0 with
    | some n => match p.machine.channel n with
      | .zeros _ => return true
      | _ => return false
    | none => return false
  else match special? path with
    | some (.zeros _) => return true
    | _ => return false

/-- Replaces what a file holds. -/
def writeFile (path : String) (append : Bool) (content : String) : Task (Option Fault) := do
  match special? path with
  | some (.zeros full) =>
    return if full && content ≠ "" then some (.system .noSpace) else none
  | some (.descriptor n) =>
    modify fun p => (p.write n content).1
    return none
  | none =>
    let bytes := Octets.toBytes content
    change fun t =>
      if append then t.appendBytes (Octets.path path) bytes
      else t.writeBytes (Octets.path path) bytes

/-- Does something with the content of each source. A source that cannot be read is told of in
the words that are given, and fails the program in the end. -/
def eachSource (paths : List String) (trouble : String → Fault → String)
    (act : String → String → Task Unit) : Task Nat := do
  each (if paths.isEmpty then ["-"] else paths) fun path => do
    match ← readFile path with
    | .ok text =>
      act path text
      return 0
    | .error e =>
      complain (trouble path e)
      return 1

/-- How most programs tell that a file cannot be read. -/
def cannotRead (path : String) (e : Fault) : String :=
  Quoted.ifNeeded path ++ ": " ++ reason e

/-- All sources as one text. -/
def gather (paths : List String) (trouble : String → Fault → String) : Task (String × Nat) := do
  (if paths.isEmpty then ["-"] else paths).foldlM (fun (text, worst) path => do
    match ← readFile path with
    | .ok more => return (text ++ more, worst)
    | .error e =>
      complain (trouble path e)
      return (text, max worst 1)) ("", 0)

end Task

namespace Lines

/-- The lines of a text, and whether the last one is ended. What has been read of a line and
which lines are complete is held backwards. -/
def collect (ending : Char) (line : List Char) (done : List String) : List Char → List String × Bool
  | [] =>
    if line.isEmpty then (done.reverse, true)
    else ((String.ofList line.reverse :: done).reverse, false)
  | c :: rest =>
    if c = ending then collect ending [] (String.ofList line.reverse :: done) rest
    else collect ending (c :: line) done rest

def split (s : String) : List String × Bool :=
  collect '\n' [] [] s.toList

def of (s : String) : List String :=
  (split s).1

/-- Lines as a text, each with its end. -/
def join (lines : List String) : String :=
  String.join (lines.map (· ++ "\n"))

end Lines
end PlcModule.Host
