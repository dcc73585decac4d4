import PlcModule.Host.Installed

/-! How a file becomes a program. A script names the interpreter that it is for in its first line,
which may be a script again. -/
namespace PlcModule.Host

/-- How much of a file is looked at. -/
def headLength : Nat := 256

def isGap (c : Char) : Bool :=
  c = ' ' || c = '\t'

/-- What ends the name of an interpreter. -/
def endsName (c : Char) : Bool :=
  isGap c || c = '\x00'

def trimEnd (cs : List Char) : List Char :=
  (cs.reverse.dropWhile isGap).reverse

/-- The interpreter that a file's first line names, with the argument it is given there. A line that
goes on beyond what is looked at has to show at least where the name ends. -/
def interpreter? (content : String) : Option (String × List String) :=
  match content.toList.take headLength with
  | '#' :: '!' :: rest =>
    let buffer := rest ++ List.replicate (headLength - 2 - rest.length) '\x00'
    let line := buffer.takeWhile fun c => c ≠ '\n' && c ≠ '\x00'
    let ended := buffer[line.length]? = some '\n'
    let named := (trimEnd (if ended then line else buffer.dropLast)).dropWhile isGap
    let name := named.takeWhile fun c => !endsName c
    if named.isEmpty || (!ended && !(buffer.dropWhile isGap).any endsName) then none
    else
      let argument := match named.drop name.length with
        | [] | '\x00' :: _ => []
        | after => [String.ofList ((after.dropWhile isGap).takeWhile (· ≠ '\x00'))]
      some (String.ofList name, argument)
  | _ => none

/-- The most bytes that an argument may have, with the one that ends it. -/
def argumentLimit : Nat := 131072

/-- The bytes of a file that can be run, or why there is none. -/
def executable (t : FileTree) (path : String) : Except Errno String :=
  match t.status (Octets.path path) with
  | .ok (_, .file content true) => .ok (Octets.ofBytes content)
  | .ok _ => .error .accessDenied
  | .error (.system e) => .error e
  | .error _ => .error .invalidArgument

/-- A process that a signal has reached ends by it. -/
def settle (status : Status) (p : Process) : Status × Process :=
  let mine := p.machine.signals.filter fun x => x.1 = p.id
  let machine := { p.machine with signals := p.machine.signals.filter fun x => x.1 ≠ p.id }
  match mine.find? fun x => !Shell.isHarmless x.2 && !p.ignored.contains x.2 with
  | some (_, signal) => (.killed signal, { p with machine })
  | none => (status, { p with machine })

/-- Has a process become the program at a path. Interpreters may stand for one another so often. -/
def load (table : List (String × Program)) (p : Process) :
    Nat → String → String → List String → Except Errno (Status × Process)
  | 0, _, _, _ => .error .linkLoop
  | n + 1, path, name, args => do
    let content ← executable p.tree path
    if (path :: name :: args).any fun a => argumentLimit ≤ a.length then .error .argumentsTooLong
    else match (binaryName? content).bind fun b => table.lookup b with
      | some program =>
        let (status, q) := (program args).run { p with name }
        .ok (settle status q)
      | none =>
        match interpreter? content with
        | none => .error .notExecutable
        | some (interpreter, argument) =>
          load table p n interpreter interpreter (argument ++ path :: args)

/-- How many interpreters may stand for one another, and the program behind them. -/
def interpreterLimit : Nat := 6

def shellPath : String := "/bin/sh"

/-- Tries a path, for whoever takes any other file for a script of the shell. -/
def orScript (exec : Exec) : Exec := fun path name args p =>
  match exec path name args p with
  | .error .notExecutable => exec shellPath shellPath (path :: args) p
  | answer => answer

/-- Tries paths. One that must not be run is remembered. -/
def tryAll (exec : Exec) (name : String) (args : List String) (p : Process) :
    Errno → List String → Except Errno (Status × Process)
  | why, [] => .error why
  | why, path :: rest =>
    match exec path name args p with
    | .error .accessDenied => tryAll exec name args p .accessDenied rest
    | .error e =>
      if Shell.isMissing e then tryAll exec name args p why rest else .error e
    | answer => answer

/-- Has a process become a program that is looked for by its name. -/
def search (exec : Exec) : Start := fun name args p =>
  if name = "" then .error .notFound
  else if name.contains '/' then exec name name args p
  else if FileTree.nameLimit < name.length then .error .nameTooLong
  else
    let path := (p.environment.lookup "PATH").getD "/bin:/usr/bin"
    tryAll exec name args p .notFound (Shell.pathsOf path name)

/-- Has a process become the program at a path, where programs start one another to a depth. -/
def exec : Nat → Exec
  | 0 => fun _ _ _ _ => .error .tryAgain
  | n + 1 => fun path name args p =>
    let inner := orScript (exec n)
    load (programs inner (search inner)) p interpreterLimit path name args

def startDepth : Nat := 60

end PlcModule.Host
