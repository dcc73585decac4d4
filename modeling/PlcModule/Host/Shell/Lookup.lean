import PlcModule.Host.Shell.Builtins

/-! What the name of a command stands for. -/
namespace PlcModule.Host.Shell

/-- The paths at which a program may be. -/
def pathsOf (path name : String) : List String :=
  (path.splitOn ":").map fun dir => if dir = "" then name else dir ++ "/" ++ name

/-- A name that leads nowhere. -/
def isMissing (e : Errno) : Bool :=
  e = .notFound || e = .notADirectory

/-- The first of the paths at which there is a program, and those after it. -/
def existing (t : FileTree) (why : Errno) : List String → Except Errno (List String)
  | [] => .error why
  | p :: rest =>
    match t.status (Octets.path p) with
    | .ok (_, .file _ true) => .ok (p :: rest)
    | .ok _ => existing t .accessDenied rest
    | .error (.system e) => existing t (if isMissing e then why else e) rest
    | .error _ => existing t why rest

/-- The paths at which a program is tried, if it is anywhere. -/
def programPaths (t : FileTree) (path name : String) : Except Errno (List String) :=
  if name.contains '/' then .ok [name] else existing t .notFound (pathsOf path name)

def startReason (e : Errno) : String :=
  if isMissing e then "not found" else e.text

/-- The exit code of a program that cannot be started. -/
def startCode (e : Errno) : Nat :=
  if isMissing e || e = .linkLoop || e = .nameTooLong then 127 else 126

def searchPath (s : Session) : String :=
  (s.value? "PATH").getD ""

/-- Where programs are looked for that everybody has. -/
def usualPath : String :=
  "/usr/sbin:/usr/bin:/sbin:/bin"

inductive Found where
  | function (body : Command)
  | builtin
  | program
  deriving Inhabited

def find (s : Session) (functions : Bool) (name : String) : Found :=
  match if functions then s.functions.lookup name else none with
  | some body => .function body
  | none => if isBuiltin name then .builtin else .program

/-- A command and what it is called with. -/
structure Call where
  name : String
  args : List String
  found : Found
  /-- The shell ends if it goes wrong, and what is set for it stays set. -/
  special : Bool
  path : String

/-- The options of `command`, if they ask for nothing but to run what follows. -/
def commandOptions (path : String) : List String → Option (String × List String)
  | [] => none
  | a :: rest =>
    match a.toList with
    | ['-', '-'] => if rest.isEmpty then none else some (path, rest)
    | '-' :: c :: more =>
      if (c :: more).all (· = 'p') then commandOptions usualPath rest else none
    | _ => some (path, a :: rest)

/-- What follows `command`, however often that is said. -/
def commandCall (s : Session) : Nat → String → String → List String → Call
  | 0, path, name, args => ⟨name, args, .program, false, path⟩
  | n + 1, path, name, args =>
    if name = "command" then
      match commandOptions path args with
      | some (path, name :: args) => commandCall s n path name args
      | _ => ⟨name, args, .builtin, false, path⟩
    else ⟨name, args, find s false name, false, path⟩

def Call.of (s : Session) (name : String) (args : List String) : Call :=
  match find s true name with
  | .builtin =>
    if name = "command" then commandCall s (args.length + 1) (searchPath s) name args
    else ⟨name, args, .builtin, isSpecialCommand name, searchPath s⟩
  | found => ⟨name, args, found, false, searchPath s⟩

def Call.isExec (c : Call) : Bool :=
  c.name = "exec" && match c.found with
    | .builtin => true
    | _ => false

/-- Whether what follows are settings, which are not cut into fields. -/
def takesSettings : List String → Bool
  | [] => false
  | name :: rest =>
    if name = "command" then takesSettings rest
    else ["alias", "export", "local", "readonly"].contains name

/-- Keeps in mind where a program is. -/
def remember (name path : String) : Eval Unit := do
  if !name.contains '/' then
    modify fun s => { s with located := (name, path) :: s.located.filter fun x => x.1 ≠ name }

/-- In which of its drawers the shell keeps what it knows of a name. -/
def drawer (name : String) : Nat :=
  let codes := name.toList.map Char.toNat
  (codes.foldl (· + ·) (16 * codes.headD 0)) % 32768 % 31

def hash : Builtin := fun args => do
  let (given, names) ← options "rv" args
  if has given 'r' then
    modify fun s => { s with located := [] }
    return 0
  if names.isEmpty then
    let known := (← get).located.reverse.mergeSort fun a b => drawer a.1 ≤ drawer b.1
    say (String.join (known.map fun x => x.2 ++ "\n"))
  else
    let mut code := 0
    for name in names do
      let s ← get
      match find s true name, programPaths s.tree (searchPath s) name with
      | .program, .ok (p :: _) => remember name p
      | .program, _ =>
        tell (name ++ ": not found")
        code := 1
      | _, _ => pure ()
    return code

/-- Tells what a name stands for, in a word or in a line. -/
def describe (verbose : Bool) (path name : String) : Eval Nat := do
  let s ← get
  let line (short long : String) : Eval Nat :=
    say ((if verbose then name ++ long else short) ++ "\n")
  if Token.keywords.contains name then line name " is a shell keyword"
  else match s.aliases.lookup name with
    | some value =>
      line ("alias " ++ name ++ "=" ++ singleQuoted value) (" is an alias for " ++ value)
    | none =>
      match find s true name with
      | .function _ => line name " is a shell function"
      | .builtin =>
        line name (if isSpecialCommand name then " is a special shell builtin"
          else " is a shell builtin")
      | .program =>
        let missing : Eval Nat := do
          if verbose then
            let _ ← say (name ++ ": not found\n")
          return 127
        match programPaths s.tree path name with
        | .ok (p :: _) =>
          let known := (s.located.lookup name).isSome
          remember name p
          if s.tree.pathExists (Octets.path p) then
            line p ((if known then " is a tracked alias for " else " is ") ++ p)
          else missing
        | _ => missing

end PlcModule.Host.Shell
