import PlcModule.Host.Shell.Expansion

/-! Where the descriptors of a command lead. The words of all redirections are expanded before the
first file is opened, and so a redirection that fails leaves those before it in effect. -/
namespace PlcModule.Host.Shell

/-- A redirection whose words are expanded. -/
inductive Wire where
  | file (descriptor : Nat) (mode : OpenMode) (name : String)
  | same (descriptor other : Nat)
  | closed (descriptor : Nat)
  | document (descriptor : Nat) (lines : Document)

/-- Refuses a script for what it turns out to say. -/
def refuse {α : Type} (message : String) : Eval α := do
  modify fun s => { s with line := s.nextLine }
  failWith ("Syntax error: " ++ message)

def expandRedirect (capture : Capture) : Redirect → Eval Wire
  | .file descriptor mode name => return .file descriptor mode (← expandText capture name)
  | .same descriptor other => do
    match (← expandText capture other).toList with
    | ['-'] => return .closed descriptor
    | [d] => if d.isDigit then return .same descriptor (d.toNat - 0x30) else refuse "Bad fd number"
    | _ => refuse "Bad fd number"
  | .document descriptor number => do
    return .document descriptor (((← get).documents.lookup number).getD [])

/-- Why a file cannot be opened, in the words of a shell. -/
def openReason (missing : String) : Fault → String
  | .system .notFound | .system .notADirectory => missing
  | f => reason f

/-- The channel of a file that is written, and the files after it is opened. -/
def openForWriting (s : Session) (mode : OpenMode) (name : String) :
    Except Fault (Channel × FileTree) := do
  let t := s.tree
  let path := Octets.path name
  match t.status path with
  | .ok (_, .device) => return (.sink, t)
  | .ok (l, .file content _) =>
    let _ ← t.target path
    match mode with
    | .append => return (.file l content.size true false, t)
    | .both => return (.file l 0 false true, t)
    | .write =>
      if s.isSet 'C' then throw (.system .alreadyExists)
      return (.file l 0 false false, ← t.writeBytes path .empty)
    | _ => return (.file l 0 false false, ← t.writeBytes path .empty)
  | _ =>
    let u ← t.writeBytes path .empty
    let (l, _) ← u.status path
    return (.file l 0 (mode = .append) (mode = .both), u)

def openForReading (t : FileTree) (name : String) : Except Fault Channel := do
  match ← t.status (Octets.path name) with
  | (_, .device) => return .sink
  | (l, _) => return .file l 0 false true

/-- Opens a file. Answers the number of its channel. -/
def openFile (mode : OpenMode) (name : String) : Eval Nat := do
  let s ← get
  let add (c : Channel) (t : FileTree) : Eval Nat := do
    let (machine, n) := { s.process.machine with tree := t }.open_ c
    set { s with process := { s.process with machine } }
    return n
  let cannot (f : Fault) : Eval Nat :=
    if mode = .read then
      failWith ("cannot open " ++ name ++ ": " ++ openReason "No such file" f)
    else failWith ("cannot create " ++ name ++ ": " ++ openReason "Directory nonexistent" f)
  match special? name with
  | some (.zeros full) => add (.zeros full) s.tree
  | some (.descriptor d) =>
    match s.process.descriptors.lookup d with
    | some n => return n
    | none => cannot (.system (.other 6))
  | none =>
    if mode = .read then
      match openForReading s.tree name with
      | .ok c => add c s.tree
      | .error f => cannot f
    else match openForWriting s mode name with
      | .ok (c, t) => add c t
      | .error f => cannot f

def setDescriptor (descriptor channel : Nat) : Eval Unit :=
  modify fun s =>
    { s with process := { s.process with
        descriptors := s.process.descriptors.set descriptor channel } }

/-- Opens what a redirection leads to. The lines of a document are expanded only now. -/
def connect (capture : Capture) : Wire → Eval Unit
  | .file descriptor mode name => do setDescriptor descriptor (← openFile mode name)
  | .same descriptor other => do
    match (← get).process.descriptors.lookup other with
    | some n => setDescriptor descriptor n
    | none => failWith (toString other ++ ": Bad file descriptor")
  | .closed descriptor =>
    modify fun s =>
      { s with process := { s.process with
          descriptors := s.process.descriptors.close descriptor } }
  | .document descriptor lines => do
    let pieces ← expandPieces capture ⟨false, false⟩ lines
    let content := (marksOf pieces).map Prod.fst
    modify fun s => { s with process := s.process.open_ descriptor (.source content) }

end PlcModule.Host.Shell
