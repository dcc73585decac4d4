import PlcModule.Text.Lines

/-! Paths as they are written. A path keeps its text: joining normalises nothing. Two paths
name the same place when their components agree, so `b`, `b/` and `b/.` are one place and
`./b` is another. -/
namespace PlcModule

structure Path where
  text : String
  deriving DecidableEq, Repr, Inhabited

namespace Path

/-- A leading `.` is a component of its own, since it tells `./b` from `b`; elsewhere a `.`
and an empty piece stand for nothing. -/
inductive Component where
  | root
  | here
  | up
  | name (text : String)
  deriving DecidableEq, Repr

def isAbsolute (p : Path) : Bool :=
  p.text.toList.head? == some '/'

/-- Cuts a path into its start (`/`, `.` or nothing) and the pieces after it. -/
def cut (p : Path) : List Char × List (List Char) :=
  match p.text.toList with
  | '/' :: rest => (['/'], Text.splitAt '/' rest)
  | ['.'] => (['.'], [])
  | '.' :: '/' :: rest => (['.'], Text.splitAt '/' ('/' :: rest))
  | other => ([], Text.splitAt '/' other)

def startComponents : List Char → List Component
  | ['/'] => [.root]
  | ['.'] => [.here]
  | _ => []

/-- A piece that stands for nothing. -/
def isIdle (piece : List Char) : Bool :=
  piece.isEmpty || piece == ['.']

def pieceComponent (piece : List Char) : Option Component :=
  if isIdle piece then none
  else if piece = ['.', '.'] then some .up
  else some (.name (String.ofList piece))

def components (p : Path) : List Component :=
  startComponents p.cut.1 ++ p.cut.2.filterMap pieceComponent

/-- Whether two paths are the same place as far as their texts tell. -/
def same (p q : Path) : Bool :=
  p.components == q.components

/-- The path of `q` seen from `p`. An absolute `q` stands for itself, and an empty `q` leaves
`p` with a separator at its end. -/
def join (p q : Path) : Path :=
  if q.isAbsolute || p.text.isEmpty then q
  else if p.text.toList.getLast? = some '/' then ⟨p.text ++ q.text⟩
  else ⟨p.text ++ "/" ++ q.text⟩

def child (p : Path) (name : String) : Path :=
  p.join ⟨name⟩

/-- The last component, if it is a name. -/
def fileName (p : Path) : Option String :=
  match p.components.getLast? with
  | some (.name s) => some s
  | _ => none

/-- The name that a log shows for a path: its last component, or all of it. -/
def displayName (p : Path) : String :=
  p.fileName.getD p.text

/-- Cuts a file name at its last dot. A name without a dot, or with its only dot in front, has
no second part. -/
def cutName (name : String) : String × Option String :=
  let pieces := Text.splitAt '.' name.toList
  let stem := Text.joinAt '.' pieces.dropLast
  if stem.isEmpty then (name, none)
  else (String.ofList stem, pieces.getLast?.map String.ofList)

def fileStem (p : Path) : Option String :=
  p.fileName.map fun name => (cutName name).1

def fileExtension (p : Path) : Option String :=
  p.fileName.bind fun name => (cutName name).2

/-- Drops the idle pieces at the end. -/
def trimIdle (pieces : List (List Char)) : List (List Char) :=
  (pieces.reverse.dropWhile isIdle).reverse

/-- The path without its last component; the root and the empty path have none to lose. -/
def parent (p : Path) : Option Path :=
  match p.cut with
  | (start, pieces) =>
    if (trimIdle pieces).isEmpty then
      match start with
      | ['.'] => some ⟨""⟩
      | _ => none
    else
      some ⟨String.ofList (start ++ Text.joinAt '/' (trimIdle (trimIdle pieces).dropLast))⟩

theorem same_iff (p q : Path) : p.same q = true ↔ p.components = q.components := by
  simp [same]

theorem join_absolute (p q : Path) (absolute : q.isAbsolute = true) : p.join q = q := by
  simp [join, absolute]

end Path
end PlcModule
