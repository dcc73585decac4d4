import PlcModule.FileTree.Basic
import PlcModule.Text.Utf8

/-! Reading and changing files. An operation that fails leaves the tree as it was; the two that
work through several entries (`makeDirectories`, `removeTree`) answer the tree they leave too.
Whether one fails is settled by its paths and by what they lead to. Nothing is refused for want of a
permission or of space: a file that is reached can be read, written to its end and removed, and a
copy keeps the executable bit alone, so it can be written over. -/
namespace PlcModule.FileTree

def readBytes (t : FileTree) (p : Path) : Except Fault ByteArray := do
  match (← t.status p).2 with
  | .directory => .error (.system .isADirectory)
  | .file content _ => .ok content
  | .device => .ok .empty

def readText (t : FileTree) (p : Path) : Except Fault String := do
  match String.fromUTF8? (← t.readBytes p) with
  | some s => .ok s
  | none => .error .notText

/-- The route that a path to a file to be written leads to, and whether that file, if there
is one, is executable. -/
def target (t : FileTree) (p : Path) : Except Fault (Route × Bool) := do
  let place ← t.locate p
  if place.name.isNone || place.slash then .error (.system .isADirectory)
  else match t.find? place.route with
    | some .directory => .error (.system .isADirectory)
    | some (.file _ executable) => .ok (place.route, executable)
    | _ => .ok (place.route, false)

/-- Replaces a file's bytes, or makes the file. A device stays as it is. -/
def writeBytes (t : FileTree) (p : Path) (content : ByteArray) : Except Fault FileTree := do
  let (l, executable) ← t.target p
  match t.find? l with
  | some .device => .ok t
  | _ => .ok (t.put l (.file content executable))

def appendBytes (t : FileTree) (p : Path) (content : ByteArray) : Except Fault FileTree := do
  let (l, executable) ← t.target p
  match t.find? l with
  | some (.file before _) => .ok (t.put l (.file (before ++ content) executable))
  | some .device => .ok t
  | _ => .ok (t.put l (.file content executable))

def setExecutable (t : FileTree) (p : Path) (executable : Bool) : Except Fault FileTree := do
  match ← t.status p with
  | (l, .file content _) => .ok (t.put l (.file content executable))
  | _ => .ok t

def makeDirectory (t : FileTree) (p : Path) : Except Fault FileTree := do
  let place ← t.locate p
  if place.name.isNone || (t.find? place.route).isSome then .error (.system .alreadyExists)
  else .ok (t.put place.route .directory)

/-- Makes a directory and those missing on the way to it, trying at most `tries` paths. -/
def makeDirectoriesIn (tries : Nat) (t : FileTree) (p : Path) : FileTree × Except Fault Unit :=
  match tries with
  | 0 => (t, .error .notFound)
  | tries + 1 =>
    if p.text.isEmpty then (t, .ok ())
    else match t.makeDirectory p with
      | .ok u => (u, .ok ())
      | .error .notFound =>
        match p.parent with
        | none => (t, .error .notFound)
        | some q =>
          match makeDirectoriesIn tries t q with
          | (u, .error e) => (u, .error e)
          | (u, .ok _) =>
            match u.makeDirectory p with
            | .ok v => (v, .ok ())
            | .error e => (u, if u.isDirectory p then .ok () else .error e)
      | .error e => (t, if t.isDirectory p then .ok () else .error e)

/-- Makes a directory and those missing on the way to it. Each try is on a path with a component
less, so there are no more tries than components and one for the empty path. -/
def makeDirectories (t : FileTree) (p : Path) : FileTree × Except Fault Unit :=
  makeDirectoriesIn (p.components.length + 1) t p

/-- Copies a file's bytes and its executable bit. The target is emptied before the source is
read, so a file copied onto itself is emptied. -/
def copyFile (t : FileTree) (source goal : Path) : Except Fault FileTree := do
  match ← t.status source with
  | (l, .file _ executable) =>
    let (k, _) ← t.target goal
    match t.find? k with
    | some .device => .ok t
    | _ =>
      let emptied := t.put k (.file .empty executable)
      match emptied.find? l with
      | some (.file content _) => .ok (emptied.put k (.file content executable))
      | _ => .ok emptied
  | _ => .error .notARegularFile

def removeFile (t : FileTree) (p : Path) : Except Fault FileTree := do
  let place ← t.locate p
  if place.name.isNone then .error (.system .isADirectory)
  else match t.find? place.route with
    | none => .error .notFound
    | some .directory => .error (.system .isADirectory)
    | some _ =>
      if place.slash then .error (.system .notADirectory) else .ok (t.erase place.route)

/-- Moves a directory with all that is below it. -/
def moveAll (t : FileTree) (l k : Route) : FileTree :=
  (t.entries.filter fun x => l.isPrefixOf x.1).foldl
    (fun u x => u.put (k ++ x.1.drop l.length) x.2) (t.keep fun x => !l.isPrefixOf x)

/-- Moves what is at `source` to `goal`. A file replaces a file; a directory replaces an empty
directory, and cannot go below itself. -/
def rename (t : FileTree) (source goal : Path) : Except Fault FileTree := do
  let place ← t.locate source
  let aim ← t.locate goal
  if place.name.isNone || aim.name.isNone then .error (.system .busy)
  else
    let l := place.route
    let k := aim.route
    match t.find? l with
    | none => .error .notFound
    | some .directory =>
      if l = k then .ok t
      else if isBelow l k then .error (.system .invalidArgument)
      else if isBelow k l then .error (.system .notEmpty)
      else match t.find? k with
        | some .directory =>
          if (t.children k).isEmpty then .ok (t.moveAll l k) else .error (.system .notEmpty)
        | some _ => .error (.system .notADirectory)
        | none => .ok (t.moveAll l k)
    | some e =>
      if place.slash || aim.slash then .error (.system .notADirectory)
      else if l = k then .ok t
      else if (t.find? k).any Entry.isDirectory then .error (.system .isADirectory)
      else .ok ((t.erase l).put k e)

/-- Removes a directory with all that is below it. A path that ends in `.` still empties the
directory and then fails, since a directory cannot be removed by that name. -/
def removeTree (t : FileTree) (p : Path) : FileTree × Except Fault Unit :=
  match t.status p with
  | .error e => (t, .error e)
  | .ok (l, .directory) =>
    let emptied := t.keep fun k => !isBelow l k
    match emptied.locate p with
    | .error .notFound => (emptied, .ok ())
    | .error e => (emptied, .error e)
    | .ok place =>
      if place.name.isNone then (emptied, .error (.system .invalidArgument))
      else (emptied.erase l, .ok ())
  | .ok _ => (t, .error (.system .notADirectory))

end PlcModule.FileTree
