import PlcModule.Fault
import PlcModule.Path

/-! A file tree: directories, files with their bytes and their executable bit, and devices. Its view is
`find?`, the entry at a route. A route is given by the names on the way from the root;
a path reaches it by a walk from the root or the working directory, in which every step leaves
from a directory. There are no links, so two routes are two entries, and no permissions: a walk
fails for what stands in its way or for a name or path that is too long, and for nothing else. -/
namespace PlcModule

/-- The names on the way from the root down. -/
abbrev Route := List String

inductive Entry where
  | directory
  | file (content : ByteArray) (executable : Bool)
  /-- Holds nothing, and keeps nothing of what is written to it. -/
  | device

namespace Entry

def isFile : Entry → Bool
  | file .. => true
  | _ => false

def isDirectory : Entry → Bool
  | directory => true
  | _ => false

end Entry

structure FileTree where
  workingDirectory : Route
  entries : List (Route × Entry)
  distinct : (entries.map Prod.fst).Nodup

namespace FileTree

/-- A tree that holds nothing but its working directory. -/
def blank : FileTree where
  workingDirectory := ["work"]
  entries := [(["work"], .directory)]
  distinct := by simp

/-- The entry at a route. The root is a directory in every tree. -/
def find? (t : FileTree) (l : Route) : Option Entry :=
  if l = [] then some .directory else t.entries.lookup l

/-- Puts an entry at a route, in place of what stood there. -/
def put (t : FileTree) (l : Route) (e : Entry) : FileTree where
  workingDirectory := t.workingDirectory
  entries := (l, e) :: t.entries.filter fun x => x.1 ≠ l
  distinct := by
    rw [List.map_cons, List.nodup_cons]
    refine ⟨?_, (List.Sublist.map Prod.fst List.filter_sublist).nodup t.distinct⟩
    simp

/-- Keeps the entries whose route passes the test. -/
def keep (t : FileTree) (p : Route → Bool) : FileTree where
  workingDirectory := t.workingDirectory
  entries := t.entries.filter fun x => p x.1
  distinct := (List.Sublist.map Prod.fst List.filter_sublist).nodup t.distinct

def erase (t : FileTree) (l : Route) : FileTree :=
  t.keep fun k => k ≠ l

theorem lookup_filter (p : Route → Bool) (l : Route) (entries : List (Route × Entry)) :
    (entries.filter fun x => p x.1).lookup l = if p l then entries.lookup l else none := by
  induction entries with
  | nil => simp
  | cons x rest ih =>
    obtain ⟨k, e⟩ := x
    rw [List.filter_cons]
    by_cases h : l = k
    · subst h
      cases hp : p l
      · simpa [hp] using ih
      · simp
    · have hb : (l == k) = false := by simpa using h
      cases hp : p k
      · simpa [List.lookup_cons, hb] using ih
      · simp only [if_true, List.lookup_cons, hb]
        exact ih

theorem find?_root (t : FileTree) : t.find? [] = some .directory := by
  simp [find?]

theorem find?_keep (t : FileTree) (p : Route → Bool) (l : Route) (below : l ≠ []) :
    (t.keep p).find? l = if p l then t.find? l else none := by
  simp [find?, keep, below, lookup_filter]

theorem find?_put_self (t : FileTree) (l : Route) (e : Entry) (below : l ≠ []) :
    (t.put l e).find? l = some e := by
  simp [find?, put, below]

theorem find?_put_of_ne (t : FileTree) (l k : Route) (e : Entry) (other : k ≠ l) :
    (t.put l e).find? k = t.find? k := by
  have hb : (k == l) = false := by simpa using other
  have hf := lookup_filter (fun x => x ≠ l) k t.entries
  by_cases root : k = []
  · simp [find?, root]
  · simp only [find?, put, root, if_false, List.lookup_cons, hb]
    rw [hf]
    simp [other]

theorem find?_erase_self (t : FileTree) (l : Route) (below : l ≠ []) :
    (t.erase l).find? l = none := by
  simp [erase, find?_keep, below]

theorem find?_erase_of_ne (t : FileTree) (l k : Route) (other : k ≠ l) :
    (t.erase l).find? k = t.find? k := by
  by_cases root : k = []
  · simp [find?, root]
  · simp [erase, find?_keep, root, other]

/-- The most bytes a name may have, and a path. -/
def nameLimit : Nat := 255

def pathLimit : Nat := 4095

/-- One step of a walk, from a directory to the directory of that name. -/
def enter (t : FileTree) (directory : Route) (name : String) : Except Fault Route :=
  if name = "." then .ok directory
  else if name = ".." then .ok directory.dropLast
  else if nameLimit < name.utf8ByteSize then .error (.system .nameTooLong)
  else match t.find? (directory ++ [name]) with
    | some .directory => .ok (directory ++ [name])
    | some _ => .error (.system .notADirectory)
    | none => .error .notFound

def walk (t : FileTree) (directory : Route) : List String → Except Fault Route
  | [] => .ok directory
  | name :: names => t.enter directory name >>= (t.walk · names)

/-- Where a path leads: an existing directory, and in it a name that need not exist. A path
that ends in the root, in `.` or in `..` leads to the directory itself and has no name. -/
structure Place where
  directory : Route
  name : Option String
  /-- A separator stands after the name, which asks for a directory. -/
  slash : Bool
  deriving DecidableEq, Repr

def Place.route (p : Place) : Route :=
  p.directory ++ p.name.toList

/-- The names of a path, between its separators. -/
def pathNames (p : Path) : List String :=
  ((Text.splitAt '/' p.text.toList).filter (!·.isEmpty)).map String.ofList

/-- The place of the last name of a path, seen from the directory that the others lead to. -/
def placeIn (directory : Route) (name : String) (slash : Bool) : Except Fault Place :=
  if name = "." then .ok ⟨directory, none, slash⟩
  else if name = ".." then .ok ⟨directory.dropLast, none, slash⟩
  else if nameLimit < name.utf8ByteSize then .error (.system .nameTooLong)
  else .ok ⟨directory, some name, slash⟩

def locate (t : FileTree) (p : Path) : Except Fault Place :=
  if p.text.toList.contains '\x00' then .error .embeddedNul
  else if p.text.isEmpty then .error .notFound
  else if pathLimit < p.text.utf8ByteSize then .error (.system .nameTooLong)
  else
    let start := if p.isAbsolute then [] else t.workingDirectory
    match (pathNames p).getLast? with
    | none => .ok ⟨start, none, true⟩
    | some last => do
      let directory ← t.walk start (pathNames p).dropLast
      placeIn directory last (p.text.toList.getLast? == some '/')

/-- The route of a path that leads to something, with what stands there. -/
def status (t : FileTree) (p : Path) : Except Fault (Route × Entry) := do
  let place ← t.locate p
  match t.find? place.route with
  | none => .error .notFound
  | some e =>
    if place.slash && !e.isDirectory then .error (.system .notADirectory)
    else .ok (place.route, e)

def pathExists (t : FileTree) (p : Path) : Bool :=
  (t.status p).isOk

def isFile (t : FileTree) (p : Path) : Bool :=
  match t.status p with
  | .ok (_, .file ..) => true
  | _ => false

def isDirectory (t : FileTree) (p : Path) : Bool :=
  match t.status p with
  | .ok (_, .directory) => true
  | _ => false

/-- What stands directly in a directory, by name. -/
def children (t : FileTree) (directory : Route) : List (String × Entry) :=
  t.entries.filterMap fun x =>
    match x.1.getLast? with
    | some name => if x.1.dropLast = directory then some (name, x.2) else none
    | none => none

/-- Whether a route lies below a directory, at any depth. -/
def isBelow (directory l : Route) : Bool :=
  directory.isPrefixOf l && l != directory

/-- What stands below the working directory, each with the names on the way to it. -/
def listing (t : FileTree) : List (Route × Entry) :=
  t.entries.filterMap fun x =>
    if isBelow t.workingDirectory x.1 then some (x.1.drop t.workingDirectory.length, x.2)
    else none

end FileTree
end PlcModule
