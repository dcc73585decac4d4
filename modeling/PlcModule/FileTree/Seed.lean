import PlcModule.FileTree.Operations

/-! Furnishing a tree from outside: files set down with the directories on the way to them, as
an editor or a checkout would. What cannot be done is left undone. -/
namespace PlcModule

/-- What to set down at a path. -/
inductive Item where
  | directory
  | file (content : ByteArray) (executable : Bool)

namespace FileTree

def plant (t : FileTree) (p : Path) : Item → FileTree
  | .directory => (t.makeDirectories p).1
  | .file content executable =>
    let u := match p.parent with
      | some q => (t.makeDirectories q).1
      | none => t
    match u.writeBytes p content with
    | .error _ => u
    | .ok v => if executable then (v.setExecutable p true).toOption.getD v else v

/-- Takes away a file, or a directory with all that is below it. -/
def uproot (t : FileTree) (p : Path) : FileTree :=
  if t.isDirectory p then (t.removeTree p).1 else (t.removeFile p).toOption.getD t

/-- A tree with the given entries and nothing else, seen from a directory. -/
def ofEntries (workingDirectory : Route) (entries : List (Route × Entry)) : FileTree :=
  entries.foldl (fun t x => t.put x.1 x.2) ⟨workingDirectory, [], by simp⟩

def plantAll (t : FileTree) (items : List (Path × Item)) : FileTree :=
  items.foldl (fun t x => t.plant x.1 x.2) t

end FileTree
end PlcModule
