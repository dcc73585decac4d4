import PlcModule.FileTree.Operations

/-! Files that only exist while a build runs: objects and linked images. -/
namespace PlcModule.FileTree

def isIntermediateName (name : String) : Bool :=
  match (Path.cutName name).2 with
  | some extension => extension == "o" || extension == "elf"
  | none => false

/-- The files directly in a directory that a build leaves no trace of, by name. -/
def intermediates (t : FileTree) (dir : Path) : List String :=
  match t.status dir with
  | .ok (l, .directory) =>
    ((t.children l).filter fun x => x.2.isFile && isIntermediateName x.1).map Prod.fst
  | _ => []

/-- Removes files of a directory, by name, and counts them. One that cannot be removed stays. -/
def removeNamed (t : FileTree) (dir : Path) (names : List String) : FileTree × Nat :=
  names.foldl (fun x name =>
    match x.1.removeFile (dir.child name) with
    | .ok u => (u, x.2 + 1)
    | .error _ => x) (t, 0)

def removeIntermediates (t : FileTree) (dir : Path) : FileTree × Nat :=
  t.removeNamed dir (t.intermediates dir)

end PlcModule.FileTree
