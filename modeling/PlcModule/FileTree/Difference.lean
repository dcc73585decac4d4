import PlcModule.FileTree.Basic

/-! What has to be done to a tree to make it another. -/
namespace PlcModule

inductive Change where
  | removeFile (route : Route)
  | removeDirectory (route : Route)
  | makeDirectory (route : Route)
  | writeFile (route : Route) (content : ByteArray)

namespace FileTree

/-- What has to be removed at a route for the other tree to come about. -/
def removal? (after : FileTree) (x : Route × Entry) : Option Change :=
  match x.2, after.find? x.1 with
  | .directory, some .directory => none
  | .directory, _ => some (.removeDirectory x.1)
  | .file .., some (.file ..) => none
  | .file .., _ => some (.removeFile x.1)
  | .device, _ => none

/-- What has to be made at a route that the other tree has. -/
def making? (before : FileTree) (x : Route × Entry) : Option Change :=
  match x.2, before.find? x.1 with
  | .directory, some .directory => none
  | .directory, _ => some (.makeDirectory x.1)
  | .file content _, some (.file old _) =>
    if content.data = old.data then none else some (.writeFile x.1 content)
  | .file content _, _ => some (.writeFile x.1 content)
  | .device, _ => none

/-- The changes from one tree to another, in an order in which each can be made: what lies deepest
goes first and comes last. -/
def changes (before after : FileTree) : List Change :=
  let byDepth (entries : List (Route × Entry)) :=
    entries.mergeSort fun x y => x.1.length ≤ y.1.length
  (byDepth before.entries).reverse.filterMap after.removal? ++
    (byDepth after.entries).filterMap before.making?

end FileTree
end PlcModule
