import PlcModule.BuildError
import PlcModule.Document.Json
import PlcModule.FileTree.Operations
import PlcModule.Project.Record

/-! Inventories kept in files of their own, as JSON documents. -/
namespace PlcModule.Inventory

def parse (s : String) : Option Inventory :=
  (Document.Json.parse s).bind (ofValue? .json)

def load (tree : FileTree) (path : Path) : Except BuildError Inventory :=
  match tree.readText path with
  | .error cause => .error (.extraction (.unreadable path cause))
  | .ok content =>
    match parse content with
    | none => .error (.extraction (.malformed path))
    | some inventory => .ok inventory

end PlcModule.Inventory
