import PlcModule.Document.Value

/-! Tables of TOML documents while they are put together. A table comes from the path of a
header, from a dotted key or from a header of its own, and its origin says what may still be
added; a value that was written whole takes nothing more. -/
namespace PlcModule.Document.Toml

inductive Origin where
  /-- On the path of a header that names a table below it. -/
  | onPath
  | dottedKey
  | header
  deriving DecidableEq, Repr

inductive Node where
  | whole (value : Value)
  | table (origin : Origin) (fields : List (String × Node))
  /-- The tables of one array, the last first. -/
  | tables (items : List (List (String × Node)))

abbrev Fields := List (String × Node)

/-- Changes what stands under a name, adding the name if it is new. -/
def change (name : String) (edit : Option Node → Option Node) : Fields → Option Fields
  | [] => (edit none).map fun node => [(name, node)]
  | (other, node) :: rest =>
    if other = name then (edit (some node)).map fun new => (name, new) :: rest
    else (change name edit rest).map ((other, node) :: ·)

/-- Puts a value under a dotted key, given as the names before the last and the last. Tables on
the way may come from headers' paths, but the innermost has to come from a dotted key. -/
def putValue (path : List String) (name : String) (value : Value) (fields : Fields) :
    Option Fields :=
  match path with
  | [] => change name (fun | none => some (.whole value) | some _ => none) fields
  | p :: ps =>
    change p (fun
      | none => (putValue ps name value []).map (.table .dottedKey)
      | some (.table .dottedKey inner) => (putValue ps name value inner).map (.table .dottedKey)
      | some (.table .onPath inner) =>
        if ps.isEmpty then none else (putValue ps name value inner).map (.table .onPath)
      | some (.tables (last :: before)) =>
        if ps.isEmpty then none
        else (putValue ps name value last).map fun new => .tables (new :: before)
      | some _ => none) fields

/-- Edits the fields that a header's path leads to; the last table of an array stands for it. -/
def descend (path : List String) (edit : Fields → Option Fields) (fields : Fields) :
    Option Fields :=
  match path with
  | [] => edit fields
  | p :: ps =>
    change p (fun
      | none => (descend ps edit []).map (.table .onPath)
      | some (.table origin inner) => (descend ps edit inner).map (.table origin)
      | some (.tables (last :: before)) =>
        (descend ps edit last).map fun new => .tables (new :: before)
      | some _ => none) fields

/-- Fills the table of a header, which may have been on the path of headers before. -/
def openTable (name : String) (fill : Fields → Option Fields) : Fields → Option Fields :=
  change name fun
    | none => (fill []).map (.table .header)
    | some (.table .onPath inner) => (fill inner).map (.table .header)
    | some _ => none

/-- Fills a new table at the end of an array of tables. -/
def openItem (name : String) (fill : Fields → Option Fields) : Fields → Option Fields :=
  change name fun
    | none => (fill []).map fun new => .tables [new]
    | some (.tables items) => (fill []).map fun new => .tables (new :: items)
    | some _ => none

mutual

def Node.value : Node → Value
  | .whole v => v
  | .table _ fields => .record (fieldValues fields)
  | .tables items => .list (itemValues items).reverse

def fieldValues : List (String × Node) → List (Option String × Value)
  | [] => []
  | (name, node) :: rest => (some name, node.value) :: fieldValues rest

def itemValues : List (List (String × Node)) → List Value
  | [] => []
  | fields :: rest => .record (fieldValues fields) :: itemValues rest

end

end PlcModule.Document.Toml
