/-! Values of documents: what a project file or an inventory file is read as, before anything
is asked of it. -/
namespace PlcModule.Document

/-- A text without reading is one that its document spells with half a surrogate pair. Numbers
and dates keep their spelling: nothing a project holds is made of them. -/
inductive Value where
  | null
  | boolean (b : Bool)
  | number (spelling : String)
  | date (spelling : String)
  | text (reading : Option String)
  | list (items : List Value)
  | record (fields : List (Option String × Value))
  deriving Repr, Inhabited

/-- The kinds of documents. They differ in how they write that there is nothing to say, and in
whether a list may be longer than the record that it is read as. -/
inductive Kind where
  | json
  | toml
  deriving DecidableEq, Repr

namespace Value

def ofText (s : String) : Value :=
  text (some s)

def ofFields (fields : List (String × Value)) : Value :=
  record (fields.map fun x => (some x.1, x.2))

/-- Whether a value says nothing, as documents of a kind write it. -/
def isNothing : Kind → Value → Bool
  | .json, null => true
  | .toml, record [] => true
  | .toml, list [] => true
  | _, _ => false

def asText? : Value → Option String
  | text reading => reading
  | _ => none

def asBoolean? : Value → Option Bool
  | boolean b => some b
  | _ => none

/-- The items of a list, each read by `read`. -/
def asList? (read : Value → Option α) : Value → Option (List α)
  | list items => items.mapM read
  | _ => none

end Value
end PlcModule.Document
