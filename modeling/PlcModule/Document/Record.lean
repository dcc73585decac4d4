import PlcModule.Document.Value

/-! Records read from values. A value is a record by the names of its fields, or a list of the
fields in their order. Fields of other names are passed over; a field given twice spoils the
record. -/
namespace PlcModule.Document

/-- What a value has for each field of a record. -/
structure Slots where
  /-- The value was a list. -/
  positional : Bool
  values : List (Option Value)

/-- The value of a field that is given at most once. -/
def fieldOf (fields : List (Option String × Value)) (name : String) : Option (Option Value) :=
  match fields.filter fun x => x.1 == some name with
  | [] => some none
  | [x] => some (some x.2)
  | _ => none

/-- Reads a value as a record with the given fields. A date is a record without any of them.
Further items of a list are passed over in TOML and spoil the record in JSON. -/
def Value.slots? (kind : Kind) (names : List String) : Value → Option Slots
  | record fields =>
    if fields.any fun x => x.1.isNone then none
    else (names.mapM (fieldOf fields)).map (⟨false, ·⟩)
  | list items =>
    if kind = .json && names.length < items.length then none
    else
      let given := items.take names.length
      some ⟨true, given.map some ++ List.replicate (names.length - given.length) none⟩
  | date _ => some ⟨false, names.map fun _ => none⟩
  | _ => none

/-- The value of a field that has to be there. -/
def required (read : Value → Option α) (slot : Option Value) : Option α :=
  slot.bind read

/-- The value of a field that may be left out. -/
def optional (fallback : α) (read : Value → Option α) : Option Value → Option α
  | none => some fallback
  | some v => read v

end PlcModule.Document
