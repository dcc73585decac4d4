import PlcModule.Text.Blank

/-! Flags as a project file writes them. Blanks separate words; quotes and backslashes keep
characters together as in a shell, and nothing is expanded. -/
namespace PlcModule.Tool

/-- Where in a word the reader stands. -/
inductive Quoting where
  | bare
  /-- After a backslash that stands in no quotes. -/
  | escaped
  | single
  | double
  /-- After a backslash in double quotes. -/
  | doubleEscaped
  deriving DecidableEq, Repr

/-- Puts a character at the end of a word that is held backwards, starting one if need be. -/
def extend (word : Option (List Char)) (c : Char) : Option (List Char) :=
  some (c :: word.getD [])

/-- The words in the rest of the text, with the word begun so far held backwards. Quotes that
never close go to the end of the text, and a last backslash stands for nothing, or for itself
in double quotes. -/
def splitFrom (quoting : Quoting) (word : Option (List Char)) : List Char → List (List Char)
  | [] =>
    let word := if quoting = .doubleEscaped then extend word '\\' else word
    (word.map List.reverse).toList
  | c :: rest =>
    match quoting with
    | .bare =>
      if c = '\'' then splitFrom .single (some (word.getD [])) rest
      else if c = '"' then splitFrom .double (some (word.getD [])) rest
      else if c = '\\' then splitFrom .escaped (some (word.getD [])) rest
      else if Text.isBlank c then
        match word with
        | some w => w.reverse :: splitFrom .bare none rest
        | none => splitFrom .bare none rest
      else splitFrom .bare (extend word c) rest
    | .escaped => splitFrom .bare (extend word c) rest
    | .single =>
      if c = '\'' then splitFrom .bare word rest else splitFrom .single (extend word c) rest
    | .double =>
      if c = '"' then splitFrom .bare word rest
      else if c = '\\' then splitFrom .doubleEscaped word rest
      else splitFrom .double (extend word c) rest
    | .doubleEscaped =>
      if c = '"' || c = '\\' then splitFrom .double (extend word c) rest
      else splitFrom .double (extend (extend word '\\') c) rest

/-- A blank is no quote and no backslash. -/
theorem splitFrom_blank {c : Char} (blank : Text.isBlank c = true) (word : Option (List Char))
    (rest : List Char) :
    splitFrom .bare word (c :: rest) = (word.map List.reverse).toList ++ splitFrom .bare none rest := by
  have other : c ≠ '\'' ∧ c ≠ '"' ∧ c ≠ '\\' := by
    refine ⟨?_, ?_, ?_⟩ <;> rintro rfl <;> revert blank <;> decide
  cases word <;> simp [splitFrom, other, blank]

/-- The words of a flag text, empty ones that are quoted included. -/
def splitFlags (flags : String) : List String :=
  (splitFrom .bare none flags.toList).map String.ofList

end PlcModule.Tool
