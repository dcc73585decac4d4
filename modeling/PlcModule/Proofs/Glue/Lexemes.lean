import PlcModule.Proofs.Glue.Lifecycle

/-! C text read without regard to how it was made: as words and marks, and these as prototypes and
calls of functions. A mark ends a word, so a text that is broken at a mark is read part by part. -/
namespace PlcModule

/-- A piece of C text: a run of name characters that is as long as it can be, or a single other
character. -/
inductive Lexeme where
  | word (text : String)
  | mark (c : Char)
  deriving DecidableEq, Repr

namespace Lexeme

def ofWord (cs : List Char) : List Lexeme :=
  if cs = [] then [] else [.word (String.ofList cs)]

/-- White space only separates. -/
def ofMark (c : Char) : List Lexeme :=
  if c.isWhitespace then [] else [.mark c]

/-- Reads a text after the first characters of a word. -/
def scan (begun : List Char) : List Char → List Lexeme
  | [] => ofWord begun
  | c :: rest =>
    if Statement.isNameChar c then scan (begun ++ [c]) rest
    else ofWord begun ++ ofMark c ++ scan [] rest

end Lexeme

def lexemes (text : String) : List Lexeme :=
  Lexeme.scan [] text.toList

namespace Lexeme

theorem scan_name {name : List Char} (all : ∀ c ∈ name, Statement.isNameChar c = true)
    (begun rest : List Char) : scan begun (name ++ rest) = scan (begun ++ name) rest := by
  induction name generalizing begun with
  | nil => simp
  | cons c name ih =>
    obtain ⟨first, later⟩ := List.forall_mem_cons.mp all
    rw [List.cons_append, scan, if_pos first, ih later, List.append_assoc]
    rfl

theorem scan_word {name : String} (filled : name ≠ "")
    (all : ∀ c ∈ name.toList, Statement.isNameChar c = true) :
    scan [] name.toList = [.word name] := by
  have whole := scan_name all [] []
  rw [List.append_nil, List.nil_append] at whole
  simp [whole, scan, ofWord, filled]

theorem scan_number (n : Nat) : scan [] (toString n).toList = [.word (toString n)] := by
  have digits : (toString n).toList = Nat.toDigits 10 n := by simp [Nat.toString_eq_repr, Nat.repr]
  refine scan_word (fun none => ?_) fun c at_ => ?_
  · have := Nat.toDigits_ne_nil (n := n) (b := 10)
    rw [← digits, none] at this
    exact this rfl
  · rw [digits] at at_
    have digit := Nat.isDigit_of_mem_toDigits (b := 10) (by decide) (by decide) at_
    simp [Statement.isNameChar, Char.isAlphanum, digit]

/-- What stands before a mark and what stands after are read apart. -/
theorem scan_mark {c : Char} (mark : Statement.isNameChar c = false) (begun front back : List Char) :
    scan begun (front ++ c :: back) = scan begun front ++ ofMark c ++ scan [] back := by
  induction front generalizing begun with
  | nil => simp [scan, mark]
  | cons d front ih =>
    rw [List.cons_append, scan, scan]
    split
    · rw [ih]
    · simp only [ih, List.append_assoc]

theorem scan_blanks {blanks : List Char} (all : ∀ c ∈ blanks, c = ' ') (rest : List Char) :
    scan [] (blanks ++ rest) = scan [] rest := by
  induction blanks with
  | nil => rfl
  | cons c blanks ih =>
    obtain ⟨rfl, later⟩ := List.forall_mem_cons.mp all
    rw [List.cons_append, scan, if_neg (by decide), ih later]
    rfl

/-- Texts joined by a line end and blanks are read one after the other. -/
theorem lexemes_intercalate {separator : String} {blanks : List Char}
    (form : separator.toList = '\n' :: blanks) (all : ∀ c ∈ blanks, c = ' ') (lines : List String) :
    lexemes (separator.intercalate lines) = lines.flatMap lexemes := by
  induction lines with
  | nil => rfl
  | cons line more ih =>
    cases more with
    | nil => simp [lexemes]
    | cons next more =>
      have text : (separator.intercalate (line :: next :: more)).toList =
          line.toList ++ '\n' :: (blanks ++ (separator.intercalate (next :: more)).toList) := by
        rw [String.intercalate_cons_cons, String.toList_append, String.toList_append, form]
        simp
      rw [List.flatMap_cons, ← ih, lexemes, text, scan_mark (by decide), scan_blanks all]
      simp [ofMark, lexemes]

end Lexeme

/-- A function as it is declared, with what stands between its parentheses. -/
structure Prototype where
  result : String
  name : String
  parameters : List Lexeme
  deriving DecidableEq, Repr

/-- A function as it is called, with what stands between its parentheses. -/
structure FunctionCall where
  name : String
  arguments : List Lexeme
  /-- The result is kept. -/
  assigned : Bool
  deriving DecidableEq, Repr

/-- The prototypes in a text: two words and an opening parenthesis. -/
def prototypesIn : List Lexeme → List Prototype
  | .word result :: .word name :: .mark '(' :: rest =>
    ⟨result, name, rest.takeWhile (· ≠ .mark ')')⟩ :: prototypesIn rest
  | _ :: rest => prototypesIn rest
  | [] => []

/-- Words that a parenthesis follows although they name no function. -/
def controlWords : List String :=
  ["if", "for", "while", "switch"]

/-- The calls in a text: a word and an opening parenthesis. -/
def callsIn (assigned : Bool) : List Lexeme → List FunctionCall
  | .word name :: .mark '(' :: rest =>
    if name ∈ controlWords then callsIn false rest
    else ⟨name, rest.takeWhile (· ≠ .mark ')'), assigned⟩ :: callsIn false rest
  | x :: rest => callsIn (x = .mark '=') rest
  | [] => []

def prototypesOf (text : String) : List Prototype :=
  prototypesIn (lexemes text)

def callsOf (text : String) : List FunctionCall :=
  callsIn false (lexemes text)

/-- What the items of a list are called: each by its last word. -/
def itemNames (items : List Lexeme) : List Lexeme :=
  (items.splitOn (.mark ',')).filterMap List.getLast?

/-- The parameters by name. `void` stands for none. -/
def Prototype.parameterNames (p : Prototype) : List Lexeme :=
  if p.parameters = [.word "void"] then [] else itemNames p.parameters

/-- A call passes what the prototype asks for, and keeps a result if there is one. -/
structure Prototype.Fits (p : Prototype) (c : FunctionCall) : Prop where
  arguments : itemNames c.arguments = p.parameterNames
  result : c.assigned = true ↔ p.result ≠ "void"

end PlcModule
