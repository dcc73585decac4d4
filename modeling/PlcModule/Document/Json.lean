import PlcModule.Document.Value

/-! JSON documents. A text is cut into lexemes, which a machine with a stack of open lists and
records takes one by one, so documents may nest to any depth. -/
namespace PlcModule.Document.Json

inductive Lexeme where
  | openList
  | closeList
  | openRecord
  | closeRecord
  | comma
  | colon
  /-- A value that holds no others. -/
  | atom (value : Value)

def hexValue? (c : Char) : Option Nat :=
  if '0' ≤ c && c ≤ '9' then some (c.toNat - 0x30)
  else if 'a' ≤ c && c ≤ 'f' then some (c.toNat - 0x57)
  else if 'A' ≤ c && c ≤ 'F' then some (c.toNat - 0x37)
  else none

/-- The number that a run of hexadecimal digits spells. -/
def hexNumber? (digits : List Char) : Option Nat :=
  digits.foldlM (fun n c => (hexValue? c).map (n * 16 + ·)) 0

/-- The character of an escape of two characters, by the second. -/
def escaped? : Char → Option Char
  | '"' => some '"'
  | '\\' => some '\\'
  | '/' => some '/'
  | 'b' => some '\x08'
  | 'f' => some '\x0c'
  | 'n' => some '\n'
  | 'r' => some '\r'
  | 't' => some '\t'
  | _ => none

/-- Reads a text up to its closing quote, as code points and halves of surrogate pairs, with
those read so far held backwards; answers what follows the quote too. -/
def readUnits (units : List Nat) : List Char → Option (List Nat × List Char)
  | [] => none
  | '"' :: rest => some (units.reverse, rest)
  | '\\' :: 'u' :: a :: b :: c :: d :: rest =>
    match hexNumber? [a, b, c, d] with
    | some n => readUnits (n :: units) rest
    | none => none
  | '\\' :: e :: rest =>
    match escaped? e with
    | some c => readUnits (c.toNat :: units) rest
    | none => none
  | c :: rest =>
    if c.toNat < 0x20 || c = '\\' then none else readUnits (c.toNat :: units) rest

theorem readUnits_length {units us : List Nat} {cs rest : List Char}
    (h : readUnits units cs = some (us, rest)) : rest.length < cs.length := by
  fun_induction readUnits units cs <;> simp_all <;> omega

def isHighHalf (n : Nat) : Bool :=
  0xD800 ≤ n && n < 0xDC00

def isLowHalf (n : Nat) : Bool :=
  0xDC00 ≤ n && n < 0xE000

/-- Joins the halves of surrogate pairs. There is no reading when a half stands alone. -/
def joinHalves : List Nat → Option (List Char)
  | [] => some []
  | n :: rest =>
    if isLowHalf n then none
    else if isHighHalf n then
      match rest with
      | m :: rest =>
        if isLowHalf m then
          (joinHalves rest).map (Char.ofNat (0x10000 + (n - 0xD800) * 0x400 + (m - 0xDC00)) :: ·)
        else none
      | [] => none
    else (joinHalves rest).map (Char.ofNat n :: ·)

def reading (units : List Nat) : Option String :=
  (joinHalves units).map String.ofList

/-- Whitespace between lexemes. -/
def isSpace (c : Char) : Bool :=
  c == ' ' || c == '\n' || c == '\t' || c == '\r'

def punctuation? : Char → Option Lexeme
  | '[' => some .openList
  | ']' => some .closeList
  | '\x7b' => some .openRecord
  | '\x7d' => some .closeRecord
  | ',' => some .comma
  | ':' => some .colon
  | _ => none

/-- A run of at least one decimal digit, and what follows it. -/
def digits? (cs : List Char) : Option (List Char × List Char) :=
  match cs.takeWhile Char.isDigit with
  | [] => none
  | run => some (run, cs.dropWhile Char.isDigit)

/-- The digits of a number before its point: a zero stands alone. -/
def whole? : List Char → Option (List Char × List Char)
  | '0' :: rest => some (['0'], rest)
  | cs => digits? cs

def fraction? : List Char → Option (List Char × List Char)
  | '.' :: rest => (digits? rest).map fun x => ('.' :: x.1, x.2)
  | cs => some ([], cs)

def exponent? : List Char → Option (List Char × List Char)
  | c :: rest =>
    if c = 'e' || c = 'E' then
      match rest with
      | s :: tail =>
        if s = '+' || s = '-' then (digits? tail).map fun x => (c :: s :: x.1, x.2)
        else (digits? rest).map fun x => (c :: x.1, x.2)
      | [] => none
    else some ([], c :: rest)
  | [] => some ([], [])

def number? (cs : List Char) : Option (List Char × List Char) := do
  let (sign, cs) := match cs with
    | '-' :: rest => (['-'], rest)
    | _ => ([], cs)
  let (whole, cs) ← whole? cs
  let (fraction, cs) ← fraction? cs
  let (exponent, cs) ← exponent? cs
  some (sign ++ whole ++ fraction ++ exponent, cs)

/-- A literal or a number at the front of a text. -/
def word? (cs : List Char) : Option (Value × List Char) :=
  match cs with
  | 'n' :: 'u' :: 'l' :: 'l' :: rest => some (.null, rest)
  | 't' :: 'r' :: 'u' :: 'e' :: rest => some (.boolean true, rest)
  | 'f' :: 'a' :: 'l' :: 's' :: 'e' :: rest => some (.boolean false, rest)
  | _ => (number? cs).map fun x => (.number (String.ofList x.1), x.2)

theorem digits?_length {cs run rest : List Char} (h : digits? cs = some (run, rest)) :
    rest.length < cs.length := by
  unfold digits? at h
  have whole := congrArg List.length (List.takeWhile_append_dropWhile (p := Char.isDigit) (l := cs))
  split at h
  · simp at h
  · rename_i run' ne
    simp only [Option.some.injEq, Prod.mk.injEq] at h
    obtain ⟨_, rfl⟩ := h
    cases e : cs.takeWhile Char.isDigit with
    | nil => exact absurd e (by simpa using ne)
    | cons c run =>
      rw [e] at whole
      simp at whole
      omega

theorem whole?_length {cs run rest : List Char} (h : whole? cs = some (run, rest)) :
    rest.length < cs.length := by
  unfold whole? at h
  split at h
  · simp at h
    simp [h]
  · exact digits?_length h

theorem fraction?_length {cs run rest : List Char} (h : fraction? cs = some (run, rest)) :
    rest.length ≤ cs.length := by
  unfold fraction? at h
  split at h
  · obtain ⟨x, found, same⟩ := Option.map_eq_some_iff.mp h
    have := @digits?_length _ x.1 x.2 found
    simp at same
    simp [← same.2]
    omega
  · simp at h
    simp [h]

theorem exponent?_length {cs run rest : List Char} (h : exponent? cs = some (run, rest)) :
    rest.length ≤ cs.length := by
  unfold exponent? at h
  split at h
  · split at h
    · split at h
      · split at h <;>
        · obtain ⟨x, found, same⟩ := Option.map_eq_some_iff.mp h
          have := @digits?_length _ x.1 x.2 found
          simp at same this
          simp [← same.2]
          omega
      · simp at h
    · simp at h
      simp [← h.2]
  · simp at h
    simp [h]

theorem number?_length {cs run rest : List Char} (h : number? cs = some (run, rest)) :
    rest.length < cs.length := by
  unfold number? at h
  simp only [Option.bind_eq_bind, Option.bind_eq_some_iff] at h
  obtain ⟨⟨_, a⟩, ha, ⟨_, b⟩, hb, ⟨_, c⟩, hc, same⟩ := h
  simp at same
  have h1 := whole?_length ha
  have h2 := fraction?_length hb
  have h3 := exponent?_length hc
  dsimp only at h2 h3
  rw [← same.2]
  split at h1
  · simp at h1 ⊢
    omega
  · simp at h1 ⊢
    omega

theorem word?_length {cs rest : List Char} {v : Value} (h : word? cs = some (v, rest)) :
    rest.length < cs.length := by
  unfold word? at h
  split at h
  case h_4 =>
    obtain ⟨x, found, same⟩ := Option.map_eq_some_iff.mp h
    simp at same
    rw [← same.2]
    exact @number?_length _ x.1 _ found
  all_goals
    simp at h
    simp [← h.2]
    omega

/-- Cuts a text into lexemes, with those cut so far held backwards. -/
def lex (done : List Lexeme) (cs : List Char) : Option (List Lexeme) :=
  match cs with
  | [] => some done.reverse
  | c :: rest =>
    if isSpace c then lex done rest
    else if c = '"' then
      match _h : readUnits [] rest with
      | some (units, tail) => lex (.atom (.text (reading units)) :: done) tail
      | none => none
    else
      match punctuation? c with
      | some lexeme => lex (lexeme :: done) rest
      | none =>
        match _h : word? (c :: rest) with
        | some (value, tail) => lex (.atom value :: done) tail
        | none => none
termination_by cs.length
decreasing_by
  · simp
  · have := readUnits_length _h
    simp
    omega
  · simp
  · exact word?_length _h

/-- A list or record that is still open, with what it holds so far held backwards. -/
inductive Frame where
  | list (done : List Value)
  | record (done : List (Option String × Value))
  /-- A record of which the value of field `name` comes next. -/
  | field (done : List (Option String × Value)) (name : Option String)

/-- What the machine may take next. -/
inductive Need where
  /-- A value, or the end of a list that is still empty. -/
  | value (orClose : Bool)
  /-- The name of a field, or the end of a record that is still empty. -/
  | name (orClose : Bool)
  | colon (name : Option String)
  /-- A comma or the end of the innermost list or record. -/
  | separator
  /-- Nothing, since the document is complete. -/
  | done (value : Value)

structure Machine where
  stack : List Frame
  need : Need

namespace Machine

def start : Machine :=
  ⟨[], .value false⟩

/-- Puts a complete value where it belongs. -/
def complete (v : Value) : List Frame → Machine
  | [] => ⟨[], .done v⟩
  | .list done :: outer => ⟨.list (v :: done) :: outer, .separator⟩
  | .field done name :: outer => ⟨.record ((name, v) :: done) :: outer, .separator⟩
  | .record done :: outer => ⟨.record done :: outer, .separator⟩

def take (m : Machine) (lexeme : Lexeme) : Option Machine :=
  match m.need, lexeme, m.stack with
  | .value _, .atom v, stack => some (complete v stack)
  | .value _, .openList, stack => some ⟨.list [] :: stack, .value true⟩
  | .value _, .openRecord, stack => some ⟨.record [] :: stack, .name true⟩
  | .value true, .closeList, .list done :: outer => some (complete (.list done.reverse) outer)
  | .name _, .atom (.text name), stack => some ⟨stack, .colon name⟩
  | .name true, .closeRecord, .record done :: outer =>
    some (complete (.record done.reverse) outer)
  | .colon name, .colon, .record done :: outer => some ⟨.field done name :: outer, .value false⟩
  | .separator, .comma, .list done :: outer => some ⟨.list done :: outer, .value false⟩
  | .separator, .comma, .record done :: outer => some ⟨.record done :: outer, .name false⟩
  | .separator, .closeList, .list done :: outer => some (complete (.list done.reverse) outer)
  | .separator, .closeRecord, .record done :: outer =>
    some (complete (.record done.reverse) outer)
  | _, _, _ => none

end Machine

/-- The value of a document, if the text is one. -/
def parse (s : String) : Option Value := do
  let lexemes ← lex [] s.toList
  match (← lexemes.foldlM Machine.take .start).need with
  | .done v => some v
  | _ => none

end PlcModule.Document.Json
