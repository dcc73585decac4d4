import Mathlib.Data.List.Find
import PlcModule.Template

/-! How rendering takes a template apart. A text is literal but for placeholders and doubled percent
signs, each taken where it first can be; there is one way to cut a text so. Rendering keeps the
literal parts and puts a value or a percent sign for what is between them. -/
namespace PlcModule.Template

/-- What rendering replaces: a placeholder, or two percent signs. -/
inductive Mark where
  | placeholder (key : List Char) (word : key ≠ [] ∧ ∀ c ∈ key, Text.isWord c = true)
  | percent

namespace Mark

def text : Mark → List Char
  | placeholder key _ => '%' :: '(' :: (key ++ [')', 's'])
  | percent => ['%', '%']

def key? : Mark → Option String
  | placeholder key _ => some (String.ofList key)
  | percent => none

/-- What stands for a mark in the rendered text. -/
def filled (value : String → String) : Mark → List Char
  | placeholder key _ => (value (String.ofList key)).toList
  | percent => ['%']

def token : Mark → Token
  | placeholder key _ => .placeholder key
  | percent => .percent

end Mark

/-- A text cut into a literal part and marks, each with the literal part after it. -/
structure Decomposition where
  opening : List Char
  parts : List (Mark × List Char)

namespace Decomposition

def textOf (parts : List (Mark × List Char)) : List Char :=
  parts.flatMap fun x => x.1.text ++ x.2

def text (d : Decomposition) : List Char :=
  d.opening ++ textOf d.parts

/-- The keys of the placeholders, in the order of the text. -/
def keys (d : Decomposition) : List String :=
  d.parts.filterMap fun x => x.1.key?

/-- The text with a value for each placeholder and one percent sign for two. -/
def filled (d : Decomposition) (value : String → String) : String :=
  String.ofList (d.opening ++ d.parts.flatMap fun x => x.1.filled value ++ x.2)

/-- Some mark stands at the front of a text. -/
def BeginsMarked (cs : List Char) : Prop :=
  ∃ m : Mark, m.text <+: cs

/-- At no position of a literal part does a mark begin, be it one that reaches beyond the part. -/
def Unmarked (literal after : List Char) : Prop :=
  ∀ front c back, literal = front ++ c :: back → ¬ BeginsMarked (c :: back ++ after)

/-- Every mark is taken where it first can be: none begins within a literal part. -/
structure Leftmost (d : Decomposition) : Prop where
  opening : Unmarked d.opening (textOf d.parts)
  later : ∀ m literal rest, (m, literal) :: rest <:+ d.parts → Unmarked literal (textOf rest)

end Decomposition
end PlcModule.Template

namespace PlcModule.Token

open Template

variable {cs key tail : List Char}

theorem key?_placeholder (word : key ≠ [] ∧ ∀ c ∈ key, Text.isWord c = true) (tail : List Char) :
    key? ('(' :: (key ++ ')' :: 's' :: tail)) = some (key, tail) := by
  have taken : (key ++ ')' :: 's' :: tail).takeWhile Text.isWord = key := by
    rw [List.takeWhile_append_of_pos word.2]
    simp [Text.not_isWord_delimiters]
  have dropped : (key ++ ')' :: 's' :: tail).dropWhile Text.isWord = ')' :: 's' :: tail := by
    rw [List.dropWhile_append_of_pos word.2]
    simp [Text.not_isWord_delimiters]
  obtain ⟨c, rest, rfl⟩ := List.exists_cons_of_ne_nil word.1
  simp only [key?, taken, dropped]

/-- What is read as a key is one. -/
theorem key?_word (h : key? cs = some (key, tail)) :
    key ≠ [] ∧ ∀ c ∈ key, Text.isWord c = true := by
  unfold key? at h
  split at h
  · rename_i rest
    split at h
    · rename_i c cs' tail' taken dropped
      obtain ⟨rfl, rfl⟩ : c :: cs' = key ∧ tail' = tail := by simpa using h
      exact ⟨List.cons_ne_nil _ _, List.all_eq_true.mp (taken ▸ List.all_takeWhile)⟩
    · cases h
  · cases h

theorem scan_mark (m : Mark) (tail : List Char) : scan (m.text ++ tail) = m.token :: scan tail := by
  cases m with
  | placeholder key word =>
    have read := key?_placeholder word tail
    simp only [Mark.text, Mark.token, List.cons_append, List.append_assoc, List.nil_append]
    rw [scan, if_pos rfl]
    split
    · rename_i found
      rw [read] at found
      cases found
      rfl
    · rename_i none
      rw [read] at none
      cases none
  | percent =>
    have none : key? ('%' :: tail) = none := by simp [key?]
    simp only [Mark.text, Mark.token, List.cons_append, List.nil_append]
    rw [scan, if_pos rfl]
    split
    · rename_i found
      rw [none] at found
      cases found
    · rfl

/-- Where no mark begins a character is read as it is. -/
theorem scan_unmarked {c : Char} (unmarked : ¬ Decomposition.BeginsMarked (c :: tail)) :
    scan (c :: tail) = .plain c :: scan tail := by
  by_cases sign : c = '%'
  · subst sign
    rw [scan, if_pos rfl]
    split
    · rename_i key rest found
      refine absurd ⟨.placeholder key (key?_word found), rest, ?_⟩ unmarked
      simp [Mark.text, key?_eq_some found]
    · rw [if_neg]
      intro doubled
      obtain ⟨rest, rfl⟩ := List.head?_eq_some_iff.mp doubled
      exact unmarked ⟨.percent, rest, rfl⟩
  · rw [scan, if_neg sign]

end PlcModule.Token

namespace PlcModule.Template

namespace Mark

variable {m m' : Mark} {tail tail' : List Char}

/-- Two marks at one place are one. -/
theorem text_append_inj (same : m.text ++ tail = m'.text ++ tail') : m = m' ∧ tail = tail' := by
  have read : Token.key? ((m.text ++ tail).drop 1) = Token.key? ((m'.text ++ tail').drop 1) := by
    rw [same]
  cases m with
  | placeholder key word =>
    cases m' with
    | placeholder key' word' =>
      simp only [text, List.cons_append, List.append_assoc, List.nil_append, List.drop_succ_cons,
        List.drop_zero, Token.key?_placeholder word, Token.key?_placeholder word'] at read
      cases read
      exact ⟨rfl, rfl⟩
    | percent => simp [text] at same
  | percent =>
    cases m' with
    | placeholder key' word' => simp [text] at same
    | percent => exact ⟨rfl, by simpa [text] using same⟩

theorem beginsMarked (m : Mark) (tail : List Char) :
    Decomposition.BeginsMarked (m.text ++ tail) :=
  ⟨m, tail, rfl⟩

theorem text_ne_nil (m : Mark) : m.text ≠ [] := by
  cases m <;> simp [text]

end Mark

namespace Decomposition

variable {d d' : Decomposition} {literal literal' after after' cs : List Char}

/-- What comes after a literal part: nothing, or a mark. -/
theorem textOf_cases (parts : List (Mark × List Char)) :
    textOf parts = [] ∨ BeginsMarked (textOf parts) := by
  cases parts with
  | nil => exact .inl rfl
  | cons x rest =>
    right
    simp only [textOf, List.flatMap_cons, List.append_assoc]
    exact x.1.beginsMarked _

theorem Unmarked.nil : Unmarked [] after := by
  simp [Unmarked]

theorem Unmarked.cons {c : Char} (first : ¬ BeginsMarked (c :: (literal ++ after)))
    (later : Unmarked literal after) : Unmarked (c :: literal) after := by
  intro front c' back eq
  cases front with
  | nil =>
    cases eq
    exact first
  | cons _ front =>
    cases eq
    exact later front c' back rfl

/-- Of two ways to cut a text, the first literal part of one is no longer than that of the other. -/
theorem Unmarked.prefix_of (unmarked : Unmarked literal' after')
    (ends : after = [] ∨ BeginsMarked after) (same : literal ++ after = literal' ++ after') :
    literal' <+: literal := by
  rcases List.append_eq_append_iff.mp same with ⟨more, eq, rest⟩ | ⟨more, eq, -⟩
  · cases more with
    | nil => simp [eq]
    | cons c more =>
      exfalso
      rcases ends with none | marked
      · simp [none] at rest
      · exact unmarked literal c more eq (rest ▸ marked)
  · exact ⟨more, eq.symm⟩

theorem Unmarked.eq {parts parts' : List (Mark × List Char)}
    (unmarked : Unmarked literal (textOf parts)) (unmarked' : Unmarked literal' (textOf parts'))
    (same : literal ++ textOf parts = literal' ++ textOf parts') :
    literal = literal' ∧ textOf parts = textOf parts' := by
  have shorter := unmarked'.prefix_of (textOf_cases parts) same
  have longer := unmarked.prefix_of (textOf_cases parts') same.symm
  obtain rfl := longer.eq_of_length_le shorter.length_le
  exact ⟨rfl, List.append_cancel_left same⟩

theorem Leftmost.next {opening : List Char} {m : Mark} {rest : List (Mark × List Char)}
    (left : Leftmost ⟨opening, (m, literal) :: rest⟩) : Leftmost ⟨literal, rest⟩ where
  opening := left.later m literal rest List.suffix_rfl
  later m' literal' rest' at_ := left.later m' literal' rest' (at_.trans (List.suffix_cons _ _))

theorem Leftmost.cons {opening : List Char} {m : Mark} {rest : List (Mark × List Char)}
    (unmarked : Unmarked opening (textOf ((m, literal) :: rest))) (left : Leftmost ⟨literal, rest⟩) :
    Leftmost ⟨opening, (m, literal) :: rest⟩ where
  opening := unmarked
  later m' literal' rest' at_ := by
    rcases List.suffix_cons_iff.mp at_ with here | later
    · cases here
      exact left.opening
    · exact left.later m' literal' rest' later

/-- A literal part ends where the first mark begins, so the parts are told by the text. -/
theorem Leftmost.eq (left : d.Leftmost) (left' : d'.Leftmost) (same : d.text = d'.text) : d = d' := by
  obtain ⟨opening, parts⟩ := d
  induction parts generalizing opening d' with
  | nil =>
    obtain ⟨opening', parts'⟩ := d'
    obtain ⟨rfl, rest⟩ := left.opening.eq left'.opening same
    cases parts' with
    | nil => rfl
    | cons y rest' => simp [textOf, y.1.text_ne_nil] at rest
  | cons x parts ih =>
    obtain ⟨opening', parts'⟩ := d'
    obtain ⟨rfl, rest⟩ := left.opening.eq left'.opening same
    cases parts' with
    | nil => simp [textOf, x.1.text_ne_nil] at rest
    | cons y parts' =>
      obtain ⟨m, literal⟩ := x
      obtain ⟨m', literal'⟩ := y
      simp only [textOf, List.flatMap_cons, List.append_assoc] at rest
      obtain ⟨rfl, after⟩ := Mark.text_append_inj rest
      cases ih left'.next _ left.next after
      rfl

/-- Every text can be cut so. -/
theorem exists_leftmost (cs : List Char) : ∃ d : Decomposition, d.text = cs ∧ d.Leftmost := by
  by_cases marked : BeginsMarked cs
  · obtain ⟨m, tail, rfl⟩ := marked
    have shorter : tail.length < (m.text ++ tail).length := by
      have := List.length_pos_iff.mpr m.text_ne_nil
      rw [List.length_append]
      omega
    obtain ⟨d, rfl, left⟩ := exists_leftmost tail
    refine ⟨⟨[], (m, d.opening) :: d.parts⟩, ?_, .cons .nil left⟩
    simp [text, textOf]
  · cases cs with
    | nil => exact ⟨⟨[], []⟩, rfl, .nil, by simp⟩
    | cons c tail =>
      obtain ⟨d, rfl, left⟩ := exists_leftmost tail
      exact ⟨⟨c :: d.opening, d.parts⟩, rfl, .cons marked left.opening, left.later⟩
termination_by cs.length

/-- The tokens of the parts, literal ones character by character. -/
def tokens (d : Decomposition) : List Token :=
  d.opening.map .plain ++ d.parts.flatMap fun x => x.1.token :: x.2.map .plain

theorem scan_literal (unmarked : Unmarked literal after) :
    Token.scan (literal ++ after) = literal.map .plain ++ Token.scan after := by
  induction literal with
  | nil => rfl
  | cons c literal ih =>
    have later : Unmarked literal after := by
      rintro front c' back rfl
      exact unmarked (c :: front) c' back rfl
    have first : ¬ BeginsMarked (c :: (literal ++ after)) := unmarked [] c literal rfl
    rw [List.cons_append, Token.scan_unmarked first, ih later]
    rfl

theorem Leftmost.scan_text (left : d.Leftmost) : Token.scan d.text = d.tokens := by
  obtain ⟨opening, parts⟩ := d
  induction parts generalizing opening with
  | nil =>
    have literal := scan_literal left.opening
    simpa [text, tokens, textOf, Token.scan] using literal
  | cons x rest ih =>
    have after := ih x.2 left.next
    simp only [text, tokens, textOf, List.flatMap_cons] at after ⊢
    have literal := scan_literal left.opening
    simp only [textOf, List.flatMap_cons, List.append_assoc] at literal ⊢
    rw [literal, Token.scan_mark, after]
    rfl

theorem keys_eq (d : Decomposition) :
    (d.tokens.filterMap Token.placeholder?).map String.ofList = d.keys := by
  obtain ⟨opening, parts⟩ := d
  have literal (cs : List Char) : (cs.map Token.plain).filterMap Token.placeholder? = [] := by
    simp [List.filterMap_map, Function.comp_def, Token.placeholder?]
  simp only [tokens, keys, List.filterMap_append, literal, List.nil_append]
  induction parts with
  | nil => rfl
  | cons x rest ih =>
    obtain ⟨m, after⟩ := x
    rw [List.flatMap_cons, List.filterMap_append, List.map_append, ih]
    cases m <;> simp [Mark.token, Mark.key?, Token.placeholder?, literal]

theorem filled_eq (d : Decomposition) (value : String → String) :
    String.ofList (d.tokens.flatMap (Token.render fun key => (value (String.ofList key)).toList)) =
      d.filled value := by
  obtain ⟨opening, parts⟩ := d
  have literal (cs : List Char) : (cs.map Token.plain).flatMap
      (Token.render fun key => (value (String.ofList key)).toList) = cs := by
    simp [List.flatMap_map, Token.render]
  have part (x : Mark × List Char) : (x.1.token :: x.2.map Token.plain).flatMap
      (Token.render fun key => (value (String.ofList key)).toList) =
        x.1.filled value ++ x.2 := by
    rw [List.flatMap_cons, literal]
    cases x.1 <;> rfl
  simp only [tokens, filled, List.flatMap_append, literal, List.flatMap_assoc, part]

theorem filled_congr {value value' : String → String} (d : Decomposition)
    (agree : ∀ key ∈ d.keys, value key = value' key) : d.filled value = d.filled value' := by
  obtain ⟨opening, parts⟩ := d
  simp only [filled]
  congr 2
  induction parts with
  | nil => rfl
  | cons x rest ih =>
    obtain ⟨m, literal⟩ := x
    rw [List.flatMap_cons, List.flatMap_cons]
    cases m with
    | percent => rw [ih agree]; rfl
    | placeholder key word =>
      obtain ⟨here, later⟩ := List.forall_mem_cons.mp agree
      rw [ih later, Mark.filled, here]
      rfl

/-- Rendering sees the placeholders of the leftmost decomposition, when it looks for values that are
missing and when it puts them in. -/
theorem Leftmost.render {t : Template} (left : d.Leftmost) (text : d.text = t.content.toList)
    (values : Values) :
    t.render values = match d.keys.find? fun key => (values.lookup key).isNone with
      | some key => .error (.unknownPlaceholder t.path key)
      | none => .ok (d.filled fun key => (values.lookup key).getD "") := by
  have tokens : t.tokens = d.tokens := by rw [Template.tokens, ← text, left.scan_text]
  have keys : t.keys = d.keys := by rw [Template.keys, tokens, d.keys_eq]
  have filled := d.filled_eq fun key => (values.lookup key).getD ""
  rw [Template.render, keys, tokens]
  cases d.keys.find? fun key => (values.lookup key).isNone with
  | some key => rfl
  | none => exact congrArg Except.ok filled

end Decomposition

theorem find?_missing {values : Values} {keys : List String} {key : String} :
    keys.find? (fun key => (values.lookup key).isNone) = some key ↔
      ∃ front back, keys = front ++ key :: back ∧ (∀ k ∈ front, (values.lookup k).isSome) ∧
        values.lookup key = none := by
  rw [List.find?_eq_some_iff_append]
  constructor
  · rintro ⟨unknown, front, back, eq, known⟩
    exact ⟨front, back, eq, by simpa using known, by simpa using unknown⟩
  · rintro ⟨front, back, eq, known, unknown⟩
    exact ⟨by simp [unknown], front, back, eq, by simpa using known⟩

/-- A template has one leftmost decomposition. Rendering fails exactly if a placeholder has no
value, by the first such in the text; otherwise it keeps the literal parts and puts for each mark
what stands for it, as it is. So it looks up no other key, and values of other keys make no
difference. -/
theorem render_decomposed (t : Template) : ∃ d : Decomposition,
    (d.text = t.content.toList ∧ d.Leftmost ∧
      ∀ d' : Decomposition, d'.text = t.content.toList → d'.Leftmost → d' = d) ∧
    (∀ (values : Values) e, t.render values = .error e ↔
      ∃ front key back, d.keys = front ++ key :: back ∧ (∀ k ∈ front, (values.lookup k).isSome) ∧
        values.lookup key = none ∧ e = .unknownPlaceholder t.path key) ∧
    (∀ (values : Values) (value : String → String),
      (∀ key ∈ d.keys, values.lookup key = some (value key)) →
        t.render values = .ok (d.filled value)) ∧
    (∀ values values' : Values, (∀ key ∈ d.keys, values.lookup key = values'.lookup key) →
      t.render values = t.render values') := by
  obtain ⟨d, text, left⟩ := Decomposition.exists_leftmost t.content.toList
  refine ⟨d, ⟨text, left, fun d' text' left' => left'.eq left (text'.trans text.symm)⟩, ?_, ?_, ?_⟩
  · intro values e
    rw [left.render text]
    constructor
    · intro failed
      split at failed
      · rename_i key missing
        obtain ⟨front, back, eq, known, unknown⟩ := find?_missing.mp missing
        exact ⟨front, key, back, eq, known, unknown, (Except.error.inj failed).symm⟩
      · cases failed
    · rintro ⟨front, key, back, eq, known, unknown, rfl⟩
      rw [find?_missing.mpr ⟨front, back, eq, known, unknown⟩]
  · intro values value present
    have none : (d.keys.find? fun key => (values.lookup key).isNone) = none :=
      List.find?_eq_none.mpr fun key at_ => by simp [present key at_]
    rw [left.render text, none]
    exact congrArg Except.ok (d.filled_congr fun key at_ => by simp [present key at_])
  · intro values values' agree
    have missing : d.keys.find? (fun key => (values.lookup key).isNone) =
        d.keys.find? fun key => (values'.lookup key).isNone :=
      List.find?_congr fun key at_ => by rw [agree key at_]
    have filled : d.filled (fun key => (values.lookup key).getD "") =
        d.filled fun key => (values'.lookup key).getD "" :=
      d.filled_congr fun key at_ => by simp only [agree key at_]
    rw [left.render text, left.render text, missing, filled]

end PlcModule.Template
