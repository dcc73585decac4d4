import PlcModule.Tool.Flags

/-! Spellings of flags. A word is spelled in segments: bare, behind a backslash or in quotes of
either kind, in any mixture. The reader takes each spelling for the word that it stands for, so
words that are written in quotes are read back whatever they hold. -/
namespace PlcModule.Tool

/-- A part of what stands in double quotes. -/
inductive QuotedPart where
  | plain (c : Char) (other : c ≠ '"' ∧ c ≠ '\\')
  /-- Behind a backslash that is not kept. -/
  | escaped (c : Char) (marked : c = '"' ∨ c = '\\')
  /-- Behind a backslash that is kept. -/
  | kept (c : Char) (other : c ≠ '"' ∧ c ≠ '\\')

namespace QuotedPart

def text : QuotedPart → List Char
  | plain c _ => [c]
  | escaped c _ => ['\\', c]
  | kept c _ => ['\\', c]

def value : QuotedPart → List Char
  | plain c _ => [c]
  | escaped c _ => [c]
  | kept c _ => ['\\', c]

end QuotedPart

/-- A part of a word, by how it is written. -/
inductive Segment where
  | bare (c : Char) (plain : Text.isBlank c = false ∧ c ≠ '\'' ∧ c ≠ '"' ∧ c ≠ '\\')
  | escaped (c : Char)
  | single (content : List Char) (closed : '\'' ∉ content)
  | double (parts : List QuotedPart)

namespace Segment

def text : Segment → List Char
  | bare c _ => [c]
  | escaped c => ['\\', c]
  | single content _ => '\'' :: content ++ ['\'']
  | double parts => '"' :: parts.flatMap QuotedPart.text ++ ['"']

/-- What a segment stands for. -/
def value : Segment → List Char
  | bare c _ => [c]
  | escaped c => [c]
  | single content _ => content
  | double parts => parts.flatMap QuotedPart.value

end Segment

/-- A way to write a word. An empty word needs quotes, so there is a segment in any case. -/
structure Spelling where
  segments : List Segment
  filled : segments ≠ []

namespace Spelling

def text (s : Spelling) : List Char :=
  s.segments.flatMap Segment.text

def value (s : Spelling) : List Char :=
  s.segments.flatMap Segment.value

end Spelling

/-- A run of blanks, which may be empty. -/
abbrev Blanks := { cs : List Char // ∀ c ∈ cs, Text.isBlank c = true }

/-- Words as a project file may hold them: each has blanks before it, which may be missing before
the first one only, and there may be blanks at the end. -/
structure FlagText where
  words : List (Blanks × Spelling)
  trail : Blanks
  apart : ∀ x ∈ words.tail, x.1.val ≠ []

namespace FlagText

def text (f : FlagText) : String :=
  String.ofList (f.words.flatMap (fun x => x.1.val ++ x.2.text) ++ f.trail.val)

def values (f : FlagText) : List String :=
  f.words.map fun x => String.ofList x.2.value

end FlagText

/-- The quotes that a whole word may be put in. -/
inductive Quotes where
  | single
  | double
  deriving DecidableEq, Repr

namespace Quotes

/-- What a character becomes in the quotes. Single quotes are left for one of their own kind. -/
def char : Quotes → Char → List Char
  | single, c => if c = '\'' then ['\'', '\\', '\'', '\''] else [c]
  | double, c => if c = '"' ∨ c = '\\' then ['\\', c] else [c]

def mark : Quotes → Char
  | single => '\''
  | double => '"'

def quote (q : Quotes) (word : String) : String :=
  String.ofList (q.mark :: word.toList.flatMap q.char ++ [q.mark])

end Quotes

section Reading

/-- The reader takes a text for a part of a word, wherever in a word it stands. -/
def ReadsAs (text value : List Char) : Prop :=
  ∀ word rest, splitFrom .bare word (text ++ rest) =
    splitFrom .bare (some (value.reverse ++ word.getD [])) rest

variable {text text' value value' : List Char}

theorem ReadsAs.append (first : ReadsAs text value) (second : ReadsAs text' value') :
    ReadsAs (text ++ text') (value ++ value') := by
  intro word rest
  rw [List.append_assoc, first, second, List.reverse_append, List.append_assoc]
  rfl

theorem splitFrom_single (word : List Char) {content : List Char} (closed : '\'' ∉ content)
    (rest : List Char) :
    splitFrom .single (some word) (content ++ rest) =
      splitFrom .single (some (content.reverse ++ word)) rest := by
  induction content generalizing word with
  | nil => rfl
  | cons c content ih =>
    obtain ⟨other, closed⟩ : '\'' ≠ c ∧ '\'' ∉ content := by simpa using closed
    have step : splitFrom .single (some word) (c :: (content ++ rest)) =
        splitFrom .single (some (c :: word)) (content ++ rest) := by
      simp [splitFrom, extend, other.symm]
    rw [List.cons_append, step, ih _ closed, List.reverse_cons, List.append_assoc]
    rfl

theorem splitFrom_double (word : List Char) (parts : List QuotedPart) (rest : List Char) :
    splitFrom .double (some word) (parts.flatMap QuotedPart.text ++ rest) =
      splitFrom .double (some ((parts.flatMap QuotedPart.value).reverse ++ word)) rest := by
  induction parts generalizing word with
  | nil => rfl
  | cons part parts ih =>
    have step : splitFrom .double (some word) (part.text ++ (parts.flatMap QuotedPart.text ++ rest)) =
        splitFrom .double (some (part.value.reverse ++ word))
          (parts.flatMap QuotedPart.text ++ rest) := by
      cases part with
      | plain c other => simp [QuotedPart.text, QuotedPart.value, splitFrom, extend, other]
      | escaped c marked => simp [QuotedPart.text, QuotedPart.value, splitFrom, extend, marked]
      | kept c other => simp [QuotedPart.text, QuotedPart.value, splitFrom, extend, other]
    rw [List.flatMap_cons, List.append_assoc, step, ih, List.flatMap_cons, List.reverse_append,
      List.append_assoc]

theorem Segment.readsAs (s : Segment) : ReadsAs s.text s.value := by
  intro word rest
  cases s with
  | bare c plain => simp [text, value, splitFrom, extend, plain]
  | escaped c => simp [text, value, splitFrom, extend]
  | single content closed =>
    have opened : splitFrom .bare word ('\'' :: (content ++ '\'' :: rest)) =
        splitFrom .single (some (word.getD [])) (content ++ '\'' :: rest) := by
      simp [splitFrom]
    simp only [text, List.cons_append, List.append_assoc, List.nil_append]
    rw [opened, splitFrom_single _ closed]
    simp [splitFrom, value]
  | double parts =>
    have opened : splitFrom .bare word ('"' :: (parts.flatMap QuotedPart.text ++ '"' :: rest)) =
        splitFrom .double (some (word.getD [])) (parts.flatMap QuotedPart.text ++ '"' :: rest) := by
      simp [splitFrom]
    simp only [text, List.cons_append, List.append_assoc, List.nil_append]
    rw [opened, splitFrom_double]
    simp [splitFrom, value]

theorem readsAs_segments {segments : List Segment} (filled : segments ≠ []) :
    ReadsAs (segments.flatMap Segment.text) (segments.flatMap Segment.value) := by
  induction segments with
  | nil => exact absurd rfl filled
  | cons s rest ih =>
    rw [List.flatMap_cons, List.flatMap_cons]
    by_cases last : rest = []
    · subst last
      simpa using s.readsAs
    · exact s.readsAs.append (ih last)

theorem Spelling.readsAs (s : Spelling) : ReadsAs s.text s.value :=
  readsAs_segments s.filled

/-- Single quotes are left for one of their own kind, and are entered again after it. -/
theorem splitFrom_quoted_single (word content rest : List Char) :
    splitFrom .single (some word) (content.flatMap Quotes.single.char ++ '\'' :: rest) =
      splitFrom .bare (some (content.reverse ++ word)) rest := by
  induction content generalizing word with
  | nil => simp [splitFrom]
  | cons c content ih =>
    have step (tail : List Char) : splitFrom .single (some word) (Quotes.single.char c ++ tail) =
        splitFrom .single (some (c :: word)) tail := by
      by_cases quote : c = '\'' <;> simp [Quotes.char, quote, splitFrom, extend]
    rw [List.flatMap_cons, List.append_assoc, step, ih, List.reverse_cons, List.append_assoc]
    rfl

/-- A character as it is written in double quotes that hold a whole word. -/
def QuotedPart.ofChar (c : Char) : QuotedPart :=
  if marked : c = '"' ∨ c = '\\' then .escaped c marked else .plain c (not_or.mp marked)

theorem QuotedPart.ofChar_spec (c : Char) :
    (ofChar c).text = Quotes.double.char c ∧ (ofChar c).value = [c] := by
  by_cases marked : c = '"' ∨ c = '\\' <;> simp [ofChar, Quotes.char, marked, text, value]

/-- Quotes keep a word together, whatever it holds. -/
theorem Quotes.readsAs (q : Quotes) (word : String) : ReadsAs (q.quote word).toList word.toList := by
  cases q with
  | single =>
    intro before rest
    have opened (tail : List Char) : splitFrom .bare before ('\'' :: tail) =
        splitFrom .single (some (before.getD [])) tail := by
      simp [splitFrom]
    have text : (single.quote word).toList ++ rest =
        '\'' :: (word.toList.flatMap single.char ++ '\'' :: rest) := by
      simp [quote, mark]
    rw [text, opened, splitFrom_quoted_single]
  | double =>
    have segment := (Segment.double (word.toList.map QuotedPart.ofChar)).readsAs
    simp only [Segment.text, Segment.value, List.flatMap_map, QuotedPart.ofChar_spec] at segment
    simpa [quote, mark] using segment

end Reading

section Words

variable {blanks trail : List Char}

/-- Blanks end the word before them, if there is one. -/
theorem splitFrom_blanks (blank : ∀ c ∈ blanks, Text.isBlank c = true) (word : Option (List Char))
    (rest : List Char) (ends : word = none ∨ blanks ≠ [] ∨ rest = []) :
    splitFrom .bare word (blanks ++ rest) =
      (word.map List.reverse).toList ++ splitFrom .bare none rest := by
  induction blanks generalizing word with
  | nil =>
    rcases ends with rfl | none | rfl
    · rfl
    · exact absurd rfl none
    · simp [splitFrom]
  | cons c blanks ih =>
    obtain ⟨first, later⟩ := List.forall_mem_cons.mp blank
    rw [List.cons_append, splitFrom_blank first, ih later none (.inl rfl)]
    rfl

/-- Words that are apart are read one by one, in the order of the text. -/
theorem splitFrom_words {α : Type} {gap text value : α → List Char} {items : List α}
    (reads : ∀ x ∈ items, ReadsAs (text x) (value x))
    (blank : ∀ x ∈ items, ∀ c ∈ gap x, Text.isBlank c = true)
    (apart : ∀ x ∈ items.tail, gap x ≠ []) (trailing : ∀ c ∈ trail, Text.isBlank c = true)
    (word : Option (List Char)) (ends : word = none ∨ ∀ x ∈ items.head?, gap x ≠ []) :
    splitFrom .bare word (items.flatMap (fun x => gap x ++ text x) ++ trail) =
      (word.map List.reverse).toList ++ items.map value := by
  induction items generalizing word with
  | nil =>
    have last := splitFrom_blanks trailing word [] (.inr (.inr rfl))
    simpa [splitFrom] using last
  | cons x items ih =>
    obtain ⟨here, reads⟩ := List.forall_mem_cons.mp reads
    obtain ⟨first, blank⟩ := List.forall_mem_cons.mp blank
    have later := ih reads blank (fun y at_ => apart y (List.mem_of_mem_tail at_))
      (some (value x).reverse) (.inr fun y at_ => apart y (List.mem_of_mem_head? at_))
    rw [List.flatMap_cons, List.append_assoc, List.append_assoc,
      splitFrom_blanks first word _ (ends.imp_right fun filled => .inl (filled x rfl)), here]
    simpa using later

/-- In words that are joined with spaces there is one before each, but for the first. -/
theorem cons_intercalate (word : String) (words : List String) :
    ' ' :: (" ".intercalate (word :: words)).toList =
      (word :: words).flatMap fun w => ' ' :: w.toList := by
  induction words generalizing word with
  | nil => simp
  | cons next words ih =>
    rw [String.intercalate_cons_cons, String.toList_append, String.toList_append, List.flatMap_cons,
      ← ih next]
    simp

end Words

/-- Flags are read as the words that they spell, in order, whatever ways of quoting are mixed in a
word and whatever blanks stand between words. So words that are put in quotes, each in either kind,
and are joined with spaces are read back as they were. -/
theorem splitFlags_reads_spellings :
    (∀ f : FlagText, splitFlags f.text = f.values) ∧
    ∀ words : List (Quotes × String),
      splitFlags (" ".intercalate (words.map fun x => x.1.quote x.2)) = words.map Prod.snd := by
  refine ⟨fun f => ?_, fun words => ?_⟩
  · have reads : ∀ x ∈ f.words, ReadsAs x.2.text x.2.value := fun x _ => x.2.readsAs
    have blank : ∀ x ∈ f.words, ∀ c ∈ x.1.val, Text.isBlank c = true := fun x _ => x.1.property
    have read := splitFrom_words reads blank f.apart f.trail.property none (.inl rfl)
    simp only [splitFlags, FlagText.text, String.toList_ofList, read, FlagText.values]
    simp
  · have reads : ∀ x ∈ words, ReadsAs (x.1.quote x.2).toList x.2.toList := fun x _ => x.1.readsAs x.2
    have blank : ∀ x ∈ words, ∀ c ∈ [' '], Text.isBlank c = true := fun _ _ c at_ => by
      rw [List.mem_singleton.mp at_]
      decide
    have trailing : ∀ c ∈ ([] : List Char), Text.isBlank c = true := by simp
    have read := splitFrom_words reads blank (fun _ _ => by simp) trailing none (.inl rfl)
    cases words with
    | nil => rfl
    | cons x words =>
      have text := cons_intercalate (x.1.quote x.2) (words.map fun x => x.1.quote x.2)
      rw [← List.map_cons (f := fun x : Quotes × String => x.1.quote x.2), List.flatMap_map] at text
      simp only [List.append_nil, List.singleton_append, ← text] at read
      rw [splitFrom_blank (by decide)] at read
      simp only [splitFlags]
      simpa [Function.comp_def] using congrArg (List.map String.ofList) read

end PlcModule.Tool
