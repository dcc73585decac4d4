import PlcModule.Proofs.Template.Decomposition

/-! Writing templates. A text is written with its percent signs doubled and a key as a placeholder.
Reading never mistakes one for the other, whatever stands next to what, so rendering gives back the
texts with the values between them. -/
namespace PlcModule.Template

/-- What a template is put together from: texts, and keys to put the values of. -/
inductive Part where
  | text (text : String)
  | key (key : String)
  deriving DecidableEq, Repr

namespace Part

/-- A text with every percent sign twice. -/
def doubled (cs : List Char) : List Char :=
  cs.flatMap fun c => if c = '%' then ['%', '%'] else [c]

/-- The part as a template has it. -/
def written : Part → String
  | text s => String.ofList (doubled s.toList)
  | key k => "%(" ++ k ++ ")s"

/-- What the part stands for. -/
def meant (value : String → String) : Part → String
  | text s => s
  | key k => value k

/-- A character of a text, as it is read from the doubled text. -/
def readChar (c : Char) : Token :=
  if c = '%' then .percent else .plain c

def key? : Part → Option String
  | text _ => none
  | key k => some k

def tokens : Part → List Token
  | text s => s.toList.map readChar
  | key k => [.placeholder k.toList]

/-- A key is one or more word characters. -/
def IsWritable : Part → Prop
  | text _ => True
  | key k => k ≠ "" ∧ ∀ c ∈ k.toList, Text.isWord c = true

end Part

theorem Mark.text_head (m : Mark) : m.text.head? = some '%' := by
  cases m <;> rfl

theorem not_beginsMarked {c : Char} (other : c ≠ '%') (tail : List Char) :
    ¬ Decomposition.BeginsMarked (c :: tail) := by
  rintro ⟨m, rest, eq⟩
  have head := congrArg List.head? eq
  rw [List.head?_append, m.text_head] at head
  exact other (Option.some.inj head).symm

/-- A doubled text is read as the text, no matter what follows. -/
theorem scan_doubled (cs tail : List Char) :
    Token.scan (Part.doubled cs ++ tail) = cs.map Part.readChar ++ Token.scan tail := by
  induction cs with
  | nil => rfl
  | cons c cs ih =>
    by_cases sign : c = '%'
    · subst sign
      have percent := Token.scan_mark .percent (Part.doubled cs ++ tail)
      rw [ih] at percent
      exact percent
    · have plain := Token.scan_unmarked (not_beginsMarked sign (Part.doubled cs ++ tail))
      rw [ih] at plain
      simpa [Part.doubled, Part.readChar, sign] using plain

theorem Part.scan_written {p : Part} (writable : p.IsWritable) (tail : List Char) :
    Token.scan (p.written.toList ++ tail) = p.tokens ++ Token.scan tail := by
  cases p with
  | text s => simpa [written, tokens] using scan_doubled s.toList tail
  | key k =>
    have filled : k.toList ≠ [] := by simpa using writable.1
    have placeholder := Token.scan_mark (.placeholder k.toList ⟨filled, writable.2⟩) tail
    simpa [written, tokens, Mark.text, Mark.token] using placeholder

/-- A template that is put together from parts. -/
def ofParts (path : Path) (parts : List Part) : Template :=
  ⟨path, String.join (parts.map Part.written)⟩

section

variable {path : Path} {parts : List Part}

/-- No part changes how another is read. -/
theorem tokens_ofParts (writable : ∀ p ∈ parts, p.IsWritable) :
    (ofParts path parts).tokens = parts.flatMap Part.tokens := by
  rw [tokens, ofParts]
  induction parts with
  | nil => simp [Token.scan]
  | cons p rest ih =>
    obtain ⟨first, later⟩ := List.forall_mem_cons.mp writable
    rw [List.map_cons, String.join_cons, String.toList_append, Part.scan_written first, ih later]
    rfl

theorem Part.keys_tokens (p : Part) :
    (p.tokens.filterMap Token.placeholder?).map String.ofList = p.key?.toList := by
  cases p with
  | text s =>
    have char (c : Char) : (readChar c).placeholder? = none := by
      unfold readChar
      split <;> rfl
    simp [tokens, key?, List.filterMap_map, char]
  | key k => simp [tokens, key?, Token.placeholder?]

theorem keys_ofParts (writable : ∀ p ∈ parts, p.IsWritable) :
    (ofParts path parts).keys = parts.filterMap Part.key? := by
  rw [keys, tokens_ofParts writable]
  clear writable
  induction parts with
  | nil => rfl
  | cons p rest ih =>
    rw [List.flatMap_cons, List.filterMap_append, List.map_append, ih, p.keys_tokens]
    cases p <;> rfl

theorem Part.render_tokens (p : Part) (value : String → String) :
    p.tokens.flatMap (Token.render fun key => (value (String.ofList key)).toList) =
      (p.meant value).toList := by
  cases p with
  | text s =>
    have char (c : Char) : Token.render (fun key => (value (String.ofList key)).toList)
        (readChar c) = [c] := by
      unfold readChar
      split
      · rename_i sign
        rw [sign]
        rfl
      · rfl
    simp [tokens, meant, List.flatMap_map, char]
  | key k => simp [tokens, meant, Token.render]

/-- Whatever the texts and values hold, and whatever parts stand next to one another, rendering what
was put together from parts gives the texts as they were, and the values in the place of the keys. -/
theorem render_ofParts {values : Values} {value : String → String}
    (writable : ∀ p ∈ parts, p.IsWritable)
    (present : ∀ key, .key key ∈ parts → values.lookup key = some (value key)) :
    (ofParts path parts).render values = .ok (String.join (parts.map (Part.meant value))) := by
  have known : (ofParts path parts).keys.find? (fun key => (values.lookup key).isNone) = none := by
    refine List.find?_eq_none.mpr fun key at_ => ?_
    rw [keys_ofParts writable] at at_
    obtain ⟨p, member, eq⟩ := List.mem_filterMap.mp at_
    cases p with
    | text s => cases eq
    | key k =>
      cases eq
      simp [present key member]
  have meant (p : Part) (member : p ∈ parts) :
      p.meant (fun key => (values.lookup key).getD "") = p.meant value := by
    cases p with
    | text s => rfl
    | key k => simp [Part.meant, present k member]
  rw [render, known, ← List.map_congr_left meant]
  simp only [tokens_ofParts writable, List.flatMap_assoc]
  rw [Except.ok.injEq, ← String.toList_inj, String.toList_ofList, String.toList_join,
    List.flatMap_map]
  congr 1
  funext p
  exact p.render_tokens fun key => (values.lookup key).getD ""

/-- A text that ends in a percent sign before a key, texts that look like the rest of a placeholder
or like all of one, and a value that does. -/
def crowded : List Part :=
  [.text "100%", .key "v", .text "(v)s%", .text "%(v)s", .key "v", .text "%%"]

theorem render_crowded :
    (∀ p ∈ crowded, p.IsWritable) ∧
      (ofParts ⟨"main.c"⟩ crowded).content = "100%%%(v)s(v)s%%%%(v)s%(v)s%%%%" ∧
      (ofParts ⟨"main.c"⟩ crowded).render [("v", "%(w)s%")] = .ok "100%%(w)s%(v)s%%(v)s%(w)s%%%" := by
  have word : Text.isWord 'v' = true := by decide
  have writable : ∀ p ∈ crowded, p.IsWritable := by simp [crowded, Part.IsWritable, word]
  have present : ∀ key, .key key ∈ crowded →
      [("v", "%(w)s%")].lookup key = some ((fun _ => "%(w)s%") key) := by
    intro key member
    obtain rfl : key = "v" := by simpa [crowded] using member
    rfl
  exact ⟨writable, by decide, render_ofParts writable present⟩

end

end PlcModule.Template
