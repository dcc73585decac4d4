import PlcModule.Proofs.Tool.Spelling

/-! Flags side by side. A text that leaves no quotation and no backslash open is read on its own,
whatever follows behind a blank; a text that leaves one open takes the blank with it. So flags that
hold neither quotes nor backslashes are cut at blanks and nowhere else. -/
namespace PlcModule.Tool

/-- A text in which every quotation is closed and a character follows every backslash: blanks and
parts of words, one after another. -/
inductive Closed : List Char → Prop where
  | nil : Closed []
  | blank {c : Char} {cs : List Char} (blank : Text.isBlank c = true) (rest : Closed cs) :
    Closed (c :: cs)
  | segment (s : Segment) {cs : List Char} (rest : Closed cs) : Closed (s.text ++ cs)

/-- What a text may leave open at its end. -/
inductive Unfinished : List Char → Prop where
  | backslash : Unfinished ['\\']
  | single (content : List Char) (within : '\'' ∉ content) : Unfinished ('\'' :: content)
  | double (parts : List QuotedPart) : Unfinished ('"' :: parts.flatMap QuotedPart.text)
  /-- A backslash in double quotes. -/
  | doubleEscaped (parts : List QuotedPart) :
    Unfinished ('"' :: (parts.flatMap QuotedPart.text ++ ['\\']))

/-- The pieces of a text between runs of blanks. -/
def blankSeparated (s : String) : List String :=
  ((s.toList.splitOnP Text.isBlank).filter (!·.isEmpty)).map String.ofList

/-- A character that has no meaning of its own to the reader. -/
def IsOrdinary (c : Char) : Prop :=
  c ≠ '\'' ∧ c ≠ '"' ∧ c ≠ '\\'

section

variable {cs front tail : List Char}

theorem Segment.text_ne_nil (s : Segment) : s.text ≠ [] := by
  cases s <;> simp [text]

/-- Double quotes are closed, or left open to the end, maybe behind a backslash. -/
theorem double_cases (cs : List Char) : ∃ parts : List QuotedPart,
    (∃ rest, cs = parts.flatMap QuotedPart.text ++ '"' :: rest) ∨
    cs = parts.flatMap QuotedPart.text ∨ cs = parts.flatMap QuotedPart.text ++ ['\\'] := by
  match cs with
  | [] => exact ⟨[], .inr (.inl rfl)⟩
  | c :: rest =>
    by_cases quote : c = '"'
    · exact ⟨[], .inl ⟨rest, by simp [quote]⟩⟩
    by_cases backslash : c = '\\'
    · subst backslash
      match rest with
      | [] => exact ⟨[], .inr (.inr rfl)⟩
      | e :: rest =>
        obtain ⟨part, text⟩ : ∃ part : QuotedPart, part.text = ['\\', e] := by
          by_cases marked : e = '"' ∨ e = '\\'
          · exact ⟨.escaped e marked, rfl⟩
          · exact ⟨.kept e (not_or.mp marked), rfl⟩
        obtain ⟨parts, sort⟩ := double_cases rest
        refine ⟨part :: parts, ?_⟩
        simpa [text] using sort
    · obtain ⟨parts, sort⟩ := double_cases rest
      refine ⟨.plain c ⟨quote, backslash⟩ :: parts, ?_⟩
      simpa [QuotedPart.text] using sort

/-- What stands at the front of a text is a blank or a part of a word, or it is left open. -/
theorem front_cases (c : Char) (rest : List Char) :
    Text.isBlank c = true ∨ (∃ (s : Segment) (later : List Char), c :: rest = s.text ++ later) ∨
      Unfinished (c :: rest) := by
  by_cases blank : Text.isBlank c = true
  · exact .inl blank
  right
  by_cases single : c = '\''
  · subst single
    by_cases closed : '\'' ∈ rest
    · obtain ⟨content, later, rfl, within⟩ := List.eq_append_cons_of_mem closed
      exact .inl ⟨.single content within, later, by simp [Segment.text]⟩
    · exact .inr (.single rest closed)
  by_cases double : c = '"'
  · subst double
    obtain ⟨parts, ⟨later, rfl⟩ | rfl | rfl⟩ := double_cases rest
    · exact .inl ⟨.double parts, later, by simp [Segment.text]⟩
    · exact .inr (.double parts)
    · exact .inr (.doubleEscaped parts)
  by_cases backslash : c = '\\'
  · subst backslash
    cases rest with
    | nil => exact .inr .backslash
    | cons e later => exact .inl ⟨.escaped e, later, rfl⟩
  · exact .inl ⟨.bare c ⟨by simpa using blank, single, double, backslash⟩, rest, rfl⟩

/-- A text is closed, or it is up to what it leaves open. -/
theorem closed_cases (cs : List Char) :
    Closed cs ∨ ∃ front tail, cs = front ++ tail ∧ Closed front ∧ Unfinished tail := by
  match cs with
  | [] => exact .inl .nil
  | c :: rest =>
    rcases front_cases c rest with blank | ⟨s, later, whole⟩ | unfinished
    · rcases closed_cases rest with closed | ⟨front, tail, rfl, closed, unfinished⟩
      · exact .inl (.blank blank closed)
      · exact .inr ⟨c :: front, tail, rfl, .blank blank closed, unfinished⟩
    · have shorter : later.length < (c :: rest).length := by
        have := List.length_pos_iff.mpr s.text_ne_nil
        rw [whole, List.length_append]
        omega
      rcases closed_cases later with closed | ⟨front, tail, rfl, closed, unfinished⟩
      · exact .inl (whole ▸ .segment s closed)
      · exact .inr ⟨s.text ++ front, tail, by simp [whole], .segment s closed, unfinished⟩
    · exact .inr ⟨[], c :: rest, rfl, .nil, unfinished⟩
termination_by cs.length
decreasing_by
  · exact Nat.lt_succ_self _
  · exact shorter

/-- After a closed text the reader stands in no quotes. -/
theorem Closed.read (closed : Closed front) (word : Option (List Char)) :
    ∃ words word', ∀ rest,
      splitFrom .bare word (front ++ rest) = words ++ splitFrom .bare word' rest := by
  induction closed generalizing word with
  | nil => exact ⟨[], word, fun _ => rfl⟩
  | @blank c cs blank _ ih =>
    obtain ⟨words, word', read⟩ := ih none
    refine ⟨(word.map List.reverse).toList ++ words, word', fun rest => ?_⟩
    rw [List.cons_append, splitFrom_blank blank, read, List.append_assoc]
  | @segment s cs _ ih =>
    obtain ⟨words, word', read⟩ := ih (some (s.value.reverse ++ word.getD []))
    refine ⟨words, word', fun rest => ?_⟩
    rw [List.append_assoc, s.readsAs, read]

/-- A blank that follows a closed text ends its last word. -/
theorem Closed.splitFrom_append (closed : Closed front) {c : Char} (blank : Text.isBlank c = true)
    (back : List Char) :
    splitFrom .bare none (front ++ c :: back) =
      splitFrom .bare none front ++ splitFrom .bare none back := by
  obtain ⟨words, word, read⟩ := closed.read none
  have alone := read []
  rw [List.append_nil] at alone
  rw [read, alone, splitFrom_blank blank, splitFrom, List.append_assoc]
  rfl

/-- What a text leaves open the reader stands in. -/
theorem Unfinished.read (unfinished : Unfinished tail) (word : Option (List Char)) :
    ∃ quoting held, quoting ≠ .bare ∧
      ∀ rest, splitFrom .bare word (tail ++ rest) = splitFrom quoting (some held) rest := by
  have quoted (parts : List QuotedPart) (rest : List Char) :
      splitFrom .bare word ('"' :: (parts.flatMap QuotedPart.text ++ rest)) =
        splitFrom .double (some ((parts.flatMap QuotedPart.value).reverse ++ word.getD [])) rest := by
    have opened : splitFrom .bare word ('"' :: (parts.flatMap QuotedPart.text ++ rest)) =
        splitFrom .double (some (word.getD [])) (parts.flatMap QuotedPart.text ++ rest) := by
      simp [splitFrom]
    rw [opened, splitFrom_double]
  cases unfinished with
  | backslash => exact ⟨.escaped, word.getD [], by decide, fun rest => by simp [splitFrom]⟩
  | single content within =>
    refine ⟨.single, content.reverse ++ word.getD [], by decide, fun rest => ?_⟩
    have opened : splitFrom .bare word ('\'' :: (content ++ rest)) =
        splitFrom .single (some (word.getD [])) (content ++ rest) := by
      simp [splitFrom]
    rw [List.cons_append, opened, splitFrom_single _ within]
  | double parts => exact ⟨.double, _, by decide, fun rest => quoted parts rest⟩
  | doubleEscaped parts =>
    refine ⟨.doubleEscaped, (parts.flatMap QuotedPart.value).reverse ++ word.getD [], by decide,
      fun rest => ?_⟩
    rw [List.cons_append, List.append_assoc, quoted]
    simp [splitFrom]

/-- In quotes or behind a backslash a blank belongs to the word. -/
theorem splitFrom_blank_within {quoting : Quoting} (within : quoting ≠ .bare) (held : List Char) :
    ∃ value, splitFrom quoting (some held) [] = [value] ∧
      splitFrom quoting (some held) [' '] = [value ++ [' ']] := by
  cases quoting with
  | bare => exact absurd rfl within
  | escaped => exact ⟨held.reverse, by simp [splitFrom, extend]⟩
  | single => exact ⟨held.reverse, by simp [splitFrom, extend]⟩
  | double => exact ⟨held.reverse, by simp [splitFrom, extend]⟩
  | doubleEscaped => exact ⟨held.reverse ++ ['\\'], by simp [splitFrom, extend]⟩

end

section

variable {cs : List Char}

/-- Flags that leave nothing open are those that can be read apart from what follows a blank. -/
theorem closed_iff (flags : String) : Closed flags.toList ↔
    ∀ (c : Char) (back : String), Text.isBlank c = true →
      splitFlags (flags ++ String.singleton c ++ back) = splitFlags flags ++ splitFlags back := by
  constructor
  · intro closed c back blank
    have apart := closed.splitFrom_append blank back.toList
    simp [splitFlags, apart]
  · intro apart
    rcases closed_cases flags.toList with closed | ⟨front, tail, whole, closed, unfinished⟩
    · exact closed
    · exfalso
      obtain ⟨words, word, read⟩ := closed.read none
      obtain ⟨quoting, held, within, left⟩ := unfinished.read word
      obtain ⟨value, here, further⟩ := splitFrom_blank_within within held
      have same : splitFrom .bare none (flags.toList ++ [' ']) = splitFrom .bare none flags.toList := by
        have texts := congrArg (List.map String.toList) (apart ' ' "" (by decide))
        simpa [splitFlags, splitFrom, Function.comp_def] using texts
      have alone := left []
      rw [List.append_nil] at alone
      rw [whole, List.append_assoc, read, read, left, alone, here, further] at same
      simp at same

theorem IsOrdinary.readsAs (filled : cs ≠ []) (ordinary : ∀ c ∈ cs, IsOrdinary c)
    (dark : ∀ c ∈ cs, Text.isBlank c = false) : ReadsAs cs cs := by
  induction cs with
  | nil => exact absurd rfl filled
  | cons c rest ih =>
    obtain ⟨here, later⟩ := List.forall_mem_cons.mp ordinary
    obtain ⟨shown, others⟩ := List.forall_mem_cons.mp dark
    have first : ReadsAs [c] [c] := (Segment.bare c ⟨shown, here⟩).readsAs
    by_cases last : rest = []
    · rw [last]
      exact first
    · exact first.append (ih last later others)

theorem closed_ordinary (ordinary : ∀ c ∈ cs, IsOrdinary c) : Closed cs := by
  induction cs with
  | nil => exact .nil
  | cons c rest ih =>
    obtain ⟨here, later⟩ := List.forall_mem_cons.mp ordinary
    by_cases blank : Text.isBlank c = true
    · exact .blank blank (ih later)
    · exact .segment (.bare c ⟨by simpa using blank, here⟩) (ih later)

/-- Without quotes and backslashes words are what stands between blanks. -/
theorem splitFrom_ordinary (cs : List Char) (ordinary : ∀ c ∈ cs, IsOrdinary c) :
    splitFrom .bare none cs = (cs.splitOnP Text.isBlank).filter (!·.isEmpty) := by
  by_cases blank : ∃ c ∈ cs, Text.isBlank c = true
  · obtain ⟨c, at_, blank⟩ := blank
    obtain ⟨front, back, rfl⟩ := List.append_of_mem at_
    simp only [List.forall_mem_append, List.forall_mem_cons] at ordinary
    obtain ⟨before, -, after⟩ := ordinary
    rw [(closed_ordinary before).splitFrom_append blank, List.splitOnP_append_cons _ _ blank,
      List.filter_append, splitFrom_ordinary front before, splitFrom_ordinary back after]
  · have dark : ∀ c ∈ cs, Text.isBlank c = false := fun c at_ => by
      simpa using fun blank' => blank ⟨c, at_, blank'⟩
    rw [List.splitOnP_eq_singleton dark]
    by_cases none : cs = []
    · simp [none, splitFrom]
    · have read := IsOrdinary.readsAs none ordinary dark .none []
      simpa [splitFrom, none] using read
termination_by cs.length

end

/-- Flags that leave no quotation and no backslash open are read apart from all that follows them
behind a blank, whatever that is, and no other flags are. So flags without quotes and backslashes
are cut into words at their runs of blanks. -/
theorem splitFlags_apart :
    (∀ flags : String, Closed flags.toList ↔
      ∀ (c : Char) (back : String), Text.isBlank c = true →
        splitFlags (flags ++ String.singleton c ++ back) = splitFlags flags ++ splitFlags back) ∧
    ∀ flags : String, (∀ c ∈ flags.toList, IsOrdinary c) → splitFlags flags = blankSeparated flags := by
  refine ⟨closed_iff, fun flags ordinary => ?_⟩
  rw [splitFlags, splitFrom_ordinary _ ordinary, blankSeparated]

end PlcModule.Tool
