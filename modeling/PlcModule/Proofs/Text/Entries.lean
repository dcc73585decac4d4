import Mathlib.Data.List.Basic

/-! The entries of a text that was joined with a separator. Reading from the left, an entry ends
where the separator next stands. Entries of one line each are found again if the separator goes
over to a new line. -/
namespace PlcModule.Text

/-- The pieces of a text between the places where a separator stands. The first `skip` characters
are the rest of a separator that was found. -/
def piecesFrom (separator : List Char) (skip : Nat) : List Char → List (List Char)
  | [] => [[]]
  | c :: rest =>
    match skip with
    | skip + 1 => piecesFrom separator skip rest
    | 0 =>
      if separator.isPrefixOf (c :: rest) then
        [] :: piecesFrom separator (separator.length - 1) rest
      else (piecesFrom separator 0 rest).modifyHead (c :: ·)

/-- The pieces of a text. An empty text has none. -/
def entries (separator text : String) : List String :=
  if text.isEmpty then []
  else (piecesFrom separator.toList 0 text.toList).map String.ofList

/-- A text of one line that is not empty. -/
def IsOneLine (s : String) : Prop :=
  s ≠ "" ∧ '\n' ∉ s.toList

instance (s : String) : Decidable (IsOneLine s) :=
  inferInstanceAs (Decidable (_ ∧ _))

/-- A separator that goes over to a new line once. -/
def BreaksLine (separator : String) : Prop :=
  separator.toList.count '\n' = 1

instance (separator : String) : Decidable (BreaksLine separator) :=
  inferInstanceAs (Decidable (_ = _))

theorem IsOneLine.append {front back : String} (line : IsOneLine front)
    (clean : '\n' ∉ back.toList) : IsOneLine (front ++ back) := by
  obtain ⟨filled, plain⟩ := line
  refine ⟨fun none => filled ?_, ?_⟩
  · have ends := congrArg String.toList none
    rw [String.toList_append] at ends
    simpa using (List.append_eq_nil_iff.mp ends).1
  · rw [String.toList_append, List.mem_append, not_or]
    exact ⟨plain, clean⟩

/-- A number is written in digits. -/
theorem not_mem_digits {c : Char} (other : ¬ c.isDigit) (n : Nat) : c ∉ (toString n).toList := by
  intro at_
  have digits : (toString n).toList = Nat.toDigits 10 n := by simp [Nat.toString_eq_repr, Nat.repr]
  rw [digits] at at_
  exact other (Nat.isDigit_of_mem_toDigits (b := 10) (by decide) (by decide) at_)

/-- A number is written on one line. -/
theorem not_mem_number (n : Nat) : '\n' ∉ (toString n).toList :=
  not_mem_digits (by decide) n

section

variable {separator front back : List Char}

theorem piecesFrom_skip (front rest : List Char) :
    piecesFrom separator front.length (front ++ rest) = piecesFrom separator 0 rest := by
  induction front with
  | nil => rfl
  | cons c front ih => exact ih

theorem piecesFrom_separator (filled : separator ≠ []) (rest : List Char) :
    piecesFrom separator 0 (separator ++ rest) = [] :: piecesFrom separator 0 rest := by
  obtain ⟨c, tail, rfl⟩ := List.exists_cons_of_ne_nil filled
  have here : (c :: tail).isPrefixOf (c :: (tail ++ rest)) = true := by simp
  rw [List.cons_append, piecesFrom, if_pos here]
  exact congrArg _ (piecesFrom_skip tail rest)

/-- Before the last part of a line the separator does not stand: its line end would be too near. -/
theorem not_isPrefixOf (plain : '\n' ∉ front) {c : Char} {line : List Char}
    (clean : '\n' ∉ c :: line) (back rest : List Char) :
    (front ++ '\n' :: back).isPrefixOf (c :: (line ++ (front ++ '\n' :: rest))) = false := by
  refine Bool.eq_false_iff.mpr fun here => ?_
  obtain ⟨tail, eq⟩ := List.isPrefixOf_iff_prefix.mp here
  have upTo (cs ds : List Char) (none : '\n' ∉ cs) :
      (cs ++ '\n' :: ds).takeWhile (· ≠ '\n') = cs := by
    rw [List.takeWhile_append_of_pos fun x at_ => by simpa using ne_of_mem_of_not_mem at_ none]
    simp
  have short := upTo front (back ++ tail) plain
  have long := upTo (c :: line ++ front) rest (by
    rw [List.mem_append, not_or]
    exact ⟨clean, plain⟩)
  have text : front ++ '\n' :: (back ++ tail) = c :: line ++ front ++ '\n' :: rest := by
    simpa using eq
  rw [text, long] at short
  have := congrArg List.length short
  rw [List.length_append, List.length_cons] at this
  omega

theorem piecesFrom_line (broken : '\n' ∈ separator) {line : List Char} (clean : '\n' ∉ line) :
    piecesFrom separator 0 line = [line] := by
  induction line with
  | nil => rfl
  | cons c line ih =>
    have off : separator.isPrefixOf (c :: line) = false := by
      refine Bool.eq_false_iff.mpr fun here => ?_
      exact clean ((List.isPrefixOf_iff_prefix.mp here).subset broken)
    rw [piecesFrom, off, ih (by simp_all)]
    rfl

theorem piecesFrom_line_append (plain : '\n' ∉ front) {line : List Char} (clean : '\n' ∉ line)
    (rest : List Char) :
    piecesFrom (front ++ '\n' :: back) 0 (line ++ (front ++ '\n' :: back ++ rest)) =
      line :: piecesFrom (front ++ '\n' :: back) 0 rest := by
  induction line with
  | nil => exact piecesFrom_separator (by simp) rest
  | cons c line ih =>
    have off := not_isPrefixOf plain clean back (back ++ rest)
    have text : front ++ '\n' :: (back ++ rest) = front ++ '\n' :: back ++ rest := by simp
    rw [text] at off
    rw [List.cons_append, piecesFrom, off, ih fun at_ => clean (List.mem_cons_of_mem c at_)]
    rfl

end

/-- Lines that were joined are the entries of the text. -/
theorem entries_intercalate {separator : String} (breaks : BreaksLine separator)
    {lines : List String} (oneLine : ∀ line ∈ lines, IsOneLine line) :
    entries separator (separator.intercalate lines) = lines := by
  obtain ⟨front, back, form⟩ : ∃ front back, separator.toList = front ++ '\n' :: back :=
    List.append_of_mem (List.count_pos_iff.mp (breaks ▸ Nat.one_pos))
  have plain : '\n' ∉ front := by
    have once := breaks
    rw [BreaksLine, form, List.count_append, List.count_cons_self] at once
    exact List.count_eq_zero.mp (by omega)
  have pieces (line : String) (more : List String) (clean : ∀ l ∈ line :: more, '\n' ∉ l.toList) :
      piecesFrom separator.toList 0 (separator.intercalate (line :: more)).toList =
        (line :: more).map String.toList := by
    induction more generalizing line with
    | nil => simpa using piecesFrom_line (by simp [form]) (clean line (by simp))
    | cons next more ih =>
      obtain ⟨first, rest⟩ := List.forall_mem_cons.mp clean
      rw [String.intercalate_cons_cons, String.toList_append, String.toList_append, List.append_assoc,
        form, piecesFrom_line_append plain first, ← form, ih next rest]
      rfl
  cases lines with
  | nil => rfl
  | cons line more =>
    have filled : (separator.intercalate (line :: more)).isEmpty = false := by
      have some : line.toList ≠ [] := by simpa using (oneLine line (by simp)).1
      cases more <;> simp_all
    rw [entries, filled, pieces line more fun l at_ => (oneLine l at_).2]
    simp

end PlcModule.Text
