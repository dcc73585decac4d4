/-! Lines of a text, and whether one text occurs in another. -/
namespace PlcModule.Text

/-- Closes a line that is held backwards; the carriage return of a CR LF ending goes with it. -/
def closeLine : List Char → List Char
  | '\r' :: line => line.reverse
  | line => line.reverse

/-- The lines of a text, without their endings. An ending at the very end of the text starts
no further line, and a carriage return before the end of the text belongs to the last line. -/
def splitLines (line : List Char) : List Char → List (List Char)
  | [] => if line.isEmpty then [] else [line.reverse]
  | c :: rest =>
    if c = '\n' then closeLine line :: splitLines [] rest else splitLines (c :: line) rest

def lines (s : String) : List String :=
  (splitLines [] s.toList).map String.ofList

def occursIn (needle : List Char) : List Char → Bool
  | [] => needle.isEmpty
  | c :: rest => needle.isPrefixOf (c :: rest) || occursIn needle rest

/-- Whether `needle` stands somewhere in `s`; the empty text stands in every text. -/
def contains (s needle : String) : Bool :=
  occursIn needle.toList s.toList

/-- Puts `extra` after each place where `needle` stands, given that the next `left` characters
end one such place. -/
def insertAfter (needle extra : List Char) (left : Nat) : List Char → List Char
  | [] => []
  | c :: rest =>
    match left with
    | 1 => c :: (extra ++ insertAfter needle extra 0 rest)
    | k + 2 => c :: insertAfter needle extra (k + 1) rest
    | 0 =>
      if needle.isPrefixOf (c :: rest) then
        if needle.length ≤ 1 then c :: (extra ++ insertAfter needle extra 0 rest)
        else c :: insertAfter needle extra (needle.length - 1) rest
      else c :: insertAfter needle extra 0 rest

/-- The pieces between the separators: one more than there are separators. -/
def splitAt (separator : Char) : List Char → List (List Char)
  | [] => [[]]
  | c :: rest =>
    if c = separator then [] :: splitAt separator rest
    else match splitAt separator rest with
      | [] => [[c]]
      | piece :: pieces => (c :: piece) :: pieces

/-- The pieces written one after the other with the separator between them. -/
def joinAt (separator : Char) (pieces : List (List Char)) : List Char :=
  (pieces.intersperse [separator]).flatten

theorem splitAt_ne_nil (separator : Char) (cs : List Char) : splitAt separator cs ≠ [] := by
  cases cs with
  | nil => simp [splitAt]
  | cons c rest =>
    simp only [splitAt]
    split
    · simp
    · split <;> simp

theorem joinAt_splitAt (separator : Char) (cs : List Char) :
    joinAt separator (splitAt separator cs) = cs := by
  induction cs with
  | nil => rfl
  | cons c rest ih =>
    simp only [splitAt]
    cases e : splitAt separator rest with
    | nil => exact absurd e (splitAt_ne_nil _ _)
    | cons piece pieces =>
      rw [e] at ih
      split
      · rename_i h
        subst h
        simp [joinAt, List.intersperse] at ih ⊢
        exact ih
      · cases pieces <;> simp_all [joinAt, List.intersperse]

end PlcModule.Text
