/-! Blank characters: the White_Space property of the Unicode standard. They separate
compiler flags, and are cut off the ends of tool output and of a recorded hash. -/
namespace PlcModule.Text

def isBlank (c : Char) : Bool :=
  let n := c.toNat
  (0x09 ≤ n && n ≤ 0x0D) || n == 0x20 || n == 0x85 || n == 0xA0 || n == 0x1680 ||
  (0x2000 ≤ n && n ≤ 0x200A) || n == 0x2028 || n == 0x2029 || n == 0x202F ||
  n == 0x205F || n == 0x3000

def dropBlank (cs : List Char) : List Char :=
  cs.dropWhile isBlank

def dropBlankEnd (cs : List Char) : List Char :=
  (dropBlank cs.reverse).reverse

/-- The text without blanks at either end. -/
def trim (s : String) : String :=
  String.ofList (dropBlankEnd (dropBlank s.toList))

/-- The text without blanks at its end. -/
def trimEnd (s : String) : String :=
  String.ofList (dropBlankEnd s.toList)

/-- No character but blanks, or none at all. -/
def isBlankText (s : String) : Bool :=
  s.toList.all isBlank

theorem dropBlank_eq_nil_iff (cs : List Char) :
    dropBlank cs = [] ↔ ∀ c ∈ cs, isBlank c = true := by
  induction cs with
  | nil => simp [dropBlank]
  | cons c cs ih =>
    cases h : isBlank c
    · simp [dropBlank, h]
    · rw [dropBlank, List.dropWhile_cons_of_pos h, List.forall_mem_cons]
      exact ih.trans (and_iff_right h).symm

/-- A text trims to nothing exactly when it is blank. -/
theorem trim_eq_empty_iff (s : String) : trim s = "" ↔ isBlankText s = true := by
  have h : trim s = "" ↔ dropBlankEnd (dropBlank s.toList) = [] := by
    rw [trim, ← String.ofList_nil]
    exact ⟨fun e => by simpa using congrArg String.toList e, fun e => by rw [e]⟩
  rw [h, dropBlankEnd, List.reverse_eq_nil_iff, dropBlank_eq_nil_iff, isBlankText, List.all_eq_true]
  simp only [List.mem_reverse]
  constructor
  · intro all
    have nil : dropBlank s.toList = [] := by
      cases e : dropBlank s.toList with
      | nil => rfl
      | cons c cs =>
        have head : isBlank c = true := all c (by simp [e])
        have := List.head?_dropWhile_not isBlank s.toList
        simp [dropBlank] at e
        simp [e, head] at this
    exact (dropBlank_eq_nil_iff _).mp nil
  · intro all c member
    exact all c ((List.dropWhile_sublist _).mem member)

end PlcModule.Text
