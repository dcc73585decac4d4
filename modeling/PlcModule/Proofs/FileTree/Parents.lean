import Mathlib.Data.List.DropRight
import PlcModule.Proofs.FileTree.Change

/-! Parents of paths. A parent is spelled by the first names of its path, so the way to a path
whose names never go up stays above it. -/
namespace PlcModule

namespace Path

variable {p q : Path}

theorem cut_cases (p : Path) :
    (∃ rest, p.text.toList = '/' :: rest ∧ p.cut = (['/'], Text.splitAt '/' rest)) ∨
    (p.text.toList = ['.'] ∧ p.cut = (['.'], [])) ∨
    (∃ rest, p.text.toList = '.' :: '/' :: rest ∧
      p.cut = (['.'], Text.splitAt '/' ('/' :: rest))) ∨
    (p.isAbsolute = false ∧ p.cut = ([], Text.splitAt '/' p.text.toList)) := by
  unfold cut
  split
  · rename_i rest text
    exact .inl ⟨rest, text, rfl⟩
  · rename_i text
    exact .inr (.inl ⟨text, rfl⟩)
  · rename_i rest text
    exact .inr (.inr (.inl ⟨rest, text, rfl⟩))
  · rename_i other _ _
    refine .inr (.inr (.inr ⟨?_, rfl⟩))
    simp only [isAbsolute, beq_eq_false_iff_ne]
    intro slash
    obtain ⟨rest, text⟩ := List.head?_eq_some_iff.mp slash
    exact other rest text

/-- Without the pieces at its end, a cut path is a first part of it. -/
theorem trimIdle_lt {pieces : List (List Char)} (filled : (trimIdle pieces).isEmpty = false) :
    ∃ rest, rest ≠ [] ∧ pieces = trimIdle (trimIdle pieces).dropLast ++ rest := by
  have front := (List.rdropWhile_prefix isIdle (trimIdle pieces).dropLast).trans
    ((List.dropLast_prefix _).trans (List.rdropWhile_prefix isIdle pieces))
  obtain ⟨rest, eq⟩ := front
  refine ⟨rest, ?_, eq.symm⟩
  rintro rfl
  have short := (List.rdropWhile_prefix isIdle (trimIdle pieces).dropLast).length_le
  have whole := (List.rdropWhile_prefix isIdle pieces).length_le
  have same := congrArg List.length eq
  have names : (trimIdle pieces).length ≠ 0 := by simpa using filled
  simp only [List.append_nil, List.length_dropLast] at same short
  change _ ≤ _ at whole
  change (trimIdle pieces).length ≤ _ at whole
  omega

theorem parent_eq (p : Path) (filled : (trimIdle p.cut.2).isEmpty = false) :
    ∃ front rest, rest ≠ [] ∧ p.cut.2 = front ++ rest ∧
      p.parent = some ⟨String.ofList (p.cut.1 ++ Text.joinAt '/' front)⟩ := by
  obtain ⟨rest, more, eq⟩ := trimIdle_lt filled
  exact ⟨_, rest, more, eq, by simp [parent, filled]⟩

theorem text_cut (p : Path) : p.text.toList = p.cut.1 ++ Text.joinAt '/' p.cut.2 := by
  rcases p.cut_cases with ⟨rest, text, cut⟩ | ⟨text, cut⟩ | ⟨rest, text, cut⟩ | ⟨-, cut⟩
  · simp [cut, text, Text.joinAt_splitAt]
  · simp [cut, text, Text.joinAt]
  · simp [cut, text, Text.joinAt_splitAt]
  · simp [cut, Text.joinAt_splitAt]

/-- A path goes on after its parent with a separator, unless the parent has no names. -/
theorem parent_text (h : p.parent = some q) :
    (q.text = "" ∧ p.isAbsolute = false) ∨ (q.text = "/" ∧ p.isAbsolute = true) ∨
      q.text ≠ "" ∧ ∃ rest, p.text.toList = q.text.toList ++ '/' :: rest := by
  cases idle : (trimIdle p.cut.2).isEmpty with
  | true =>
    simp only [parent, idle, if_true] at h
    split at h
    · rename_i here
      cases h
      refine .inl ⟨rfl, ?_⟩
      rcases p.cut_cases with ⟨rest, text, cut⟩ | ⟨text, -⟩ | ⟨rest, text, -⟩ | ⟨relative, -⟩
      · rw [cut] at here; cases here
      · simp [isAbsolute, text]
      · simp [isAbsolute, text]
      · exact relative
    · cases h
  | false =>
    obtain ⟨front, rest, filled, pieces, eq⟩ := p.parent_eq idle
    rw [eq] at h
    cases h
    by_cases none : front = []
    · rcases p.cut_cases with ⟨tail, text, cut⟩ | ⟨text, cut⟩ | ⟨tail, text, cut⟩ | ⟨relative, cut⟩
      · exact .inr (.inl ⟨by simp [cut, none, Text.joinAt], by simp [isAbsolute, text]⟩)
      · rw [cut] at idle; cases idle
      · exact .inr (.inr ⟨by simp [cut], tail, by simp [cut, none, text, Text.joinAt]⟩)
      · exact .inl ⟨by simp [cut, none, Text.joinAt], relative⟩
    · have text : p.text.toList =
          p.cut.1 ++ Text.joinAt '/' front ++ '/' :: Text.joinAt '/' rest := by
        rw [p.text_cut, pieces, Text.joinAt_append none filled, List.append_assoc]
      refine .inr (.inr ⟨fun empty => ?_, _, by simpa using text⟩)
      -- Only an absolute path starts with a separator, and it keeps that.
      have nothing : p.cut.1 ++ Text.joinAt '/' front = [] := by simpa using empty
      have absolute : p.isAbsolute = true := by simp [isAbsolute, text, nothing]
      rcases p.cut_cases with ⟨tail, -, cut⟩ | ⟨-, cut⟩ | ⟨tail, -, cut⟩ | ⟨relative, -⟩
      · simp [cut] at nothing
      · simp [cut] at nothing
      · simp [cut] at nothing
      · rw [relative] at absolute; cases absolute

/-- The names of a path start with those of its parent. -/
theorem parent_names (h : p.parent = some q) :
    q.isAbsolute = p.isAbsolute ∧ FileTree.pathNames q <+: FileTree.pathNames p := by
  rcases parent_text h with ⟨none, relative⟩ | ⟨root, absolute⟩ | ⟨some, rest, text⟩
  · have names : FileTree.pathNames q = [] := by simp [FileTree.pathNames, none, Text.splitAt]
    exact ⟨by rw [relative]; simp [isAbsolute, none], names ▸ List.nil_prefix⟩
  · have names : FileTree.pathNames q = [] := by simp [FileTree.pathNames, root, Text.splitAt]
    exact ⟨by rw [absolute]; simp [isAbsolute, root], names ▸ List.nil_prefix⟩
  · obtain ⟨c, front, start⟩ := List.exists_cons_of_ne_nil (l := q.text.toList) (by simpa using some)
    refine ⟨by simp [isAbsolute, text, start], ?_⟩
    simp [FileTree.pathNames, text, Text.splitAt_append]

/-- No name of the path goes up. -/
def Descends (p : Path) : Prop :=
  ".." ∉ FileTree.pathNames p

instance (p : Path) : Decidable p.Descends :=
  inferInstanceAs (Decidable (¬ _))

theorem foldl_onward_prefix {names : List String} (down : ".." ∉ names) (l : Route) :
    l <+: names.foldl onward l := by
  induction names generalizing l with
  | nil => exact List.prefix_rfl
  | cons name names ih =>
    obtain ⟨step, down⟩ : ".." ≠ name ∧ ".." ∉ names := by simpa using down
    rw [List.foldl_cons]
    have one : l <+: onward l name := by
      unfold onward
      split
      · exact List.prefix_rfl
      · rw [if_neg step.symm]
        exact List.prefix_append _ _
    exact one.trans (ih down _)

/-- The way to a path that never goes up stays above it. -/
theorem OnWay.route_prefix (way : p.OnWay q) (down : p.Descends) (cwd : Route) :
    q.Descends ∧ q.route cwd <+: p.route cwd := by
  induction way with
  | here => exact ⟨down, List.prefix_rfl⟩
  | @up q r _ parent ih =>
    obtain ⟨level, above⟩ := ih
    obtain ⟨absolute, names, whole⟩ := parent_names parent
    have level' : ".." ∉ FileTree.pathNames r ++ names := by rw [whole]; exact level
    obtain ⟨first, last⟩ : ".." ∉ FileTree.pathNames r ∧ ".." ∉ names := by simpa using level'
    refine ⟨first, List.IsPrefix.trans ?_ above⟩
    rw [route, route, absolute, ← whole, List.foldl_append]
    exact foldl_onward_prefix last _

theorem Descends.child_notMem_wayTo {dir : Path} (down : dir.Descends) {name : String}
    (plain : IsPlainName name) (cwd : Route) :
    (dir.child name).route cwd ∉ FileTree.wayTo cwd dir := by
  rintro ⟨q, way, eq⟩
  have above := (way.route_prefix down cwd).2.length_le
  rw [← eq, route_child plain, List.length_append] at above
  simp only [List.length_singleton] at above
  omega

end Path
end PlcModule
