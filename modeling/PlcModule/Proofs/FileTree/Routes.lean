import Mathlib.Data.List.Basic
import PlcModule.FileTree.Operations

/-! Where paths lead. A walk checks every step and may stop early; one that gets through ends
at the route that the names spell, so two paths of one spelling never lead to two places. -/
namespace PlcModule

/-- The route after one more name of a path. -/
def onward (l : Route) (name : String) : Route :=
  if name = "." then l else if name = ".." then l.dropLast else l ++ [name]

/-- The route that a path spells, seen from a working directory. Nothing need be there. -/
def Path.route (cwd : Route) (p : Path) : Route :=
  (FileTree.pathNames p).foldl onward (if p.isAbsolute then [] else cwd)

/-- A path, its parent, the parent of that and so on. -/
inductive Path.OnWay (p : Path) : Path → Prop where
  | here : OnWay p p
  | up {q r : Path} : OnWay p q → q.parent = some r → OnWay p r

theorem Path.OnWay.trans {p q r : Path} (first : p.OnWay q) (second : q.OnWay r) : p.OnWay r := by
  induction second with
  | here => exact first
  | up _ parent ih => exact .up ih parent

/-- A name that stands for one entry of a directory. -/
def IsPlainName (name : String) : Prop :=
  name ≠ "" ∧ '/' ∉ name.toList ∧ name ≠ "." ∧ name ≠ ".."

instance (name : String) : Decidable (IsPlainName name) :=
  inferInstanceAs (Decidable (_ ∧ _ ∧ _ ∧ _))

theorem IsPlainName.onward {name : String} (plain : IsPlainName name) (l : Route) :
    onward l name = l ++ [name] := by
  simp [PlcModule.onward, plain.2.2.1, plain.2.2.2]

namespace Text

theorem splitAt_of_not_mem {separator : Char} {cs : List Char} (h : separator ∉ cs) :
    splitAt separator cs = [cs] := by
  induction cs with
  | nil => rfl
  | cons c rest ih =>
    obtain ⟨head, tail⟩ : separator ≠ c ∧ separator ∉ rest := by simpa using h
    simp [splitAt, head.symm, ih tail]

theorem splitAt_append (separator : Char) (cs ds : List Char) :
    splitAt separator (cs ++ separator :: ds) = splitAt separator cs ++ splitAt separator ds := by
  induction cs with
  | nil => simp [splitAt]
  | cons c rest ih =>
    by_cases same : c = separator
    · simp [splitAt, same, ih]
    · simp only [List.cons_append, splitAt, same, if_false, ih]
      cases pieces : splitAt separator rest with
      | nil => exact absurd pieces (splitAt_ne_nil _ _)
      | cons piece more => rfl

theorem joinAt_append {separator : Char} {pieces others : List (List Char)} (some : pieces ≠ [])
    (more : others ≠ []) :
    joinAt separator (pieces ++ others) =
      joinAt separator pieces ++ separator :: joinAt separator others := by
  induction pieces with
  | nil => exact absurd rfl some
  | cons piece pieces ih =>
    obtain ⟨other, others, rfl⟩ := List.exists_cons_of_ne_nil more
    cases pieces with
    | nil => simp [joinAt]
    | cons next pieces =>
      have := ih (by simp)
      simp only [joinAt, List.cons_append, List.intersperse, List.flatten_cons] at this ⊢
      simp [this]

end Text

namespace FileTree

variable {t u : FileTree} {p : Path} {l k : Route}

theorem pathNames_join (p q : Path) (relative : q.isAbsolute = false) :
    pathNames (p.join q) = pathNames p ++ pathNames q := by
  unfold Path.join
  by_cases empty : p.text = ""
  · simp [relative, empty, pathNames, Text.splitAt]
  have filled : p.text.isEmpty = false := by simpa using empty
  simp only [relative, filled, Bool.or_self, Bool.false_eq_true, if_false]
  split
  · rename_i ends
    -- The separator at the end closes an empty piece, which stands for nothing.
    obtain ⟨front, text⟩ : ∃ front, p.text.toList = front ++ ['/'] :=
      ⟨_, (List.dropLast_append_getLast? '/' (by simpa using ends)).symm⟩
    have whole := Text.splitAt_append '/' front []
    have joined := Text.splitAt_append '/' front q.text.toList
    simp [pathNames, text, whole, joined, Text.splitAt]
  · have joined := Text.splitAt_append '/' p.text.toList q.text.toList
    simp [pathNames, joined]

theorem pathNames_plain {name : String} (plain : IsPlainName name) : pathNames ⟨name⟩ = [name] := by
  have filled : name.toList ≠ [] := by simpa using plain.1
  simp [pathNames, Text.splitAt_of_not_mem plain.2.1, filled]

theorem isAbsolute_plain {name : String} (plain : IsPlainName name) :
    Path.isAbsolute ⟨name⟩ = false := by
  simp only [Path.isAbsolute, beq_eq_false_iff_ne]
  intro slash
  exact plain.2.1 (List.mem_of_mem_head? slash)

theorem isAbsolute_join (p q : Path) (relative : q.isAbsolute = false) :
    (p.join q).isAbsolute = p.isAbsolute := by
  unfold Path.join
  by_cases empty : p.text = ""
  · simp only [Path.isAbsolute] at relative
    simp [Path.isAbsolute, empty, relative]
  have filled : p.text.isEmpty = false := by simpa using empty
  have head : p.text.toList ≠ [] := by simpa using empty
  simp only [relative, filled, Bool.or_self, Bool.false_eq_true, if_false]
  obtain ⟨c, rest, text⟩ := List.exists_cons_of_ne_nil head
  split <;> simp [Path.isAbsolute, text]

end FileTree

/-- The entry of a plain name in a directory is right below it. -/
theorem Path.route_child {name : String} (plain : IsPlainName name) (cwd : Route) (dir : Path) :
    (dir.child name).route cwd = dir.route cwd ++ [name] := by
  have relative := FileTree.isAbsolute_plain plain
  simp only [route, child, FileTree.pathNames_join _ _ relative,
    FileTree.isAbsolute_join _ _ relative, FileTree.pathNames_plain plain, List.foldl_append,
    List.foldl_cons, List.foldl_nil, plain.onward]

namespace FileTree

variable {t u : FileTree} {p : Path} {l k : Route}

theorem enter_eq {name : String} (h : t.enter l name = .ok k) : k = onward l name := by
  simp only [enter] at h
  unfold onward
  split at h
  · cases h; simp_all
  split at h
  · cases h; simp_all
  split at h
  · cases h
  split at h <;> cases h
  simp_all

theorem walk_eq {names : List String} (h : t.walk l names = .ok k) : k = names.foldl onward l := by
  induction names generalizing l with
  | nil => cases h; rfl
  | cons name names ih =>
    rw [walk] at h
    cases entered : t.enter l name with
    | error e => rw [entered] at h; cases h
    | ok m =>
      rw [entered] at h
      rw [List.foldl_cons, ← enter_eq entered]
      exact ih h

theorem placeIn_route {name : String} {slash : Bool} {place : Place}
    (h : placeIn l name slash = .ok place) : place.route = onward l name := by
  simp only [placeIn] at h
  unfold onward
  split at h
  · cases h; simp_all [Place.route]
  split at h
  · cases h; simp_all [Place.route]
  split at h
  · cases h
  · cases h; simp_all [Place.route]

/-- A path that can be located is at the route that it spells. -/
theorem locate_route {place : Place} (h : t.locate p = .ok place) :
    place.route = p.route t.workingDirectory := by
  simp only [locate] at h
  split at h
  · cases h
  split at h
  · cases h
  split at h
  · cases h
  split at h
  · rename_i none
    have empty : pathNames p = [] := by simpa using none
    cases h
    simp [Place.route, Path.route, empty]
  · rename_i last final
    have names := List.dropLast_append_getLast? last final
    cases walked : t.walk (if p.isAbsolute then [] else t.workingDirectory)
        (pathNames p).dropLast with
    | error e => rw [walked] at h; cases h
    | ok directory =>
      rw [walked] at h
      rw [placeIn_route h, walk_eq walked, Path.route]
      conv_rhs => rw [← names, List.foldl_append]
      rfl

theorem status_route {e : Entry} (h : t.status p = .ok (l, e)) :
    l = p.route t.workingDirectory ∧ t.find? l = some e := by
  unfold status at h
  cases located : t.locate p with
  | error e => rw [located] at h; cases h
  | ok place =>
    rw [located] at h
    simp only [bind, Except.bind] at h
    split at h
    · cases h
    · rename_i found
      split at h
      · cases h
      · cases h
        exact ⟨locate_route located, found⟩

end FileTree
end PlcModule
