import PlcModule.Proofs.FileTree.Parents

/-! What a walk looks at. Only names that lead down are looked up; so two trees that have the same
there lead alike, and directories are made nowhere else. -/
namespace PlcModule

/-- The routes that the names of a path lead down to, one after the other. -/
def enteredFrom (l : Route) : List String → List Route
  | [] => []
  | name :: names =>
    if name = "." ∨ name = ".." then enteredFrom (onward l name) names
    else (l ++ [name]) :: enteredFrom (l ++ [name]) names

theorem enteredFrom_append (l : Route) (names more : List String) :
    enteredFrom l (names ++ more) = enteredFrom l names ++ enteredFrom (names.foldl onward l) more := by
  induction names generalizing l with
  | nil => rfl
  | cons name names ih =>
    by_cases idle : name = "." ∨ name = ".."
    · simp only [List.cons_append, enteredFrom, if_pos idle, List.foldl_cons]
      exact ih _
    · obtain ⟨here, up⟩ := not_or.mp idle
      have down : onward l name = l ++ [name] := by simp [onward, here, up]
      simp only [List.cons_append, enteredFrom, if_neg idle, List.foldl_cons, down]
      rw [ih]

namespace Path

/-- Where the names of a path start from. -/
def start (cwd : Route) (p : Path) : Route :=
  if p.isAbsolute then [] else cwd

/-- The routes that the names of a path lead down to. -/
def entered (cwd : Route) (p : Path) : List Route :=
  enteredFrom (p.start cwd) (FileTree.pathNames p)

theorem entered_child {name : String} (plain : IsPlainName name) (cwd : Route) (dir : Path) :
    enteredFrom ((dir.child name).start cwd) (FileTree.pathNames (dir.child name)).dropLast =
      dir.entered cwd := by
  have relative := FileTree.isAbsolute_plain plain
  rw [start, child, FileTree.isAbsolute_join _ _ relative, FileTree.pathNames_join _ _ relative,
    FileTree.pathNames_plain plain, List.dropLast_concat]
  rfl

/-- What leads to a parent is on the way to the path. -/
theorem OnWay.entered_subset {p q : Path} (way : p.OnWay q) (cwd : Route) :
    q.entered cwd ⊆ p.entered cwd := by
  induction way with
  | here => exact List.Subset.refl _
  | up _ parent ih =>
    obtain ⟨absolute, names, whole⟩ := parent_names parent
    refine List.Subset.trans ?_ ih
    rw [entered, entered, start, start, absolute, ← whole, enteredFrom_append]
    exact List.subset_append_left _ _

end Path

namespace FileTree

variable {t u : FileTree} {p q : Path} {l k : Route} {place : Place}

/-- A walk that gets through has entered directories only. -/
theorem walk_entered {names : List String} (h : t.walk l names = .ok k) :
    ∀ m ∈ enteredFrom l names, t.find? m = some .directory := by
  induction names generalizing l with
  | nil => simp [enteredFrom]
  | cons name names ih =>
    obtain ⟨m, entered, walked⟩ := ok_of_bind h
    have onward := enter_eq entered
    by_cases idle : name = "." ∨ name = ".."
    · simp only [enteredFrom, if_pos idle]
      exact onward ▸ ih walked
    · obtain ⟨here, up⟩ := not_or.mp idle
      have down : m = l ++ [name] := by simp [onward, PlcModule.onward, here, up]
      subst down
      simp only [enteredFrom, if_neg idle, List.forall_mem_cons]
      refine ⟨?_, ih walked⟩
      simp only [enter, here, up, if_false] at entered
      split at entered
      · cases entered
      split at entered
      · assumption
      · cases entered
      · cases entered

/-- A located path has gone through directories, and a name at its end leads down. -/
theorem locate_entered (h : t.locate p = .ok place) :
    (∀ m ∈ enteredFrom (p.start t.workingDirectory) (pathNames p).dropLast,
      t.find? m = some .directory) ∧
    ∀ m, m ∈ p.entered t.workingDirectory ↔
      m ∈ enteredFrom (p.start t.workingDirectory) (pathNames p).dropLast ∨
        m = place.route ∧ place.name.isSome = true := by
  simp only [locate] at h
  split at h
  · cases h
  split at h
  · cases h
  split at h
  · cases h
  split at h
  · rename_i none
    have empty : pathNames p = [] := by simpa using none
    cases h
    simp [Path.entered, empty, enteredFrom]
  · rename_i last final
    obtain ⟨directory, walked, h⟩ := ok_of_bind h
    refine ⟨walk_entered walked, fun m => ?_⟩
    have names := List.dropLast_append_getLast? last final
    have walked := walk_eq walked
    change directory = (pathNames p).dropLast.foldl onward (p.start t.workingDirectory) at walked
    have whole : p.entered t.workingDirectory =
        enteredFrom (p.start t.workingDirectory) (pathNames p).dropLast ++
          enteredFrom directory [last] := by
      rw [walked, ← enteredFrom_append, names]
      rfl
    rw [whole, List.mem_append]
    refine or_congr_right ?_
    simp only [placeIn] at h
    by_cases stay : last = "."
    · simp only [stay, if_true] at h
      cases h
      simp [enteredFrom, stay]
    by_cases up : last = ".."
    · simp only [up] at h
      cases h
      simp [enteredFrom, up]
    simp only [stay, up, if_false] at h
    split at h
    · cases h
    · cases h
      simp [enteredFrom, stay, up, Place.route]

/-- A directory is made only where a path leads down. -/
theorem makeDirectories_entered (t : FileTree) (p : Path) :
    Change ∅ {l | l ∈ p.entered t.workingDirectory} t (t.makeDirectories p).1 := by
  refine @makeDirectoriesIn_change (fun cwd p => {l | l ∈ p.entered cwd}) ?_ ?_ _ t p
  · intro t u p made
    refine (makeDirectory_change made).mono le_rfl ?_
    obtain ⟨place, located, h⟩ := ok_of_bind made
    rintro l rfl
    refine ((locate_entered located).2 _).mpr (.inr ⟨(locate_route located).symm, ?_⟩)
    split at h
    · cases h
    · rename_i free
      simp only [Bool.or_eq_true, not_or] at free
      simpa [Option.isSome_iff_ne_none] using free.1
  · intro cwd p q parent
    exact (Path.OnWay.up .here parent).entered_subset cwd

/-- A path is a directory's, and so is all that leads down to it. -/
def Stands (t : FileTree) (p : Path) : Prop :=
  (∀ l ∈ p.entered t.workingDirectory, t.find? l = some .directory) ∧
    (p.text ≠ "" → t.find? (p.route t.workingDirectory) = some .directory)

theorem stands_of_made (h : t.makeDirectory p = .ok u) : u.Stands p := by
  have change := makeDirectory_change h
  obtain ⟨place, located, h⟩ := ok_of_bind h
  obtain ⟨through, whole⟩ := locate_entered located
  have route := locate_route located
  rw [← route] at change
  split at h
  · cases h
  rename_i free
  simp only [Bool.or_eq_true, not_or] at free
  have below := Place.route_ne_nil (Bool.eq_false_iff.mpr free.1)
  cases h
  have new : (t.put place.route .directory).find? place.route = some .directory :=
    find?_put_self t _ _ below
  refine ⟨fun l entered => ?_, fun _ => route ▸ new⟩
  rcases (whole l).mp entered with before | ⟨rfl, -⟩
  · exact change.find_some (Set.notMem_empty _) (through l before)
  · exact new

theorem stands_of_isDirectory (h : t.isDirectory p = true) : t.Stands p := by
  unfold isDirectory at h
  split at h
  · rename_i found
    obtain ⟨rfl, there⟩ := status_route found
    obtain ⟨place, located, -⟩ := ok_of_bind found
    obtain ⟨through, whole⟩ := locate_entered located
    refine ⟨fun l entered => ?_, fun _ => there⟩
    rcases (whole l).mp entered with before | ⟨rfl, -⟩
    · exact through l before
    · rw [locate_route located]
      exact there
  · cases h

/-- Directories that were made stand. -/
theorem makeDirectories_stands (h : (t.makeDirectories p).2 = .ok ()) :
    (t.makeDirectories p).1.Stands p := by
  unfold makeDirectories at h ⊢
  simp only [makeDirectoriesIn] at h ⊢
  by_cases empty : p.text = ""
  · have none : pathNames p = [] := by simp [pathNames, empty, Text.splitAt]
    have nothing : p.text.isEmpty = true := by simpa using empty
    simp only [nothing, if_true]
    exact ⟨by simp [Path.entered, none, enteredFrom], fun filled => absurd empty filled⟩
  have filled : p.text.isEmpty = false := by simpa using empty
  simp only [filled, Bool.false_eq_true, if_false] at h ⊢
  split at h
  · rename_i made
    exact stands_of_made made
  · split at h
    · cases h
    split at h
    · cases h
    · split at h
      · rename_i made
        exact stands_of_made made
      · split at h
        · rename_i there
          exact stands_of_isDirectory there
        · cases h
  · split at h
    · rename_i there
      exact stands_of_isDirectory there
    · cases h

end FileTree
end PlcModule
