import PlcModule.Proofs.FileTree.Reading

/-! What is gone once files have been removed by name. A file goes if some name leads to it; in
whatever order the names come, nothing else changes. -/
namespace PlcModule.FileTree

variable {t u v : FileTree} {p dir : Path} {l d : Route} {name : String} {e : Entry}

/-- A path leads to a name in a directory that is there, with no separator after the name. -/
def Reaches (t : FileTree) (p : Path) (l : Route) : Prop :=
  ∃ place, t.locate p = .ok place ∧ place.name.isNone = false ∧ place.slash = false ∧
    place.route = l

theorem SameDirectories.reaches (same : SameDirectories t u) : t.Reaches p l ↔ u.Reaches p l := by
  constructor
  · rintro ⟨place, located, rest⟩
    exact ⟨place, same.locate located, rest⟩
  · rintro ⟨place, located, rest⟩
    exact ⟨place, same.symm.locate located, rest⟩

theorem Reaches.route_eq (reaches : t.Reaches p l) : l = p.route t.workingDirectory := by
  obtain ⟨place, located, -, -, rfl⟩ := reaches
  exact locate_route located

/-- One tree is the other without what was at some routes. -/
structure Without (gone : Set Route) (t u : FileTree) : Prop where
  cwd : u.workingDirectory = t.workingDirectory
  none : ∀ l ∈ gone, u.find? l = none
  kept : ∀ l ∉ gone, u.find? l = t.find? l

namespace Without

variable {gone gone' : Set Route}

theorem trans (h : Without gone t u) (h' : Without gone' u v) : Without (gone ∪ gone') t v := by
  refine ⟨h'.cwd.trans h.cwd, fun l at_ => ?_, fun l off => ?_⟩
  · by_cases later : l ∈ gone'
    · exact h'.none l later
    · rw [h'.kept l later]
      exact h.none l (at_.resolve_right later)
  · obtain ⟨before, after⟩ := not_or.mp off
    rw [h'.kept l after, h.kept l before]

theorem refl (t : FileTree) : Without ∅ t t :=
  ⟨rfl, fun l at_ => absurd at_ (Set.notMem_empty l), fun _ _ => rfl⟩

end Without

theorem erase_without (t : FileTree) (below : l ≠ []) : Without {l} t (t.erase l) := by
  refine ⟨rfl, ?_, fun k off => find?_erase_of_ne t l k off⟩
  rintro k rfl
  exact find?_erase_self t k below

theorem Change.untouched (change : Change {l} ∅ t u) (same : u.find? l = t.find? l) :
    Without ∅ t u := by
  refine ⟨change.cwd, fun k at_ => absurd at_ (Set.notMem_empty k), fun k _ => ?_⟩
  by_cases here : k = l
  · rw [here, same]
  · exact change.find_eq here

theorem Without.sameDirectories (h : Without ∅ t u) : SameDirectories t u :=
  ⟨h.cwd, fun l => by rw [h.kept l (Set.notMem_empty l)]⟩

/-- What a path takes away when it is removed. -/
def taken (t : FileTree) (p : Path) : Set Route :=
  {l | t.Reaches p l ∧ t.find? l ≠ some .directory}

theorem SameDirectories.taken (same : SameDirectories t u) : t.taken p = u.taken p := by
  ext l
  exact and_congr same.reaches (not_congr (same.directory l).symm)

theorem removeFile_without (t : FileTree) (p : Path) :
    Without (t.taken p) t ((t.removeFile p).toOption.getD t) := by
  cases located : t.locate p with
  | error cause =>
    have nothing : t.taken p = ∅ := by
      ext l
      simp [taken, Reaches, located]
    simp only [removeFile, located, nothing, bind, Except.bind]
    exact .refl t
  | ok place =>
    have reaches {l : Route} : l ∈ t.taken p ↔ (place.name.isNone = false ∧ place.slash = false ∧
        place.route = l) ∧ t.find? l ≠ some .directory := by
      simp [taken, Reaches, located]
    simp only [removeFile, located, bind, Except.bind]
    have idle (none : ∀ l ∈ t.taken p, t.find? l = none) : Without (t.taken p) t t :=
      ⟨rfl, none, fun _ _ => rfl⟩
    by_cases unnamed : place.name.isNone = true
    · simp only [unnamed, if_true]
      refine idle fun l at_ => ?_
      rw [(reaches.mp at_).1.1] at unnamed
      cases unnamed
    simp only [unnamed, Bool.false_eq_true, if_false]
    split
    · rename_i none
      refine idle fun l at_ => ?_
      rw [← (reaches.mp at_).1.2.2]
      exact none
    · rename_i directory
      refine idle fun l at_ => absurd directory ?_
      rw [(reaches.mp at_).1.2.2]
      exact (reaches.mp at_).2
    · rename_i other there
      split
      · rename_i slash
        refine idle fun l at_ => ?_
        rw [(reaches.mp at_).1.2.1] at slash
        cases slash
      · rename_i plain
        have named := Bool.eq_false_iff.mpr unnamed
        have only : t.taken p = {place.route} := by
          ext l
          rw [reaches]
          constructor
          · rintro ⟨⟨-, -, rfl⟩, -⟩
            rfl
          · rintro rfl
            refine ⟨⟨named, Bool.eq_false_iff.mpr plain, rfl⟩, fun directory => ?_⟩
            rw [there] at directory
            exact other (Option.some.inj directory)
        rw [only]
        exact erase_without t (Place.route_ne_nil named)

/-- Removing a path that can be located fails at a directory or where nothing is. -/
theorem removeFile_located {place : Place} (located : t.locate p = .ok place)
    (plain : place.slash = false) :
    (place.name.isNone = true ∨ t.find? place.route = some .directory) ∧
        t.removeFile p = .error (.system .isADirectory) ∨
      place.name.isNone = false ∧ t.find? place.route ≠ some .directory ∧
        (t.find? place.route = none ∧ t.removeFile p = .error .notFound ∨
          t.removeFile p = .ok (t.erase place.route)) := by
  simp only [removeFile, located, bind, Except.bind]
  by_cases unnamed : place.name.isNone = true
  · simp [unnamed]
  have named := Bool.eq_false_iff.mpr unnamed
  simp only [named, Bool.false_eq_true, if_false, plain]
  split
  · rename_i none
    exact .inr ⟨trivial, by simp [none], .inl ⟨none, rfl⟩⟩
  · rename_i directory
    exact .inl ⟨.inr directory, rfl⟩
  · rename_i other there
    refine .inr ⟨trivial, fun directory => ?_, .inr rfl⟩
    rw [there] at directory
    exact other (Option.some.inj directory)

/-- Nothing is where a file was removed. -/
theorem removeFile_gone (h : t.removeFile p = .ok u) : u.pathExists p = false := by
  have gone := (removeFile_change h).2
  have same := removeFile_same h
  obtain ⟨place, located, -⟩ := ok_of_bind h
  rw [← locate_route located] at gone
  simp [pathExists, status, same.locate located, gone, bind, Except.bind, Except.isOk,
    Except.toBool]

/-- Nothing is where there was none to remove. -/
theorem removeFile_missing (h : t.removeFile p = .error .notFound) : t.pathExists p = false := by
  cases located : t.locate p with
  | error cause =>
    simp [pathExists, status, located, bind, Except.bind, Except.isOk, Except.toBool]
  | ok place =>
    simp only [removeFile, located, bind, Except.bind] at h
    split at h
    · cases h
    split at h
    · rename_i none
      simp [pathExists, status, located, none, bind, Except.bind, Except.isOk, Except.toBool]
    · cases h
    · split at h <;> cases h

/-- After an attempt to remove it a path with a name leads to no file. -/
theorem removed_notFile (named : ∀ place, t.locate p = .ok place → place.name.isNone = false) :
    ((t.removeFile p).toOption.getD t).isFile p = false := by
  refine Bool.eq_false_iff.mpr fun file => ?_
  cases removed : t.removeFile p with
  | ok u =>
    rw [removed] at file
    have there : u.pathExists p = true := pathExists_of_isFile file
    rw [removeFile_gone removed] at there
    cases there
  | error cause =>
    rw [removed] at file
    obtain ⟨place, content, x, located, plain, there⟩ := isFile_located file
    change t.locate p = .ok place at located
    change t.find? place.route = _ at there
    rcases removeFile_located located plain with ⟨unnamed | directory, -⟩ | ⟨-, -, ⟨none, -⟩ | went⟩
    · rw [named place located] at unnamed
      cases unnamed
    · rw [there] at directory
      cases directory
    · rw [there] at none
      cases none
    · rw [went] at removed
      cases removed

/-- What some of the names take away from a directory. -/
def takenNamed (t : FileTree) (dir : Path) (names : List String) : Set Route :=
  {l | ∃ name ∈ names, l ∈ t.taken (dir.child name)}

theorem removeNamed_without (t : FileTree) (dir : Path) (names : List String) :
    Without (t.takenNamed dir names) t (t.removeNamed dir names).1 := by
  induction names generalizing t with
  | nil =>
    have nothing : t.takenNamed dir [] = ∅ := by simp [takenNamed]
    rw [nothing]
    exact .refl _
  | cons name names ih =>
    have same := removed_same t (dir.child name)
    have whole : t.takenNamed dir (name :: names) = t.taken (dir.child name) ∪
        ((t.removeFile (dir.child name)).toOption.getD t).takenNamed dir names := by
      ext l
      simp [takenNamed, same.taken]
    rw [removeNamed_cons, whole]
    exact (removeFile_without t (dir.child name)).trans (ih _)

theorem mem_entries {entries : List (Route × Entry)} (distinct : (entries.map Prod.fst).Nodup) :
    (l, e) ∈ entries ↔ entries.lookup l = some e := by
  induction entries with
  | nil => simp
  | cons x rest ih =>
    obtain ⟨k, e'⟩ := x
    rw [List.map_cons, List.nodup_cons] at distinct
    obtain ⟨fresh, distinct⟩ := distinct
    by_cases here : l = k
    · subst here
      have late : (l, e) ∉ rest := fun later => fresh (List.mem_map.mpr ⟨_, later, rfl⟩)
      simp [late, eq_comm]
    · have other : (l == k) = false := by simpa using here
      simp only [List.mem_cons, Prod.mk.injEq, here, false_and, false_or, List.lookup_cons, other]
      exact ih distinct

/-- A tree of files and directories has no devices. -/
theorem find_ne_device (plain : ∀ x ∈ t.entries, (x.2.isFile || x.2.isDirectory) = true)
    (l : Route) : t.find? l ≠ some .device := by
  intro device
  rw [find?] at device
  split at device
  · cases device
  · cases plain _ ((mem_entries t.distinct).mpr device)

/-- The children of a directory are the entries right below it. -/
theorem mem_children : (name, e) ∈ t.children d ↔ t.find? (d ++ [name]) = some e := by
  have below : d ++ [name] ≠ [] := by simp
  rw [find?, if_neg below, ← mem_entries t.distinct, children, List.mem_filterMap]
  constructor
  · rintro ⟨⟨l, e'⟩, there, eq⟩
    cases last : l.getLast? with
    | none => simp [last] at eq
    | some n =>
      simp only [last] at eq
      split at eq
      · rename_i front
        cases eq
        rw [← front, List.dropLast_append_getLast? _ last]
        exact there
      · cases eq
  · intro there
    exact ⟨_, there, by simp⟩

/-- Listed are the files with an extension of intermediates, if the directory is there. -/
theorem mem_intermediates : name ∈ t.intermediates dir ↔
    t.isDirectory dir = true ∧ isIntermediateName name = true ∧
      ∃ e, t.find? (dir.route t.workingDirectory ++ [name]) = some e ∧ e.isFile = true := by
  rcases found : t.status dir with e | ⟨l, e⟩
  · simp [intermediates, isDirectory, found]
  cases e with
  | directory =>
    obtain ⟨rfl, -⟩ := status_route found
    simp only [intermediates, isDirectory, found, List.mem_map, List.mem_filter, Bool.and_eq_true,
      Prod.exists, mem_children, true_and]
    constructor
    · rintro ⟨n, e, ⟨there, file, ends⟩, rfl⟩
      exact ⟨ends, e, there, file⟩
    · rintro ⟨ends, e, there, file⟩
      exact ⟨name, e, ⟨there, file, ends⟩, rfl⟩
  | file content executable => simp [intermediates, isDirectory, found]
  | device => simp [intermediates, isDirectory, found]

end PlcModule.FileTree
