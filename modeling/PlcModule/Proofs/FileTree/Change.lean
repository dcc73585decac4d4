import Mathlib.Data.Set.Insert
import PlcModule.Build.Intermediates
import PlcModule.Proofs.FileTree.Routes

/-! What operations on files leave alone. A change is bounded by the routes that it may touch
and those where it may make a directory out of nothing; bounded changes compose. -/
namespace PlcModule

theorem ok_of_bind {ε α β : Type} {x : Except ε α} {f : α → Except ε β} {b : β}
    (h : x >>= f = .ok b) : ∃ a, x = .ok a ∧ f a = .ok b := by
  cases x with
  | error e => cases h
  | ok a => exact ⟨a, rfl, h⟩

namespace FileTree

/-- From one tree to another nothing differs off the touched routes, but for directories that
are new at the made ones. -/
structure Change (touched made : Set Route) (t u : FileTree) : Prop where
  cwd : u.workingDirectory = t.workingDirectory
  find : ∀ l ∉ touched, u.find? l = t.find? l ∨
    l ∈ made ∧ t.find? l = none ∧ u.find? l = some .directory

variable {t u v : FileTree} {p q : Path} {l k : Route} {touched touched' made made' : Set Route}

namespace Change

theorem refl (touched made : Set Route) (t : FileTree) : Change touched made t t :=
  ⟨rfl, fun _ _ => .inl rfl⟩

theorem mono (h : Change touched made t u) (wider : touched ⊆ touched') (more : made ⊆ made') :
    Change touched' made' t u := by
  refine ⟨h.cwd, fun l off => ?_⟩
  rcases h.find l (fun on => off (wider on)) with same | ⟨at_, rest⟩
  · exact .inl same
  · exact .inr ⟨more at_, rest⟩

theorem trans (h : Change touched made t u) (h' : Change touched made u v) :
    Change touched made t v := by
  refine ⟨h'.cwd.trans h.cwd, fun l off => ?_⟩
  rcases h.find l off with same | ⟨at_, none, new⟩
  · rw [← same]; exact h'.find l off
  · rcases h'.find l off with same | ⟨_, gone, _⟩
    · exact .inr ⟨at_, none, same.trans new⟩
    · rw [new] at gone; cases gone

/-- Where nothing may be made, what is off the touched routes stays as it is. -/
theorem find_eq (h : Change touched ∅ t u) (off : l ∉ touched) : u.find? l = t.find? l := by
  rcases h.find l off with same | ⟨impossible, _⟩
  · exact same
  · exact absurd impossible (Set.notMem_empty l)

/-- What was there off the touched routes is there still. -/
theorem find_some {e : Entry} (h : Change touched made t u) (off : l ∉ touched)
    (there : t.find? l = some e) : u.find? l = some e := by
  rcases h.find l off with same | ⟨_, none, _⟩
  · exact same.trans there
  · rw [there] at none; cases none

end Change

theorem put_change (t : FileTree) (l : Route) (e : Entry) : Change {l} ∅ t (t.put l e) :=
  ⟨rfl, fun _ off => .inl (find?_put_of_ne t l _ e off)⟩

theorem erase_change (t : FileTree) (l : Route) : Change {l} ∅ t (t.erase l) :=
  ⟨rfl, fun _ off => .inl (find?_erase_of_ne t l _ off)⟩

theorem Place.route_ne_nil {place : Place} (named : place.name.isNone = false) :
    place.route ≠ [] := by
  cases name : place.name with
  | none => rw [name] at named; cases named
  | some n => simp [Place.route, name]

theorem target_route {x : Bool} (h : t.target p = .ok (l, x)) :
    l = p.route t.workingDirectory ∧ l ≠ [] ∧ t.find? l ≠ some .directory := by
  obtain ⟨place, located, h⟩ := ok_of_bind h
  split at h
  · cases h
  · rename_i open_
    have named : place.name.isNone = false := by
      simp only [Bool.or_eq_true, not_or] at open_
      exact Bool.eq_false_iff.mpr open_.1
    have route := locate_route located
    have below := Place.route_ne_nil named
    split at h <;> cases h <;> simp_all

theorem writeBytes_change {content : ByteArray} (h : t.writeBytes p content = .ok u) :
    Change {p.route t.workingDirectory} ∅ t u := by
  obtain ⟨⟨l, x⟩, aimed, h⟩ := ok_of_bind h
  rw [← (target_route aimed).1]
  simp only at h
  split at h <;> cases h
  · exact .refl _ _ _
  · exact put_change t l _

/-- What was written is there, unless a device keeps nothing. -/
theorem writeBytes_find {content : ByteArray} (h : t.writeBytes p content = .ok u) :
    (∃ x, u.find? (p.route t.workingDirectory) = some (.file content x)) ∨
      u = t ∧ t.find? (p.route t.workingDirectory) = some .device := by
  obtain ⟨⟨l, x⟩, aimed, h⟩ := ok_of_bind h
  obtain ⟨route, below, -⟩ := target_route aimed
  rw [← route]
  simp only at h
  split at h <;> cases h
  · exact .inr ⟨rfl, by assumption⟩
  · exact .inl ⟨x, find?_put_self t l _ below⟩

theorem copyFile_change (h : t.copyFile p q = .ok u) :
    Change {q.route t.workingDirectory} ∅ t u := by
  obtain ⟨⟨l, e⟩, _, h⟩ := ok_of_bind h
  cases e with
  | directory => cases h
  | device => cases h
  | file content x =>
    obtain ⟨⟨k, y⟩, aimed, h⟩ := ok_of_bind h
    rw [← (target_route aimed).1]
    simp only at h
    split at h
    · cases h; exact .refl _ _ _
    · split at h <;> cases h
      · exact (put_change t k _).trans (put_change _ k _)
      · exact put_change t k _

theorem removeFile_change (h : t.removeFile p = .ok u) :
    Change {p.route t.workingDirectory} ∅ t u ∧ u.find? (p.route t.workingDirectory) = none := by
  obtain ⟨place, located, h⟩ := ok_of_bind h
  rw [← locate_route located]
  split at h
  · cases h
  rename_i named
  have below := Place.route_ne_nil (Bool.eq_false_iff.mpr named)
  split at h
  · cases h
  · cases h
  · split at h
    · cases h
    · cases h
      exact ⟨erase_change t _, find?_erase_self t _ below⟩

/-- The same where what cannot be removed stays. -/
theorem removed_change (t : FileTree) (p : Path) :
    Change {p.route t.workingDirectory} ∅ t ((t.removeFile p).toOption.getD t) := by
  cases removed : t.removeFile p with
  | error _ => exact .refl _ _ _
  | ok _ => exact (removeFile_change removed).1

/-- A path that can be located is removed, or nothing or a directory is there. -/
theorem removeFile_error {place : Place} {cause : Fault} (located : t.locate p = .ok place)
    (named : place.name.isNone = false) (plain : place.slash = false)
    (h : t.removeFile p = .error cause) :
    t.find? (p.route t.workingDirectory) = none ∧ cause = .notFound ∨
      t.find? (p.route t.workingDirectory) = some .directory := by
  rw [← locate_route located]
  simp only [removeFile, located, bind, Except.bind, named, plain] at h
  simp only [Bool.false_eq_true, if_false] at h
  split at h
  · rename_i none
    cases h
    exact .inl ⟨none, rfl⟩
  · rename_i directory
    exact .inr directory
  · cases h

/-- Moving what is no directory touches the two ends of the move. -/
theorem rename_change (h : t.rename p q = .ok u)
    (plain : t.find? (p.route t.workingDirectory) ≠ some .directory) :
    Change {p.route t.workingDirectory, q.route t.workingDirectory} ∅ t u := by
  obtain ⟨place, located, h⟩ := ok_of_bind h
  obtain ⟨aim, aimed, h⟩ := ok_of_bind h
  rw [← locate_route located, ← locate_route aimed] at *
  split at h
  · cases h
  simp only at h
  split at h
  · cases h
  · rename_i directory
    exact absurd directory plain
  split at h
  · cases h
  split at h
  · cases h
    exact .refl _ _ _
  split at h
  · cases h
  cases h
  exact ((erase_change t _).mono (by simp) le_rfl).trans
    ((put_change _ _ _).mono (by simp) le_rfl)

/-- A file that is moved replaces what was at its goal and is gone from where it was. -/
theorem rename_file {content : ByteArray} {x : Bool} (h : t.rename p q = .ok u)
    (there : t.find? (p.route t.workingDirectory) = some (.file content x))
    (apart : p.route t.workingDirectory ≠ q.route t.workingDirectory) :
    Change {p.route t.workingDirectory, q.route t.workingDirectory} ∅ t u ∧
    u.find? (q.route t.workingDirectory) = some (.file content x) ∧
    u.find? (p.route t.workingDirectory) = none ∧
    t.find? (q.route t.workingDirectory) ≠ some .directory := by
  have change := rename_change h (by simp [there])
  obtain ⟨place, located, h⟩ := ok_of_bind h
  obtain ⟨aim, aimed, h⟩ := ok_of_bind h
  rw [← locate_route located, ← locate_route aimed] at *
  split at h
  · cases h
  rename_i named
  simp only [Bool.or_eq_true, not_or] at named
  have below := Place.route_ne_nil (Bool.eq_false_iff.mpr named.1)
  have goal := Place.route_ne_nil (Bool.eq_false_iff.mpr named.2)
  simp only [there, apart, if_false] at h
  split at h
  · cases h
  split at h
  · cases h
  rename_i free
  cases h
  refine ⟨change, find?_put_self _ _ _ goal, ?_, ?_⟩
  · rw [find?_put_of_ne _ _ _ _ apart]
    exact find?_erase_self t _ below
  · intro directory
    simp [directory, Entry.isDirectory] at free

theorem makeDirectory_change (h : t.makeDirectory p = .ok u) :
    Change ∅ {p.route t.workingDirectory} t u := by
  obtain ⟨place, located, h⟩ := ok_of_bind h
  rw [← locate_route located]
  split at h
  · cases h
  · rename_i free
    simp only [Bool.or_eq_true, not_or] at free
    have below := Place.route_ne_nil (Bool.eq_false_iff.mpr free.1)
    cases h
    refine ⟨rfl, fun l _ => ?_⟩
    by_cases same : l = place.route
    · subst same
      exact .inr ⟨rfl, by simpa using free.2, find?_put_self t _ _ below⟩
    · exact .inl (find?_put_of_ne t _ l _ same)

/-- The routes of a path, its parent, the parent of that and so on. -/
def wayTo (cwd : Route) (p : Path) : Set Route :=
  {l | ∃ q, p.OnWay q ∧ l = q.route cwd}

/-- What a path makes, and its parents do, is all that is made on the way to it. -/
theorem makeDirectoriesIn_change {made : Route → Path → Set Route}
    (atOnce : ∀ {t u p}, makeDirectory t p = .ok u → Change ∅ (made t.workingDirectory p) t u)
    (above : ∀ cwd {p q}, p.parent = some q → made cwd q ⊆ made cwd p) (tries : Nat) (t : FileTree)
    (p : Path) : Change ∅ (made t.workingDirectory p) t (makeDirectoriesIn tries t p).1 := by
  induction tries generalizing p with
  | zero => exact .refl _ _ _
  | succ tries ih =>
    simp only [makeDirectoriesIn]
    split
    · exact .refl _ _ _
    split
    · rename_i made; exact atOnce made
    · split
      · exact .refl _ _ _
      rename_i q parent
      have first := (ih q).mono le_rfl (above t.workingDirectory parent)
      split
      · rename_i same; rw [same] at first; exact first
      · rename_i same
        rw [same] at first
        split
        · rename_i made
          exact first.trans (first.cwd ▸ atOnce made)
        · exact first
    · exact .refl _ _ _

theorem makeDirectories_change (t : FileTree) (p : Path) :
    Change ∅ (wayTo t.workingDirectory p) t (t.makeDirectories p).1 := by
  refine makeDirectoriesIn_change (fun {t u p} made => ?_) (fun cwd p q parent => ?_) _ t p
  · exact (makeDirectory_change made).mono le_rfl (by simpa using ⟨p, .here, rfl⟩)
  · rintro l ⟨r, onWay, rfl⟩
    exact ⟨r, .trans (.up .here parent) onWay, rfl⟩

/-- Files go one after the other, and how many have gone does not matter to the rest. -/
theorem removeNamed_cons (t : FileTree) (dir : Path) (name : String) (names : List String) :
    (t.removeNamed dir (name :: names)).1 =
      (((t.removeFile (dir.child name)).toOption.getD t).removeNamed dir names).1 := by
  have trees (t : FileTree) (names : List String) : (t.removeNamed dir names).1 =
      names.foldl (fun t name => (t.removeFile (dir.child name)).toOption.getD t) t := by
    refine (List.foldl_hom Prod.fst fun x name => ?_).symm
    cases x.1.removeFile (dir.child name) <;> rfl
  rw [trees, trees, List.foldl_cons]

theorem removeNamed_change (t : FileTree) (dir : Path) (names : List String) :
    Change {l | ∃ name ∈ names, l = (dir.child name).route t.workingDirectory} ∅ t
      (t.removeNamed dir names).1 := by
  induction names generalizing t with
  | nil => exact .refl _ _ _
  | cons name names ih =>
    rw [removeNamed_cons]
    have first := removed_change t (dir.child name)
    have rest := ih ((t.removeFile (dir.child name)).toOption.getD t)
    rw [first.cwd] at rest
    refine (first.mono ?_ le_rfl).trans (rest.mono ?_ le_rfl)
    · rintro l rfl
      exact ⟨name, List.mem_cons_self, rfl⟩
    · rintro l ⟨other, member, rfl⟩
      exact ⟨other, List.mem_cons_of_mem _ member, rfl⟩

end FileTree
end PlcModule
