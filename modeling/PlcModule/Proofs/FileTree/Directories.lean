import PlcModule.Proofs.FileTree.Change

/-! Where a path can be located depends on the directories alone. Writing, moving and removing
files leaves the directories in place, so a path that leads somewhere goes on doing so. -/
namespace PlcModule

/-- Two trees have the same directories and work in the same one. -/
structure FileTree.SameDirectories (t u : FileTree) : Prop where
  cwd : u.workingDirectory = t.workingDirectory
  directory : ∀ l, u.find? l = some .directory ↔ t.find? l = some .directory

theorem Path.child_text {name : String} (plain : IsPlainName name) (dir : Path) :
    ∃ between, (between = [] ∨ between = ['/']) ∧
      (dir.child name).text.toList = dir.text.toList ++ between ++ name.toList := by
  have relative := FileTree.isAbsolute_plain plain
  unfold child join
  by_cases empty : dir.text = ""
  · exact ⟨[], .inl rfl, by simp [relative, empty]⟩
  have filled : dir.text.isEmpty = false := by simpa using empty
  simp only [relative, filled, Bool.or_self, Bool.false_eq_true, if_false]
  split
  · exact ⟨[], .inl rfl, by simp⟩
  · exact ⟨['/'], .inr rfl, by simp⟩

namespace FileTree

variable {t u v : FileTree} {p q dir : Path} {l k : Route} {name : String}

namespace SameDirectories

theorem refl (t : FileTree) : SameDirectories t t :=
  ⟨rfl, fun _ => Iff.rfl⟩

theorem symm (h : SameDirectories t u) : SameDirectories u t :=
  ⟨h.cwd.symm, fun l => (h.directory l).symm⟩

theorem trans (h : SameDirectories t u) (h' : SameDirectories u v) : SameDirectories t v :=
  ⟨h'.cwd.trans h.cwd, fun l => (h'.directory l).trans (h.directory l)⟩

theorem enter (h : SameDirectories t u) (entered : t.enter l name = .ok k) :
    u.enter l name = .ok k := by
  simp only [FileTree.enter] at entered ⊢
  split at entered
  · cases entered; simp [*]
  split at entered
  · cases entered; simp [*]
  split at entered
  · cases entered
  split at entered
  · rename_i there
    cases entered
    simp [*, (h.directory _).mpr there]
  · cases entered
  · cases entered

theorem walk {names : List String} (h : SameDirectories t u) (walked : t.walk l names = .ok k) :
    u.walk l names = .ok k := by
  induction names generalizing l with
  | nil => exact walked
  | cons name names ih =>
    obtain ⟨m, entered, walked⟩ := ok_of_bind walked
    rw [FileTree.walk, h.enter entered]
    exact ih walked

theorem locate {place : Place} (h : SameDirectories t u) (located : t.locate p = .ok place) :
    u.locate p = .ok place := by
  simp only [FileTree.locate] at located ⊢
  split at located
  · cases located
  split at located
  · cases located
  split at located
  · cases located
  rename_i nul filled fits
  simp only [nul, filled, fits, if_false, h.cwd]
  split at located
  · cases located
    simp
  · rename_i last final
    obtain ⟨directory, walked, located⟩ := ok_of_bind located
    simp only [h.walk walked]
    exact located

end SameDirectories

theorem put_same (free : t.find? l ≠ some .directory) (content : ByteArray) (x : Bool) :
    SameDirectories t (t.put l (.file content x)) := by
  refine ⟨rfl, fun k => ?_⟩
  by_cases same : k = l
  · subst same
    have below : k ≠ [] := by rintro rfl; exact free (find?_root t)
    simp [find?_put_self t k _ below, free]
  · rw [find?_put_of_ne t l k _ same]

theorem erase_same (free : t.find? l ≠ some .directory) : SameDirectories t (t.erase l) := by
  refine ⟨rfl, fun k => ?_⟩
  by_cases same : k = l
  · subst same
    have below : k ≠ [] := by rintro rfl; exact free (find?_root t)
    simp [find?_erase_self t k below, free]
  · rw [find?_erase_of_ne t l k same]

theorem writeBytes_same {content : ByteArray} (h : t.writeBytes p content = .ok u) :
    SameDirectories t u := by
  obtain ⟨⟨l, x⟩, aimed, h⟩ := ok_of_bind h
  obtain ⟨-, -, free⟩ := target_route aimed
  simp only at h
  split at h <;> cases h
  · exact .refl t
  · exact put_same free _ _

theorem removeFile_same (h : t.removeFile p = .ok u) : SameDirectories t u := by
  obtain ⟨place, located, h⟩ := ok_of_bind h
  split at h
  · cases h
  split at h
  · cases h
  · cases h
  · rename_i other there
    split at h
    · cases h
    · cases h
      refine erase_same ?_
      rw [there]
      rintro same
      cases same
      exact other rfl

theorem rename_file_same {content : ByteArray} {x : Bool} (h : t.rename p q = .ok u)
    (there : t.find? (p.route t.workingDirectory) = some (.file content x)) :
    SameDirectories t u := by
  obtain ⟨place, located, h⟩ := ok_of_bind h
  obtain ⟨aim, aimed, h⟩ := ok_of_bind h
  rw [← locate_route located] at there
  split at h
  · cases h
  simp only [there] at h
  split at h
  · cases h
  split at h
  · cases h; exact .refl t
  rename_i apart
  split at h
  · cases h
  rename_i free
  cases h
  have erased : SameDirectories t (t.erase place.route) := erase_same (by simp [there])
  refine erased.trans (put_same ?_ _ _)
  rw [find?_erase_of_ne t _ _ (Ne.symm apart)]
  intro directory
  simp [directory, Entry.isDirectory] at free

theorem removed_same (t : FileTree) (p : Path) :
    SameDirectories t ((t.removeFile p).toOption.getD t) := by
  cases removed : t.removeFile p with
  | error _ => exact .refl _
  | ok _ => exact removeFile_same removed

theorem removeNamed_same (t : FileTree) (dir : Path) (names : List String) :
    SameDirectories t (t.removeNamed dir names).1 := by
  induction names generalizing t with
  | nil => exact .refl _
  | cons name names ih =>
    rw [removeNamed_cons]
    exact (removed_same t (dir.child name)).trans (ih _)

/-- A plain name is located in the directory that the rest of its path leads to. -/
theorem locate_child (t : FileTree) (dir : Path) (plain : IsPlainName name) :
    t.locate (dir.child name) =
      if '\x00' ∈ dir.text.toList ∨ '\x00' ∈ name.toList then .error .embeddedNul
      else if pathLimit < (dir.child name).text.utf8ByteSize then .error (.system .nameTooLong)
      else t.walk (if dir.isAbsolute then [] else t.workingDirectory) (pathNames dir) >>= fun d =>
        if nameLimit < name.utf8ByteSize then .error (.system .nameTooLong)
        else .ok ⟨d, some name, false⟩ := by
  have relative := isAbsolute_plain plain
  obtain ⟨between, sort, text⟩ := Path.child_text plain dir
  have nul : '\x00' ∈ (dir.child name).text.toList ↔
      '\x00' ∈ dir.text.toList ∨ '\x00' ∈ name.toList := by
    rw [text]
    rcases sort with rfl | rfl <;> simp
  have named : name.toList ≠ [] := by simpa using plain.1
  have filled : (dir.child name).text.isEmpty = false := by
    have : (dir.child name).text.toList ≠ [] := by simp [text, named]
    simpa using this
  have last : ((dir.child name).text.toList.getLast? == some '/') = false := by
    rw [text, List.getLast?_append_of_ne_nil _ named]
    simp only [beq_eq_false_iff_ne]
    intro slash
    exact plain.2.1 (List.mem_of_getLast? slash)
  have names : pathNames (dir.child name) = pathNames dir ++ [name] := by
    rw [Path.child, pathNames_join _ _ relative, pathNames_plain plain]
  have absolute : (dir.child name).isAbsolute = dir.isAbsolute := isAbsolute_join _ _ relative
  simp [locate, nul, filled, last, names, absolute, placeIn, plain.2.2.1, plain.2.2.2]

/-- What leads to one entry of a directory leads to another one too, if its name and path are not
too long. -/
theorem locate_sibling {m n : String} {place : Place} (located : t.locate (dir.child m) = .ok place)
    (plain : IsPlainName m) (plain' : IsPlainName n) (nul : '\x00' ∉ n.toList)
    (short : n.utf8ByteSize ≤ nameLimit) (fits : (dir.child n).text.utf8ByteSize ≤ pathLimit) :
    t.locate (dir.child n) = .ok ⟨place.directory, some n, false⟩ := by
  rw [locate_child t dir plain] at located
  split at located
  · cases located
  rename_i clean
  split at located
  · cases located
  obtain ⟨d, walked, located⟩ := ok_of_bind located
  split at located
  · cases located
  · cases located
    have clean : '\x00' ∉ dir.text.toList := fun member => clean (.inl member)
    rw [locate_child t dir plain']
    simp [clean, nul, Nat.not_lt.mpr fits, walked, bind, Except.bind, Nat.not_lt.mpr short]

/-- What leads to one entry of a directory leads to any other that can be located in some tree. -/
theorem locate_beside {m n : String} {place aim : Place}
    (located : t.locate (dir.child m) = .ok place) (elsewhere : u.locate (dir.child n) = .ok aim)
    (plain : IsPlainName m) (plain' : IsPlainName n) :
    t.locate (dir.child n) = .ok ⟨place.directory, some n, false⟩ := by
  rw [locate_child u dir plain'] at elsewhere
  split at elsewhere
  · cases elsewhere
  rename_i clean
  split at elsewhere
  · cases elsewhere
  rename_i fits
  obtain ⟨d, -, elsewhere⟩ := ok_of_bind elsewhere
  split at elsewhere
  · cases elsewhere
  rename_i short
  exact locate_sibling located plain plain' (fun nul => clean (.inr nul)) (Nat.le_of_not_lt short)
    (Nat.le_of_not_lt fits)

theorem place_child {place : Place} (located : t.locate (dir.child name) = .ok place)
    (plain : IsPlainName name) : place.name = some name ∧ place.slash = false := by
  rw [locate_child t dir plain] at located
  split at located
  · cases located
  split at located
  · cases located
  obtain ⟨d, _, located⟩ := ok_of_bind located
  split at located
  · cases located
  · cases located; exact ⟨rfl, rfl⟩

end FileTree
end PlcModule
