import PlcModule.Proofs.FileTree.Reading
import PlcModule.Proofs.FileTree.Removal

/-! Where files can be written and moved to. As long as the directories stay as they are, so does
what can be written. -/
namespace PlcModule.FileTree

variable {t u : FileTree} {p q : Path}

/-- The directories are told by the entries. -/
theorem sameDirectories_iff : SameDirectories t u ↔
    u.workingDirectory = t.workingDirectory ∧
    (∀ e ∈ t.entries, e.2.isDirectory = true → (u.find? e.1).any Entry.isDirectory = true) ∧
    ∀ e ∈ u.entries, e.2.isDirectory = true → (t.find? e.1).any Entry.isDirectory = true := by
  have directory (e : Entry) : e.isDirectory = true ↔ e = .directory := by
    cases e <;> simp [Entry.isDirectory]
  have told (v w : FileTree) :
      (∀ e ∈ v.entries, e.2.isDirectory = true → (w.find? e.1).any Entry.isDirectory = true) ↔
        ∀ l, v.find? l = some .directory → w.find? l = some .directory := by
    simp only [Option.any_eq_true_iff_get, directory]
    constructor
    · intro each l there
      by_cases root : l = []
      · rw [root, find?_root]
      · rw [find?, if_neg root, ← mem_entries v.distinct] at there
        obtain ⟨present, found⟩ := each _ there rfl
        exact Option.eq_some_of_isSome present ▸ congrArg some found
    · rintro each ⟨l, e⟩ member rfl
      have there : v.find? l = some .directory := by
        by_cases root : l = []
        · rw [root, find?_root]
        · rw [find?, if_neg root, ← mem_entries v.distinct]
          exact member
      simp [each l there]
  rw [told, told]
  constructor
  · intro same
    exact ⟨same.cwd, fun l => (same.directory l).mpr, fun l => (same.directory l).mp⟩
  · rintro ⟨cwd, on, back⟩
    exact ⟨cwd, fun l => ⟨back l, on l⟩⟩

instance (t u : FileTree) : Decidable (SameDirectories t u) :=
  decidable_of_iff _ sameDirectories_iff.symm

/-- A file can be written, be there one or not. -/
def Writable (t : FileTree) (p : Path) : Prop :=
  ∃ aim, t.target p = .ok aim

instance (t : FileTree) (p : Path) : Decidable (t.Writable p) :=
  match h : t.target p with
  | .ok aim => isTrue ⟨aim, h⟩
  | .error cause => isFalse fun ⟨aim, same⟩ => by rw [h] at same; cases same

/-- Where a file can be written once it can be as long as the directories stay. -/
theorem SameDirectories.target_located (same : SameDirectories t u) (open_ : t.Writable p) :
    ∃ place, u.locate p = .ok place ∧ place.name.isNone = false ∧ place.slash = false ∧
      u.find? (p.route u.workingDirectory) ≠ some .directory := by
  obtain ⟨⟨l, x⟩, aimed⟩ := open_
  obtain ⟨route, -, free⟩ := target_route aimed
  obtain ⟨place, located, h⟩ := ok_of_bind aimed
  split at h
  · cases h
  rename_i named
  simp only [Bool.or_eq_true, not_or, Bool.not_eq_true] at named
  refine ⟨place, same.locate located, named.1, named.2, fun directory => free ?_⟩
  rw [same.cwd, ← route] at directory
  exact (same.directory l).mp directory

/-- A file goes into the place of another, or where nothing is. -/
theorem rename_ok {place aim : Place} {content : ByteArray} {x : Bool}
    (located : t.locate p = .ok place) (plain : place.slash = false)
    (there : t.find? (p.route t.workingDirectory) = some (.file content x))
    (named : place.name.isNone = false)
    (aimed : t.locate q = .ok aim) (named' : aim.name.isNone = false) (plain' : aim.slash = false)
    (free : t.find? (q.route t.workingDirectory) ≠ some .directory) :
    ∃ u, t.rename p q = .ok u := by
  rw [← locate_route located] at there
  rw [← locate_route aimed] at free
  have open_ : (t.find? aim.route).any Entry.isDirectory = false := by
    rcases entry : t.find? aim.route with _ | _ | _ | _ <;> simp_all [Entry.isDirectory]
  simp only [rename, located, aimed, bind, Except.bind, named, named', there, plain, plain', open_,
    Bool.or_self, Bool.false_eq_true, if_false]
  split
  · exact ⟨_, rfl⟩
  · exact ⟨_, rfl⟩

/-- Something that can be written can be made free. -/
theorem SameDirectories.removeFile_error (same : SameDirectories t u)
    (open_ : t.Writable p) {cause : Fault}
    (failed : u.removeFile p = .error cause) : cause = .system .notFound := by
  obtain ⟨place, located, named, plain, free⟩ := same.target_located open_
  rw [← locate_route located] at free
  rcases removeFile_located located plain with ⟨unnamed | directory, -⟩ | ⟨-, -, ⟨-, missing⟩ | removed⟩
  · rw [named] at unnamed
    cases unnamed
  · exact absurd directory free
  · rw [missing] at failed
    cases failed
    rfl
  · rw [removed] at failed
    cases failed

end PlcModule.FileTree
