import PlcModule.Proofs.FileTree.Directories

/-! What reading and writing a path come to, told by where the path is located and what is
there. -/
namespace PlcModule.FileTree

variable {t u : FileTree} {p q dir : Path} {place : Place} {name : String} {content : ByteArray}

theorem status_of_find {e : Entry} (located : t.locate p = .ok place) (plain : place.slash = false)
    (there : t.find? (p.route t.workingDirectory) = some e) :
    t.status p = .ok (p.route t.workingDirectory, e) := by
  rw [← locate_route located] at *
  simp [status, located, bind, Except.bind, there, plain]

theorem readBytes_file {x : Bool} (located : t.locate p = .ok place) (plain : place.slash = false)
    (there : t.find? (p.route t.workingDirectory) = some (.file content x)) :
    t.readBytes p = .ok content := by
  simp [readBytes, status_of_find located plain there, bind, Except.bind]

/-- What is read is what is there; a device reads as nothing. -/
theorem readBytes_eq (h : t.readBytes p = .ok content) :
    (∃ x, t.find? (p.route t.workingDirectory) = some (.file content x)) ∨
      t.find? (p.route t.workingDirectory) = some .device ∧ content = .empty := by
  obtain ⟨⟨l, e⟩, found, h⟩ := ok_of_bind h
  obtain ⟨rfl, there⟩ := status_route found
  cases e with
  | directory => cases h
  | file content' x => cases h; exact .inl ⟨x, there⟩
  | device => cases h; exact .inr ⟨there, rfl⟩

/-- A path reads the same in a tree of the same directories that has the same at its route. -/
theorem readBytes_same (same : SameDirectories t u)
    (there : u.find? (p.route t.workingDirectory) = t.find? (p.route t.workingDirectory))
    (h : t.readBytes p = .ok content) : u.readBytes p = .ok content := by
  obtain ⟨⟨l, e⟩, found, h⟩ := ok_of_bind h
  obtain ⟨place, located, ends⟩ := ok_of_bind found
  rw [← locate_route located] at there
  have found' : u.status p = .ok (l, e) := by
    rw [status, same.locate located]
    simp only [bind, Except.bind, there]
    exact ends
  rw [readBytes, found']
  exact h

theorem isFile_find (h : t.isFile p = true) :
    ∃ content x, t.find? (p.route t.workingDirectory) = some (.file content x) := by
  unfold isFile at h
  split at h
  · rename_i content x found
    obtain ⟨rfl, there⟩ := status_route found
    exact ⟨content, x, there⟩
  · cases h

theorem isFile_read (h : t.isFile p = true) : ∃ content, t.readBytes p = .ok content := by
  unfold isFile at h
  split at h
  · rename_i content x found
    exact ⟨content, by simp [readBytes, found, bind, Except.bind]⟩
  · cases h

/-- Where a path leads to a file it is located there, and nothing asks for a directory. -/
theorem isFile_located (h : t.isFile p = true) : ∃ place content x, t.locate p = .ok place ∧
    place.slash = false ∧ t.find? place.route = some (.file content x) := by
  unfold isFile at h
  split at h
  · rename_i content x found
    obtain ⟨place, located, found⟩ := ok_of_bind found
    split at found
    · cases found
    split at found
    · cases found
    · rename_i e there slash
      cases found
      exact ⟨place, content, x, located, by simpa [Entry.isDirectory] using slash, there⟩
  · cases h

theorem pathExists_of_isFile (h : t.isFile p = true) : t.pathExists p = true := by
  obtain ⟨place, content, x, located, plain, there⟩ := isFile_located h
  simp [pathExists, status, located, plain, there, bind, Except.bind, Except.isOk, Except.toBool]

theorem readText_error_of_locate {cause : Fault} (lost : t.locate p = .error cause) :
    ∃ cause, t.readText p = .error cause :=
  ⟨cause, by simp [readText, readBytes, status, lost, bind, Except.bind]⟩

theorem readText_error_of_find (off : t.find? (p.route t.workingDirectory) = none ∨
    t.find? (p.route t.workingDirectory) = some .directory) :
    ∃ cause, t.readText p = .error cause := by
  cases text : t.readText p with
  | error cause => exact ⟨cause, rfl⟩
  | ok text' =>
    obtain ⟨bytes, read, -⟩ := ok_of_bind text
    rcases readBytes_eq read with ⟨x, there⟩ | ⟨there, -⟩ <;> rcases off with none | directory <;>
      simp_all

/-- Where a file may be, a path can be written to. -/
theorem target_ok (located : t.locate p = .ok place) (named : place.name.isNone = false)
    (plain : place.slash = false) (free : t.find? place.route ≠ some .directory) :
    ∃ x, t.target p = .ok (place.route, x) := by
  simp only [target, located, bind, Except.bind, named, plain, Bool.or_self, Bool.false_eq_true,
    if_false]
  split
  · contradiction
  · exact ⟨_, rfl⟩
  · exact ⟨_, rfl⟩

/-- Where a file may be, writing to it goes well. -/
theorem writeBytes_ok (located : t.locate p = .ok place) (named : place.name.isNone = false)
    (plain : place.slash = false)
    (free : t.find? (p.route t.workingDirectory) ≠ some .directory) (content : ByteArray) :
    ∃ u, t.writeBytes p content = .ok u := by
  rw [← locate_route located] at free
  obtain ⟨x, aimed⟩ := target_ok located named plain free
  simp only [writeBytes, aimed, bind, Except.bind]
  split
  · exact ⟨_, rfl⟩
  · exact ⟨_, rfl⟩

/-- A plain name of a directory cannot be written to if the directory is not there or the name is
another directory's. -/
theorem writeBytes_child_error {cause : Fault} (plain : IsPlainName name)
    (failed : t.writeBytes (dir.child name) content = .error cause) :
    (∃ cause, t.locate (dir.child name) = .error cause) ∨
      t.find? ((dir.child name).route t.workingDirectory) = some .directory := by
  cases located : t.locate (dir.child name) with
  | error cause => exact .inl ⟨cause, rfl⟩
  | ok place =>
    obtain ⟨named, noSlash⟩ := place_child located plain
    refine .inr (Classical.byContradiction fun other => ?_)
    obtain ⟨u, written⟩ := writeBytes_ok located (by simp [named]) noSlash other content
    rw [failed] at written
    cases written

/-- The same for removing, which also takes something to be there. -/
theorem removeFile_child_error {cause : Fault} (plain : IsPlainName name)
    (failed : t.removeFile (dir.child name) = .error cause) :
    (∃ cause, t.locate (dir.child name) = .error cause) ∨
      t.find? ((dir.child name).route t.workingDirectory) = none ∨
      t.find? ((dir.child name).route t.workingDirectory) = some .directory := by
  cases located : t.locate (dir.child name) with
  | error cause => exact .inl ⟨cause, rfl⟩
  | ok place =>
    obtain ⟨named, noSlash⟩ := place_child located plain
    rcases removeFile_error located (by simp [named]) noSlash failed with ⟨none, _⟩ | directory
    · exact .inr (.inl none)
    · exact .inr (.inr directory)

/-- Both ends of a move can be located, and a file's have no separator after their names. -/
theorem rename_located {x : Bool} (h : t.rename p q = .ok u)
    (there : t.find? (p.route t.workingDirectory) = some (.file content x)) :
    ∃ place aim, t.locate p = .ok place ∧ t.locate q = .ok aim ∧ aim.slash = false := by
  obtain ⟨place, located, h⟩ := ok_of_bind h
  obtain ⟨aim, aimed, h⟩ := ok_of_bind h
  refine ⟨place, aim, located, aimed, ?_⟩
  rw [← locate_route located] at there
  split at h
  · cases h
  simp only [there] at h
  split at h
  · cases h
  · simp_all

/-- A file that is moved is what is at its goal then, be that elsewhere or not. -/
theorem rename_placed {x : Bool} (h : t.rename p q = .ok u)
    (there : t.find? (p.route t.workingDirectory) = some (.file content x)) :
    u.find? (q.route t.workingDirectory) = some (.file content x) := by
  by_cases apart : p.route t.workingDirectory = q.route t.workingDirectory
  · have kept : u = t := by
      obtain ⟨place, located, h⟩ := ok_of_bind h
      obtain ⟨aim, aimed, h⟩ := ok_of_bind h
      rw [← locate_route located, ← locate_route aimed] at *
      split at h
      · cases h
      rw [apart] at there
      simp only [apart, there, if_true] at h
      split at h
      · cases h
      · cases h
        rfl
    rw [kept, ← apart, there]
  · exact (rename_file h there apart).2.1

/-- A file that was moved reads at its goal as it did before. -/
theorem rename_read (h : t.rename p q = .ok u)
    (file : t.isFile p = true) (read : t.readBytes p = .ok content) :
    u.readBytes q = .ok content := by
  obtain ⟨content', x, there⟩ := isFile_find file
  obtain rfl : content' = content := by
    rcases readBytes_eq read with ⟨y, same⟩ | ⟨device, -⟩
    · rw [there] at same
      cases same
      rfl
    · rw [there] at device
      cases device
  obtain ⟨-, aim, -, aimed, plain⟩ := rename_located h there
  have same := rename_file_same h there
  have placed := rename_placed h there
  rw [← same.cwd] at placed
  exact readBytes_file (same.locate aimed) plain placed

/-- What was written can be read, unless a device is there, which keeps nothing. -/
theorem writeBytes_read (h : t.writeBytes p content = .ok u) :
    u.readBytes p = .ok content ∨
      u = t ∧ t.find? (p.route t.workingDirectory) = some .device := by
  obtain ⟨⟨l, executable⟩, aimed, -⟩ := ok_of_bind h
  obtain ⟨place, located, open_⟩ := ok_of_bind aimed
  have plain : place.slash = false := by
    split at open_
    · cases open_
    · simp_all
  rcases writeBytes_find h with ⟨x, there⟩ | device
  · have same := writeBytes_same h
    rw [← same.cwd] at there
    exact .inl (readBytes_file (same.locate located) plain there)
  · exact .inr device

/-- A file that is copied has its bytes at the goal too, unless a device is there. -/
theorem copyFile_find (h : t.copyFile p q = .ok u)
    (apart : p.route t.workingDirectory ≠ q.route t.workingDirectory) :
    ∃ content x, t.find? (p.route t.workingDirectory) = some (.file content x) ∧
      (u.find? (q.route t.workingDirectory) = some (.file content x) ∨
        u = t ∧ t.find? (q.route t.workingDirectory) = some .device) := by
  obtain ⟨⟨l, e⟩, found, h⟩ := ok_of_bind h
  obtain ⟨rfl, there⟩ := status_route found
  cases e with
  | directory => cases h
  | device => cases h
  | file content x =>
    obtain ⟨⟨k, y⟩, aimed, h⟩ := ok_of_bind h
    obtain ⟨rfl, below, -⟩ := target_route aimed
    refine ⟨content, x, there, ?_⟩
    simp only at h
    split at h
    · rename_i device
      cases h
      exact .inr ⟨rfl, device⟩
    · rw [find?_put_of_ne t _ _ _ apart, there] at h
      cases h
      exact .inl (find?_put_self _ _ _ below)

end PlcModule.FileTree
