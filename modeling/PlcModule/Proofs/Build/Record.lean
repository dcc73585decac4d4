import PlcModule.Proofs.Build.Layout
import PlcModule.Proofs.FileTree.Reading

/-! The digest on record beside a module: removing it, and what it tells afterwards. -/
namespace PlcModule.ModuleStore

variable {s : ModuleStore} {t u : FileTree} {cwd : Route}

theorem hashFile_plain : IsPlainName hashFileName := by decide

/-- Removing the record goes well, or it changes nothing and leaves nothing to be read. -/
theorem dropHashFile_cases (s : ModuleStore) (t : FileTree) :
    t.removeFile s.hashFile = .ok (s.dropHashFile t) ∨
    s.dropHashFile t = t ∧ ((∃ cause, t.locate s.hashFile = .error cause) ∨
      t.find? (s.hashFile.route t.workingDirectory) = none ∨
      t.find? (s.hashFile.route t.workingDirectory) = some .directory) := by
  unfold dropHashFile
  cases removed : t.removeFile s.hashFile with
  | ok u => exact .inl rfl
  | error cause => exact .inr ⟨rfl, FileTree.removeFile_child_error hashFile_plain removed⟩

theorem dropHashFile_change (s : ModuleStore) (t : FileTree) :
    FileTree.Change {s.hashFile.route t.workingDirectory} ∅ t (s.dropHashFile t) := by
  rcases dropHashFile_cases s t with removed | ⟨same, _⟩
  · exact (FileTree.removeFile_change removed).1
  · rw [same]; exact .refl _ _ t

theorem dropHashFile_same (s : ModuleStore) (t : FileTree) :
    FileTree.SameDirectories t (s.dropHashFile t) := by
  rcases dropHashFile_cases s t with removed | ⟨same, _⟩
  · exact FileTree.removeFile_same removed
  · rw [same]; exact .refl t

/-- What is at the place of the record after it was removed: what was there, or nothing. -/
theorem dropHashFile_find (s : ModuleStore) (t : FileTree) :
    (s.dropHashFile t).find? (s.hashFile.route t.workingDirectory) = none ∨
      s.dropHashFile t = t := by
  rcases dropHashFile_cases s t with removed | ⟨same, _⟩
  · exact .inl (FileTree.removeFile_change removed).2
  · exact .inr same

theorem hashOnDisk_of_error {cause : Fault} (h : t.readText s.hashFile = .error cause) :
    s.hashOnDisk t = none := by
  simp [hashOnDisk, h]

/-- No record that was to be removed tells a digest, even if it could not be removed. -/
theorem hashOnDisk_dropHashFile (s : ModuleStore) (t : FileTree) :
    s.hashOnDisk (s.dropHashFile t) = none := by
  rcases dropHashFile_cases s t with removed | ⟨same, lost | off⟩
  · obtain ⟨change, gone⟩ := FileTree.removeFile_change removed
    rw [← change.cwd] at gone
    obtain ⟨cause, failed⟩ := FileTree.readText_error_of_find (.inl gone)
    exact hashOnDisk_of_error failed
  · obtain ⟨cause, lost⟩ := lost
    obtain ⟨cause, failed⟩ := FileTree.readText_error_of_locate lost
    rw [same]
    exact hashOnDisk_of_error failed
  · obtain ⟨cause, failed⟩ := FileTree.readText_error_of_find off
    rw [same]
    exact hashOnDisk_of_error failed

/-- The module and the record beside it are two, and neither is a file that builds work on. -/
structure Apart (cwd : Route) (s : ModuleStore) : Prop where
  binary : s.binary.route cwd ∉ s.workRoutes cwd
  hashFile : s.hashFile.route cwd ∉ s.workRoutes cwd
  distinct : s.binary.route cwd ≠ s.hashFile.route cwd

theorem IsModuleName.apart_files (named : IsModuleName s.binaryName) (cwd : Route) :
    s.Apart cwd where
  binary := by
    rw [binary_route named.plain]
    exact notMem_workRoutes named (.inl rfl) _
  hashFile := by
    rw [hashFile_route]
    exact notMem_workRoutes named (.inr rfl) _
  distinct := by
    rw [binary_route named.plain, hashFile_route]
    intro same
    have := (List.append_singleton_inj.mp same).2
    exact named.apart (by simp [this])

theorem Apart.staged_binary (apart : s.Apart cwd) : s.staged.route cwd ≠ s.binary.route cwd :=
  fun same => apart.binary (same ▸ staged_mem cwd s)

theorem Apart.staged_hashFile (apart : s.Apart cwd) : s.staged.route cwd ≠ s.hashFile.route cwd :=
  fun same => apart.hashFile (same ▸ staged_mem cwd s)

/-- A file at the staged path that could be moved is the module now. Nothing else but the staged
path has changed, and the module can be read. -/
theorem moved_leaves {u v : FileTree} (apart : s.Apart cwd) (there : u.workingDirectory = cwd)
    (made : u.isFile s.staged = true)
    (moved : (s.dropHashFile u).rename s.staged s.binary = .ok v) :
    ∃ content x, u.find? (s.staged.route cwd) = some (.file content x) ∧
      v.find? (s.binary.route cwd) = some (.file content x) ∧
      FileTree.Change {s.staged.route cwd, s.binary.route cwd} ∅ (s.dropHashFile u) v ∧
      FileTree.SameDirectories (s.dropHashFile u) v ∧
      ∃ place aim, (s.dropHashFile u).locate s.staged = .ok place ∧
        (s.dropHashFile u).locate s.binary = .ok aim ∧ aim.slash = false := by
  obtain ⟨content, x, staged⟩ := FileTree.isFile_find made
  have dropped := s.dropHashFile_change u
  rw [there] at staged dropped
  have cwd' : (s.dropHashFile u).workingDirectory = cwd := dropped.cwd.trans there
  have ready : (s.dropHashFile u).find? (s.staged.route (s.dropHashFile u).workingDirectory) =
      some (.file content x) := by
    rw [cwd', dropped.find_eq (by simpa using apart.staged_hashFile)]
    exact staged
  have replaced := FileTree.rename_file moved ready (cwd' ▸ apart.staged_binary)
  rw [cwd'] at replaced
  exact ⟨content, x, staged, replaced.2.1, replaced.1, FileTree.rename_file_same moved ready,
    FileTree.rename_located moved ready⟩

/-- A record that could not be removed is none of a file: where it cannot be written either, it
is as it was. -/
theorem dropHashFile_eq_of_unwritten {u w : FileTree} {hash : ByteArray} {cause : Fault}
    (there : u.workingDirectory = cwd) (dirs : FileTree.SameDirectories (s.dropHashFile u) w)
    (untouched : w.find? (s.hashFile.route cwd) = (s.dropHashFile u).find? (s.hashFile.route cwd))
    (failed : w.writeBytes s.hashFile hash = .error cause) :
    s.dropHashFile u = u ∧ s.hashOnDisk w = none := by
  have wcwd : w.workingDirectory = cwd := (dirs.cwd.trans (s.dropHashFile_same u).cwd).trans there
  have unreadable := FileTree.writeBytes_child_error hashFile_plain failed
  refine ⟨?_, ?_⟩
  · rcases dropHashFile_cases s u with removed | ⟨same, _⟩
    · exfalso
      have gone := (FileTree.removeFile_change removed).2
      obtain ⟨place, located, _⟩ := ok_of_bind removed
      have located' := dirs.locate ((s.dropHashFile_same u).locate located)
      rcases unreadable with ⟨cause, lost⟩ | directory
      · exact absurd (lost.symm.trans located') (by simp)
      · change w.find? (s.hashFile.route w.workingDirectory) = _ at directory
        rw [there] at gone
        rw [wcwd, untouched, gone] at directory
        cases directory
    · exact same
  · rcases unreadable with ⟨cause, lost⟩ | directory
    · obtain ⟨cause, failed⟩ := FileTree.readText_error_of_locate lost
      exact hashOnDisk_of_error failed
    · obtain ⟨cause, failed⟩ := FileTree.readText_error_of_find (.inr directory)
      exact hashOnDisk_of_error failed

end PlcModule.ModuleStore
