import PlcModule.Proofs.Build.Outcome
import PlcModule.Proofs.Build.Record
import PlcModule.Proofs.Build.Sample
import PlcModule.Proofs.Digest.Reading

/-! The digest on record is that of the module. A digest is told by the store that remembers it or
by the file beside the module; both are kept true by every build, however it ends, and by every
other use of a store, in whatever order. -/
namespace PlcModule

variable {σ : Type}

namespace FileTree

/-- The bytes that a file at a route has. A device has none. -/
def Holds (t : FileTree) (l : Route) (content : ByteArray) : Prop :=
  (∃ x, t.find? l = some (.file content x)) ∨ t.find? l = some .device ∧ content = .empty

/-- What is at a route has this digest. -/
def HasDigest (t : FileTree) (l : Route) (h : String) : Prop :=
  ∃ content, t.Holds l content ∧ h = Digest.md5 content.data.toList

variable {t u : FileTree} {l : Route} {h : String} {touched made : Set Route}

theorem HasDigest.of_change (change : Change touched made t u) (off : l ∉ touched)
    (has : t.HasDigest l h) : u.HasDigest l h := by
  obtain ⟨content, ⟨x, there⟩ | ⟨there, empty⟩, same⟩ := has
  · exact ⟨content, .inl ⟨x, change.find_some off there⟩, same⟩
  · exact ⟨content, .inr ⟨change.find_some off there, empty⟩, same⟩

theorem digest_read {p : Path} (digest : t.digest p = .ok h) :
    ∃ content, t.readBytes p = .ok content ∧ h = Digest.md5 content.data.toList := by
  cases bytes : t.readBytes p with
  | error cause => simp [FileTree.digest, bytes, Except.map] at digest
  | ok content =>
    have same : Digest.md5OfFile content = h := by
      simpa [FileTree.digest, bytes, Except.map] using digest
    exact ⟨content, rfl, by rw [← same, Digest.md5OfFile_eq]⟩

theorem hasDigest_of_read {p : Path} (read : t.digest p = .ok h) :
    t.HasDigest (p.route t.workingDirectory) h := by
  obtain ⟨content, bytes, same⟩ := digest_read read
  exact ⟨content, readBytes_eq bytes, same⟩

theorem HasDigest.isHexDigest (has : t.HasDigest l h) : Digest.IsHexDigest h := by
  obtain ⟨content, -, rfl⟩ := has
  exact Digest.md5_isHexDigest _

theorem locate_fits {p : Path} {place : Place} (located : t.locate p = .ok place) :
    p.text.utf8ByteSize ≤ pathLimit := by
  simp only [locate] at located
  split at located
  · cases located
  split at located
  · cases located
  split at located
  · cases located
  · omega

end FileTree

/-- A path that is not too long for the system. -/
def Path.Fits (p : Path) : Prop :=
  p.text.utf8ByteSize ≤ FileTree.pathLimit

namespace ModuleStore

/-- The digest that the bytes of a record tell. -/
def told (content : ByteArray) : Option String :=
  match String.fromUTF8? content with
  | some text => if Text.isBlankText text then none else some (Text.trim text)
  | none => none

theorem told_digest {h : String} (digest : Digest.IsHexDigest h) : told h.toUTF8 = some h := by
  rw [told, Text.fromUTF8_toUTF8]
  simp [digest.not_isBlankText, digest.trim_eq]

theorem told_empty : told .empty = none := by
  have empty : String.fromUTF8? "".toUTF8 = some "" := Text.fromUTF8_toUTF8 ""
  have none : Text.isBlankText "" = true := rfl
  rw [show ByteArray.empty = "".toUTF8 from rfl, told, empty]
  simp [none]

/-- A store reads back the digest that was written beside the module. -/
theorem hashOnDisk_of_read {s : ModuleStore} {t : FileTree} {h : String}
    (digest : Digest.IsHexDigest h) (read : t.readBytes s.hashFile = .ok h.toUTF8) :
    s.hashOnDisk t = some h := by
  have text : t.readText s.hashFile = .ok h := by
    simp only [FileTree.readText, read, bind, Except.bind]
    rw [Text.fromUTF8_toUTF8]
  simp [hashOnDisk, text, digest.not_isBlankText, digest.trim_eq]

/-- A digest that is read from a record is told by a file at its place. -/
theorem hashOnDisk_eq {s : ModuleStore} {t : FileTree} {h : String}
    (read : s.hashOnDisk t = some h) : s.hashFile.Fits ∧ ∃ content x,
      t.find? (s.hashFile.route t.workingDirectory) = some (.file content x) ∧
      told content = some h := by
  cases text : t.readText s.hashFile with
  | error cause => rw [hashOnDisk_of_error text] at read; cases read
  | ok text' =>
    simp only [hashOnDisk, text] at read
    obtain ⟨content, bytes, decoded⟩ := ok_of_bind text
    have tells : told content = some h := by
      cases decode : String.fromUTF8? content with
      | none => rw [decode] at decoded; cases decoded
      | some text'' =>
        rw [decode] at decoded
        cases decoded
        simp only [told, decode]
        exact read
    obtain ⟨⟨l, e⟩, found, -⟩ := ok_of_bind bytes
    obtain ⟨place, located, -⟩ := ok_of_bind found
    refine ⟨FileTree.locate_fits located, ?_⟩
    rcases FileTree.readBytes_eq bytes with ⟨x, there⟩ | ⟨-, rfl⟩
    · exact ⟨content, x, there, tells⟩
    · rw [told_empty] at tells
      cases tells

/-- A file at the place of the record in a directory tells the digest of the module beside it or
none. -/
def Tells (name : String) (t : FileTree) (d : Route) : Prop :=
  ∀ content x h, t.find? (d ++ [hashFileName]) = some (.file content x) →
    told content = some h → t.HasDigest (d ++ [name]) h

theorem Tells.of_change {name : String} {t u : FileTree} {d : Route} {touched made : Set Route}
    (tells : Tells name t d) (change : FileTree.Change touched made t u)
    (record : d ++ [hashFileName] ∉ touched) (module : d ++ [name] ∉ touched) : Tells name u d := by
  intro content x h there tell
  rcases change.find _ record with same | ⟨-, -, directory⟩
  · exact (tells content x h (same ▸ there) tell).of_change change module
  · rw [directory] at there
    cases there

/-- Where no file is, nothing is told. -/
theorem Tells.of_no_file {name : String} {t : FileTree} {d : Route}
    (none : ∀ content x, t.find? (d ++ [hashFileName]) ≠ some (.file content x)) :
    Tells name t d :=
  fun content x _ there => absurd there (none content x)

/-- What is told of any module stays true when the record is removed, or cannot be. -/
theorem Tells.dropHashFile {name : String} {s : ModuleStore} {t : FileTree} {d : Route}
    (tells : Tells name t d) (here : s.buildDir.route t.workingDirectory = d) :
    Tells name (s.dropHashFile t) d := by
  rcases s.dropHashFile_find t with gone | kept
  · rw [hashFile_route, here] at gone
    exact .of_no_file fun _ _ => by rw [gone]; simp
  · rw [kept]
    exact tells

/-- Where a new module was put in place nothing is told, of whatever module, if the record can be
reached wherever the staged module can. -/
theorem replaced_tells {s : ModuleStore} {t u : FileTree} (named : IsModuleName s.binaryName)
    (fits : s.staged.Fits → s.hashFile.Fits) (made : t.isFile s.staged = true)
    (moved : (s.dropHashFile t).rename s.staged s.binary = .ok u) (name : String) :
    Tells name u (s.buildDir.route t.workingDirectory) := by
  have apart := named.apart_files t.workingDirectory
  obtain ⟨content, x, -, -, change, -, place, aim, located, -, -⟩ := moved_leaves apart rfl made moved
  have record : s.hashFile.route t.workingDirectory ∉
      ({s.staged.route t.workingDirectory, s.binary.route t.workingDirectory} : Set Route) := by
    simpa using ⟨apart.staged_hashFile.symm, apart.distinct.symm⟩
  -- What leads to the staged module leads to the record, so it was removed if it was a file.
  have reached := FileTree.locate_sibling ((s.dropHashFile_same t).symm.locate located)
    (staged_plain named.plain) hashFile_plain (by decide) (by decide)
    (fits (FileTree.locate_fits located))
  have off : u.find? (s.hashFile.route t.workingDirectory) = none ∨
      u.find? (s.hashFile.route t.workingDirectory) = some .directory := by
    rw [change.find_eq record]
    rcases dropHashFile_cases s t with removed | ⟨same, ⟨cause, lost⟩ | off⟩
    · exact .inl (FileTree.removeFile_change removed).2
    · exact absurd (lost.symm.trans reached) (by simp)
    · rw [same]; exact off
  rw [hashFile_route] at off
  refine .of_no_file fun _ _ => ?_
  rcases off with none | directory
  · rw [none]; simp
  · rw [directory]; simp

/-- Once the digest of a module is recorded it is the module's, and it is what is told. -/
theorem recorded_tells {s : ModuleStore} {t u : FileTree} {hash : String}
    (named : IsModuleName s.binaryName) (read : t.digest s.binary = .ok hash)
    (written : t.writeBytes s.hashFile hash.toUTF8 = .ok u) :
    u.HasDigest (s.buildDir.route t.workingDirectory ++ [s.binaryName]) hash ∧
      Tells s.binaryName u (s.buildDir.route t.workingDirectory) := by
  have apart := named.apart_files t.workingDirectory
  have module := (FileTree.hasDigest_of_read read).of_change (FileTree.writeBytes_change written)
    (by simpa using apart.distinct)
  have placed := FileTree.writeBytes_find written
  rw [binary_route named.plain] at module
  rw [hashFile_route] at placed
  refine ⟨module, ?_⟩
  rcases placed with ⟨x, there⟩ | ⟨same, there⟩
  · intro content x' h there' tell
    rw [there] at there'
    cases there'
    rw [told_digest module.isHexDigest] at tell
    cases tell
    exact module
  · refine .of_no_file fun _ _ => ?_
    rw [same, there]
    simp

/-- Of two spellings of one build directory, a module is made by one only if its record can be
reached by it as well as by the other. -/
def SpellingsAgree (cwd : Route) (name : String) (dirs : Set Path) : Prop :=
  ∀ p ∈ dirs, ∀ q ∈ dirs, p.route cwd = q.route cwd → (p.child (name ++ ".tmp")).Fits →
    (q.child hashFileName).Fits → (p.child hashFileName).Fits

/-- Spellings that are short enough for the record agree. -/
theorem SpellingsAgree.of_fits {cwd : Route} {name : String} {dirs : Set Path}
    (fits : ∀ p ∈ dirs, (p.child hashFileName).Fits) : SpellingsAgree cwd name dirs :=
  fun p used _ _ _ _ _ => fits p used

/-- What a store and the files say of a module's digest is true, in all directories in use. -/
structure Coherent (cwd : Route) (name : String) (dirs : Set Path) (t : FileTree)
    (s : ModuleStore) : Prop where
  there : t.workingDirectory = cwd
  named : s.binaryName = name
  dir : s.buildDir ∈ dirs
  cached : ∀ h, s.cachedHash = some h → t.HasDigest (s.buildDir.route cwd ++ [name]) h
  onDisk : ∀ p ∈ dirs, (p.child hashFileName).Fits → Tells name t (p.route cwd)

namespace Coherent

variable {cwd : Route} {name : String} {dirs : Set Path} {t u : FileTree} {s s' : ModuleStore}

/-- A digest that is told is the module's. -/
theorem hash (c : Coherent cwd name dirs t s) {h : String} (known : s.hash t = some h) :
    t.HasDigest (s.buildDir.route cwd ++ [name]) h := by
  cases cached : s.cachedHash with
  | some h' =>
    have same : h' = h := by simpa [ModuleStore.hash, cached] using known
    subst same
    exact c.cached _ cached
  | none =>
    have read : s.hashOnDisk t = some h := by simpa [ModuleStore.hash, cached] using known
    obtain ⟨fits, content, x, there, tells⟩ := hashOnDisk_eq read
    rw [c.there, hashFile_route] at there
    exact c.onDisk _ c.dir fits content x h there tells

theorem reopened (c : Coherent cwd name dirs t s) : Coherent cwd name dirs t s.reopened :=
  ⟨c.there, c.named, c.dir, fun _ impossible => (by cases impossible), c.onDisk⟩

theorem moveTo (c : Coherent cwd name dirs t s) {dir : Path} (used : dir ∈ dirs) :
    Coherent cwd name dirs t (s.moveTo dir) := by
  unfold ModuleStore.moveTo
  split
  · exact c
  · exact ⟨c.there, c.named, used, fun _ impossible => (by cases impossible), c.onDisk⟩

/-- A change that touches no module and no record of one changes nothing of what is told. -/
theorem of_change (c : Coherent cwd name dirs t s) {touched made : Set Route}
    (change : FileTree.Change touched made t u)
    (off : ∀ d n, n = name ∨ n = hashFileName → d ++ [n] ∉ touched) :
    Coherent cwd name dirs u s where
  there := change.cwd.trans c.there
  named := c.named
  dir := c.dir
  cached h known := (c.cached h known).of_change change (off _ _ (.inl rfl))
  onDisk p used fits :=
    (c.onDisk p used fits).of_change change (off _ _ (.inr rfl)) (off _ _ (.inl rfl))

theorem of_worked (c : Coherent cwd name dirs t s) (named : IsModuleName name)
    (worked : s.Worked cwd t u) : Coherent cwd name dirs u s :=
  c.of_change worked fun d _ which => by
    obtain rfl := c.named
    exact notMem_workRoutes named which d

/-- Where neither module nor record of other directories is touched, it is enough to know what is
told of this one. -/
theorem of_change_here (c : Coherent cwd name dirs t s) {touched : Set Route}
    (change : FileTree.Change touched ∅ t u)
    (near : ∀ l ∈ touched, ∃ n, l = s.buildDir.route cwd ++ [n])
    (store : s'.reopened = s.reopened)
    (cached : ∀ h, s'.cachedHash = some h → u.HasDigest (s.buildDir.route cwd ++ [name]) h)
    (here : ∀ p ∈ dirs, (p.child hashFileName).Fits → p.route cwd = s.buildDir.route cwd →
      Tells name u (s.buildDir.route cwd)) :
    Coherent cwd name dirs u s' := by
  have dir := congrArg buildDir store
  have binary := congrArg binaryName store
  change s'.buildDir = s.buildDir at dir
  change s'.binaryName = s.binaryName at binary
  refine ⟨change.cwd.trans c.there, binary.trans c.named, dir ▸ c.dir, dir ▸ cached, ?_⟩
  intro p used fits
  by_cases same : p.route cwd = s.buildDir.route cwd
  · rw [same]
    exact here p used fits same
  · have off (n : String) : p.route cwd ++ [n] ∉ touched := by
      intro touch
      obtain ⟨m, eq⟩ := near _ touch
      exact same (List.append_singleton_inj.mp eq).1
    exact (c.onDisk p used fits).of_change change (off _) (off _)

/-- Removing the record leaves nothing to be told of this directory. -/
theorem dropHashFile (c : Coherent cwd name dirs t s) :
    Coherent cwd name dirs (s.dropHashFile t) s.forgetHash := by
  have change := s.dropHashFile_change t
  rw [c.there, hashFile_route] at change
  refine c.of_change_here change (by simp) rfl (fun _ impossible => by cases impossible) ?_
  intro p used fits same
  rw [← same]
  exact (c.onDisk p used fits).dropHashFile (by rw [c.there, same])

/-- A new module goes into place only where no record is left that could be told of it. -/
theorem replaced (c : Coherent cwd name dirs t s) (named : IsModuleName name)
    (agree : SpellingsAgree cwd name dirs) (made : t.isFile s.staged = true)
    (moved : (s.dropHashFile t).rename s.staged s.binary = .ok u) :
    Coherent cwd name dirs u s.forgetHash := by
  obtain rfl := c.named
  have apart := named.apart_files cwd
  obtain ⟨-, -, -, -, change, -⟩ := moved_leaves apart c.there made moved
  rw [staged_route named.plain, binary_route named.plain] at change
  refine c.dropHashFile.of_change_here change ?_ rfl (fun _ impossible => by cases impossible) ?_
  · rintro l (rfl | rfl)
    · exact ⟨_, rfl⟩
    · exact ⟨_, rfl⟩
  · intro p used fits same
    have reached (staged : s.staged.Fits) : s.hashFile.Fits :=
      agree s.buildDir c.dir p used same.symm staged fits
    have tells := replaced_tells named reached made moved s.binaryName
    rw [c.there] at tells
    exact tells

/-- However recording ends, what is on record is true. -/
theorem concluded (c : Coherent cwd name dirs t s) (named : IsModuleName name)
    {after : BuildState σ} {r : Except BuildError BuildReport}
    (h : Builder.Concluded s t after r) : Coherent cwd name dirs after.tree after.store := by
  cases h with
  | unread cause _ tree kept => rw [tree, kept]; exact c
  | unwritten hash cause _ _ tree kept => rw [tree, kept]; exact c
  | recorded hash report read written kept remembered =>
    obtain rfl := c.named
    have change := FileTree.writeBytes_change written
    obtain ⟨module, tells⟩ := recorded_tells named read written
    rw [c.there] at change module tells
    rw [hashFile_route] at change
    refine c.of_change_here change (by simp) kept ?_ fun _ _ _ _ => tells
    intro h known
    rw [remembered] at known
    cases known
    exact module

end Coherent
end ModuleStore

namespace Builder

variable {b : Builder σ} {cwd : Route} {name : String} {dirs : Set Path} {s : BuildState σ}

open ModuleStore

theorem tryBuild_coherent (named : IsModuleName name) (agree : SpellingsAgree cwd name dirs)
    (tame : b.runner.Tame b.toolchain) (input : BuildInput)
    (c : Coherent cwd name dirs s.tree s.store) :
    Coherent cwd name dirs (b.tryBuild input s).2.tree (b.tryBuild input s).2.store := by
  have there : s.watched.tree.workingDirectory = cwd := c.there
  obtain ⟨s₁, r, updated, finished⟩ := tryBuild_cases tame input s.watched rfl
  have before : Coherent cwd name dirs s₁.tree s₁.store := by
    cases updated with
    | unmade _ store tree =>
      rw [store]
      exact c.of_worked named (there ▸ tree)
    | stuck call cause _ _ store worked tree =>
      rw [store, tree]
      exact (c.of_worked named (there ▸ worked)).dropHashFile
    | replaced call _ packages store worked moved =>
      rw [store]
      exact (c.of_worked named (there ▸ worked)).replaced named agree packages.2.2 moved
  rw [tryBuild_watched]
  rcases finished with ⟨e, -, eq⟩ | ⟨work, -, eq⟩
  · rw [eq]
    exact before
  · obtain ⟨t, cleared, -, -, concluded⟩ := conclude_cases b.watched work s₁
    have recorded := (before.of_worked named (worked_of_cleared cleared)).concluded named concluded
    rw [eq]
    exact recorded

end Builder
end PlcModule
