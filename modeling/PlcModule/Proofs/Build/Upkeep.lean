import PlcModule.Proofs.Build.Coherence

/-! A store that is used by itself, without builds: digests are recorded and forgotten, and other
build directories are turned to. However it is used, what it remembers is what the file beside the
module says, so a store that is opened anew tells the same. -/
namespace PlcModule

namespace Text

/-- Neither the first character is blank nor the last. -/
def IsTrimmed (s : String) : Prop :=
  (∀ c ∈ s.toList.head?, isBlank c = false) ∧ ∀ c ∈ s.toList.getLast?, isBlank c = false

instance (s : String) : Decidable (IsTrimmed s) :=
  decidable_of_iff (s.toList.head?.all (!isBlank ·) = true ∧ s.toList.getLast?.all (!isBlank ·) = true)
    (by simp [IsTrimmed, Option.all_eq_true])

theorem dropBlank_of_head {cs : List Char} (h : ∀ c ∈ cs.head?, isBlank c = false) :
    dropBlank cs = cs := by
  cases cs with
  | nil => rfl
  | cons c cs => simp [dropBlank, h c (by simp)]

theorem IsTrimmed.trim_eq {s : String} (h : IsTrimmed s) : trim s = s := by
  have reversed : ∀ c ∈ s.toList.reverse.head?, isBlank c = false := by
    rw [List.head?_reverse]
    exact h.2
  simp [trim, dropBlankEnd, dropBlank_of_head h.1, dropBlank_of_head reversed]

theorem IsTrimmed.not_isBlankText {s : String} (h : IsTrimmed s) (filled : s ≠ "") :
    isBlankText s = false := by
  refine Bool.eq_false_iff.mpr fun blank => filled ?_
  rw [← h.trim_eq, trim_eq_empty_iff]
  exact blank

end Text

namespace ModuleStore

/-- A text that was written beside the module is told by a store, if it is one that a digest may
be. -/
theorem hashOnDisk_of_trimmed {s : ModuleStore} {t : FileTree} {h : String}
    (trimmed : Text.IsTrimmed h) (filled : h ≠ "") (read : t.readBytes s.hashFile = .ok h.toUTF8) :
    s.hashOnDisk t = some h := by
  have text : t.readText s.hashFile = .ok h := by
    simp only [FileTree.readText, read, bind, Except.bind]
    rw [Text.fromUTF8_toUTF8]
  simp [hashOnDisk, text, trimmed.not_isBlankText filled, trimmed.trim_eq]

/-- No device stands where the records of these build directories are. -/
def RecordsKept (dirs : Set Path) (t : FileTree) : Prop :=
  ∀ p ∈ dirs, t.find? (p.route t.workingDirectory ++ [hashFileName]) ≠ some .device

variable {dirs : Set Path}

theorem RecordsKept.of_change {t u : FileTree} {l : Route} (kept : RecordsKept dirs t)
    (change : FileTree.Change {l} ∅ t u) (here : u.find? l ≠ some .device) : RecordsKept dirs u := by
  intro p used
  rw [change.cwd]
  by_cases same : p.route t.workingDirectory ++ [hashFileName] = l
  · rw [same]
    exact here
  · rw [change.find_eq same]
    exact kept p used

theorem RecordsKept.dropHashFile {t : FileTree} (kept : RecordsKept dirs t) (s : ModuleStore) :
    RecordsKept dirs (s.dropHashFile t) := by
  rcases s.dropHashFile_find t with gone | same
  · exact kept.of_change (s.dropHashFile_change t) (by simp [gone])
  · rw [same]
    exact kept

/-- Where records are kept, a digest that was written is told and the records are kept on. -/
theorem RecordsKept.written {s : ModuleStore} {t u : FileTree} {h : String}
    (kept : RecordsKept dirs t) (used : s.buildDir ∈ dirs) (trimmed : Text.IsTrimmed h)
    (filled : h ≠ "") (written : t.writeBytes s.hashFile h.toUTF8 = .ok u) :
    s.hashOnDisk u = some h ∧ RecordsKept dirs u := by
  have free : t.find? (s.hashFile.route t.workingDirectory) ≠ some .device := by
    rw [hashFile_route]
    exact kept _ used
  refine ⟨?_, ?_⟩
  · rcases FileTree.writeBytes_read written with read | ⟨-, device⟩
    · exact hashOnDisk_of_trimmed trimmed filled read
    · exact absurd device free
  · rcases FileTree.writeBytes_find written with ⟨x, file⟩ | ⟨-, device⟩
    · exact kept.of_change (FileTree.writeBytes_change written) (by simp [file])
    · exact absurd device free

end ModuleStore

/-- What can be done with a store by itself. -/
inductive Upkeep where
  | recordHash (hash : String)
  | resetHash
  | setBuildDir (dir : Path)
  | recordDigests (items : List (Path × String))

namespace Upkeep

variable {σ : Type} {s : BuildState σ} {dirs : Set Path}

open ModuleStore

def run (s : BuildState σ) : Upkeep → BuildState σ
  | recordHash h => (Builder.keepHash h s).2
  | resetHash => (Builder.forgetHash s).2
  | setBuildDir dir => { s with store := s.store.moveTo dir }
  | recordDigests items => (Builder.recordDigests items s).2

/-- What is recorded of a module is a text as digests are, and the build directory is one of
these. -/
def Allowed (dirs : Set Path) : Upkeep → Prop
  | recordHash h => h ≠ "" ∧ Text.IsTrimmed h
  | resetHash => True
  | setBuildDir dir => dir ∈ dirs
  | recordDigests _ => True

/-- What the store remembers is on disk. -/
structure Settled (dirs : Set Path) (s : BuildState σ) : Prop where
  onDisk : ∀ h, s.store.cachedHash = some h → s.store.hashOnDisk s.tree = some h
  used : s.store.buildDir ∈ dirs
  kept : RecordsKept dirs s.tree

theorem Settled.hash_eq (settled : Settled dirs s) : s.store.hash s.tree = s.store.hashOnDisk s.tree := by
  cases cached : s.store.cachedHash with
  | none => simp [ModuleStore.hash, cached]
  | some h => simp [ModuleStore.hash, cached, settled.onDisk h cached]

/-- A digest is recorded, or nothing has changed. -/
theorem keepHash_cases (hash : String) (s : BuildState σ) :
    (∃ e, Builder.keepHash hash s = (.error e, s)) ∨
    ∃ tree, s.tree.writeBytes s.store.hashFile hash.toUTF8 = .ok tree ∧
      Builder.keepHash hash s =
        (.ok hash, { s with tree, store := s.store.rememberHash hash }) := by
  simp only [Builder.keepHash, writeHashFile]
  cases written : s.tree.writeBytes s.store.hashFile hash.toUTF8 with
  | error cause => exact .inl ⟨_, rfl⟩
  | ok tree => exact .inr ⟨tree, rfl, rfl⟩

theorem moveTo_of_ne {store : ModuleStore} {dir : Path}
    (other : dir.components ≠ store.buildDir.components) :
    store.moveTo dir = .fresh dir store.projectName store.extension := by
  have apart : store.buildDir.same dir = false := by
    simpa [Path.same] using fun same => other same.symm
  simp [moveTo, apart, fresh]

theorem moveTo_of_eq {store : ModuleStore} {dir : Path}
    (same : dir.components = store.buildDir.components) : store.moveTo dir = store := by
  simp [moveTo, (Path.same_iff _ _).mpr same.symm]

/-- One use keeps what is remembered on disk. -/
theorem run_settled (settled : Settled dirs s) {use : Upkeep} (allowed : use.Allowed dirs) :
    Settled dirs (run s use) := by
  cases use with
  | recordHash hash =>
    rcases keepHash_cases hash s with ⟨e, failed⟩ | ⟨tree, written, recorded⟩
    · rw [run, failed]
      exact settled
    · obtain ⟨told, kept⟩ := settled.kept.written settled.used allowed.2 allowed.1 written
      rw [run, recorded]
      refine ⟨fun h cached => ?_, settled.used, kept⟩
      cases cached
      exact told
  | resetHash =>
    refine ⟨fun h cached => ?_, settled.used, settled.kept.dropHashFile s.store⟩
    cases cached
  | setBuildDir dir =>
    by_cases same : dir.components = s.store.buildDir.components
    · simpa only [run, moveTo_of_eq same] using settled
    · rw [run, moveTo_of_ne same]
      refine ⟨fun h cached => ?_, allowed, settled.kept⟩
      cases cached
  | recordDigests items => exact ⟨settled.onDisk, settled.used, settled.kept⟩

theorem foldl_settled (settled : Settled dirs s) {uses : List Upkeep}
    (allowed : ∀ use ∈ uses, use.Allowed dirs) : Settled dirs (uses.foldl run s) := by
  induction uses generalizing s with
  | nil => exact settled
  | cons use uses ih =>
    obtain ⟨first, rest⟩ := List.forall_mem_cons.mp allowed
    exact ih (run_settled settled first) rest

/-- However a new store was used, it tells the digest that a store opened anew on its directory
tells, as long as no device, which keeps nothing, stands where a record is written. Recording that
fails changes nothing, neither in the store nor on disk; once the digest is reset there is none; and
another spelling of the build directory changes nothing, while any other directory is entered with
all that was remembered forgotten. -/
theorem hash_eq_reopened {uses : List Upkeep} (allowed : ∀ use ∈ uses, use.Allowed dirs)
    (used : s.store.buildDir ∈ dirs) (opened : s.store.cachedHash = none)
    (kept : RecordsKept dirs s.tree) :
    let s' := uses.foldl run s
    s'.store.hash s'.tree = s'.store.reopened.hash s'.tree ∧
    (∀ hash e, (Builder.keepHash hash s').1 = .error e → run s' (.recordHash hash) = s') ∧
    (run s' .resetHash).store.hash (run s' .resetHash).tree = none ∧
    (∀ dir : Path, dir.components = s'.store.buildDir.components →
      run s' (.setBuildDir dir) = s') ∧
    ∀ dir : Path, dir.components ≠ s'.store.buildDir.components →
      run s' (.setBuildDir dir) =
        { s' with store := .fresh dir s'.store.projectName s'.store.extension } := by
  intro s'
  have start : Settled dirs s :=
    ⟨fun h cached => (by rw [opened] at cached; cases cached), used, kept⟩
  have settled : Settled dirs s' := foldl_settled start allowed
  refine ⟨settled.hash_eq, fun hash e failed => ?_, ?_, fun dir same => ?_, fun dir other => ?_⟩
  · rcases keepHash_cases hash s' with ⟨e', unchanged⟩ | ⟨tree, -, recorded⟩
    · rw [run, unchanged]
    · rw [recorded] at failed
      cases failed
  · have forgotten : Settled dirs (run s' .resetHash) := run_settled settled trivial
    rw [forgotten.hash_eq]
    exact s'.store.hashOnDisk_dropHashFile s'.tree
  · rw [run, moveTo_of_eq same]
  · rw [run, moveTo_of_ne other]

/-- A digest is recorded, the directory is spelled otherwise, then another one that is not there is
tried and left again. -/
def sampleUses : List Upkeep :=
  [.recordHash "feed face", .setBuildDir ⟨"b/."⟩, .setBuildDir ⟨"c"⟩, .recordHash "0123",
    .setBuildDir ⟨"b//"⟩]

theorem sampleUses_hash :
    let s : BuildState Unit := Sample.start (Sample.treeWithModule (.file "old".toUTF8 false)) "b"
    let s' := sampleUses.foldl run s
    s'.store.hash s'.tree = some "feed face" ∧ s'.store.reopened.hash s'.tree = some "feed face" := by
  intro s s'
  have allowed : ∀ use ∈ sampleUses, use.Allowed .univ := by
    simp only [sampleUses, List.forall_mem_cons, List.not_mem_nil, false_implies, implies_true,
      and_true, Allowed, Set.mem_univ, true_and]
    decide
  have kept : RecordsKept .univ s.tree := fun _ _ => FileTree.find_ne_device (by decide +kernel) _
  have told : s'.store.hash s'.tree = some "feed face" := by decide +kernel
  have same := (hash_eq_reopened allowed (s := s) (Set.mem_univ _) rfl kept).1
  exact ⟨told, same ▸ told⟩

/-- A device beside the module takes a record and keeps nothing of it. -/
theorem device_forgets_hash :
    let use := recordHash "feed face"
    let s : BuildState Unit := Sample.start (Sample.treeWithModule .device) "b"
    let s' := run s use
    use.Allowed .univ ∧ s.store = .fresh ⟨"b"⟩ "p" ".bin" ∧
    s'.store.hash s'.tree = some "feed face" ∧ s'.store.reopened.hash s'.tree = none :=
  ⟨(by decide : "feed face" ≠ "" ∧ Text.IsTrimmed "feed face"), rfl, by decide +kernel⟩

end Upkeep
end PlcModule
