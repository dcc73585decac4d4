import PlcModule.Proofs.Build.Agreement
import PlcModule.Proofs.Build.Coherence

/-! Builds of several modules in one directory. The modules have names of their own, but they share
the one file that a digest is recorded in. It speaks for the module that was built last. -/
namespace PlcModule

variable {σ : Type}

open ModuleStore

/-- What is told of one module stays true while another is worked on. -/
theorem ModuleStore.Tells.of_worked {name : String} {s : ModuleStore} {cwd d : Route}
    {t u : FileTree} (tells : Tells name t d) (plain : IsPlainName s.binaryName)
    (named : IsModuleName name) (other : s.binaryName ++ ".tmp" ≠ name) (worked : s.Worked cwd t u) :
    Tells name u d :=
  tells.of_change worked (notMem_workRoutes_of plain (.inr rfl) (staged_ne (.inr rfl)) d)
    (notMem_workRoutes_of plain (.inl named) other d)

/-- A directory that several modules are built in, by some spellings of its path. No module has the
name of another file there, be it one that another module is staged in. -/
structure SharedDirectory where
  cwd : Route
  route : Route
  names : Set String
  dirs : Set Path
  leads : ∀ p ∈ dirs, p.route cwd = route
  named : ∀ n ∈ names, IsModuleName n
  unstaged : ∀ n ∈ names, n ++ ".tmp" ∉ names
  agree : ∀ n ∈ names, SpellingsAgree cwd n dirs

namespace SharedDirectory

variable (D : SharedDirectory)

/-- What can be read in the record, by a spelling that is short enough, is true of this module. -/
def SpeaksFor (name : String) (t : FileTree) : Prop :=
  ∀ p ∈ D.dirs, (p.child hashFileName).Fits → Tells name t D.route

/-- A store of one of the modules, in this directory. -/
structure Has (s : ModuleStore) : Prop where
  dir : s.buildDir ∈ D.dirs
  module : s.binaryName ∈ D.names

variable {D} {name : String} {s : ModuleStore} {t u : FileTree}

theorem Has.named (has : D.Has s) : IsModuleName s.binaryName :=
  D.named _ has.module

theorem Has.leads (has : D.Has s) : s.buildDir.route D.cwd = D.route :=
  D.leads _ has.dir

theorem Has.of_reopened {s' : ModuleStore} (has : D.Has s) (same : s'.reopened = s.reopened) :
    D.Has s' where
  dir := eq_of_reopened same buildDir (fun _ => rfl) ▸ has.dir
  module := eq_of_reopened same binaryName (fun _ => rfl) ▸ has.module

theorem SpeaksFor.of_worked (speaks : D.SpeaksFor name t) (has : D.Has s) (among : name ∈ D.names)
    (worked : s.Worked D.cwd t u) : D.SpeaksFor name u := by
  intro p used fits
  refine (speaks p used fits).of_worked has.named.plain (D.named _ among) ?_ worked
  rintro rfl
  exact D.unstaged _ has.module among

theorem SpeaksFor.dropHashFile (speaks : D.SpeaksFor name t) (has : D.Has s)
    (there : t.workingDirectory = D.cwd) : D.SpeaksFor name (s.dropHashFile t) :=
  fun p used fits => (speaks p used fits).dropHashFile (there ▸ has.leads)

/-- Nothing is told right after a module was put in place, so it is true of every module. -/
theorem speaksFor_of_replaced (has : D.Has s) (there : t.workingDirectory = D.cwd)
    (made : t.isFile s.staged = true)
    (moved : (s.dropHashFile t).rename s.staged s.binary = .ok u) : D.SpeaksFor name u := by
  intro p used fits
  have same : s.buildDir.route D.cwd = p.route D.cwd := has.leads.trans (D.leads p used).symm
  have tells := replaced_tells has.named
    (fun staged => D.agree _ has.module _ has.dir p used same staged fits) made moved name
  rw [there, has.leads] at tells
  exact tells

end SharedDirectory

namespace Builder

variable {b : Builder σ} {D : SharedDirectory}

section

variable {s s' : BuildState (σ × List Call)} {r : Except BuildError Unit}

theorem Updated.cwd (updated : Updated b.toolchain s s' r) (named : IsModuleName s.store.binaryName) :
    s'.tree.workingDirectory = s.tree.workingDirectory := by
  cases updated with
  | unmade _ _ tree => exact tree.cwd
  | stuck call _ _ _ _ worked tree =>
    rw [tree]
    exact (s.store.dropHashFile_same call.after).cwd.trans worked.cwd
  | replaced call _ packages _ worked moved =>
    obtain ⟨-, -, -, -, change, -⟩ := moved_leaves (named.apart_files _) rfl packages.2.2 moved
    exact change.cwd.trans ((s.store.dropHashFile_same call.after).cwd.trans worked.cwd)

/-- However far the module was updated, what was true of a module still is. -/
theorem Updated.speaksFor (updated : Updated b.toolchain s s' r) (has : D.Has s.store)
    (there : s.tree.workingDirectory = D.cwd) {name : String} (among : name ∈ D.names)
    (speaks : D.SpeaksFor name s.tree) : D.SpeaksFor name s'.tree := by
  cases updated with
  | unmade _ _ tree => exact speaks.of_worked has among (there ▸ tree)
  | stuck call _ _ _ _ worked tree =>
    rw [tree]
    exact (speaks.of_worked has among (there ▸ worked)).dropHashFile has (worked.cwd.trans there)
  | replaced call _ packages _ worked moved =>
    exact SharedDirectory.speaksFor_of_replaced has (worked.cwd.trans there) packages.2.2 moved

end

/-- A digest that could not be recorded is not told, and one that was is told of its module. -/
theorem Concluded.speaksFor {s : ModuleStore} {t : FileTree} {after : BuildState σ}
    {r : Except BuildError BuildReport} (concluded : Concluded s t after r) (has : D.Has s)
    (there : t.workingDirectory = D.cwd) :
    after.tree.workingDirectory = D.cwd ∧
    (∀ report, r = .ok report → D.SpeaksFor s.binaryName after.tree) ∧
    ∀ e, r = .error e → after.tree = t := by
  cases concluded with
  | unread _ _ tree =>
    exact ⟨tree ▸ there, fun _ impossible => (by cases impossible), fun _ _ => tree⟩
  | unwritten _ _ _ _ tree =>
    exact ⟨tree ▸ there, fun _ impossible => (by cases impossible), fun _ _ => tree⟩
  | recorded hash report read written =>
    refine ⟨(FileTree.writeBytes_change written).cwd.trans there, fun _ _ p used fits => ?_,
      fun _ impossible => (by cases impossible)⟩
    obtain ⟨-, tells⟩ := recorded_tells has.named read written
    rw [there, has.leads] at tells
    exact tells

/-- A build that fails leaves what is told of any module true. After one that goes well the record
speaks for the module that was built. -/
theorem tryBuild_speaksFor (tame : b.runner.Tame b.toolchain) (input : BuildInput)
    {s : BuildState σ} (has : D.Has s.store) (there : s.tree.workingDirectory = D.cwd) :
    let after := (b.tryBuild input s).2.tree
    after.workingDirectory = D.cwd ∧
    (∀ report, (b.tryBuild input s).1 = .ok report → D.SpeaksFor s.store.binaryName after) ∧
    (∀ e, (b.tryBuild input s).1 = .error e →
      ∀ name ∈ D.names, D.SpeaksFor name s.tree → D.SpeaksFor name after) := by
  obtain ⟨s₁, r, updated, finished⟩ := tryBuild_cases tame input s.watched rfl
  have there₁ : s₁.tree.workingDirectory = D.cwd := (updated.cwd has.named).trans there
  have kept {name : String} (among : name ∈ D.names) (speaks : D.SpeaksFor name s.tree) :
      D.SpeaksFor name s₁.tree := updated.speaksFor has there among speaks
  rw [tryBuild_watched]
  rcases finished with ⟨e, -, eq⟩ | ⟨work, -, eq⟩
  · rw [eq]
    exact ⟨there₁, fun _ impossible => (by cases impossible), fun _ _ _ among => kept among⟩
  · obtain ⟨t, cleared, -, -, concluded⟩ := conclude_cases b.watched work s₁
    rw [eq]
    obtain ⟨cwd, recorded, left⟩ :=
      concluded.speaksFor (has.of_reopened updated.reopened) (cleared.cwd.trans there₁)
    refine ⟨cwd, fun report built => ?_, fun e failed name among speaks => ?_⟩
    · have same := eq_of_reopened updated.reopened binaryName fun _ => rfl
      exact same ▸ recorded report built
    · have tells := (kept among speaks).of_worked has among (worked_of_cleared cleared)
      rw [← left e failed] at tells
      exact tells

end Builder

/-- One call of a build, with the tools and the store of its project. The store may remember
whatever it likes. -/
structure Attempt (σ : Type) where
  builder : Builder σ
  store : ModuleStore
  input : BuildInput

/-- What a sequence of builds has come to, and the module that was built last, if any was. -/
structure History (σ : Type) where
  state : BuildState σ
  last : Option String

namespace Attempt

/-- The files as they have become, with the store of this attempt. -/
def start (h : History σ) (a : Attempt σ) : BuildState σ :=
  { h.state with store := a.store }

def run (h : History σ) (a : Attempt σ) : History σ :=
  match a.builder.tryBuild a.input (a.start h) with
  | (.ok _, after) => ⟨after, some a.store.binaryName⟩
  | (.error _, after) => ⟨after, h.last⟩

/-- An attempt to build one of the modules of a directory there, with tools that touch only what they
are to make. -/
structure Allowed (D : SharedDirectory) (a : Attempt σ) : Prop where
  store : D.Has a.store
  tame : a.builder.runner.Tame a.builder.toolchain

end Attempt

/-- The record tells no untruth of the module that was built last, or of any as long as none was. -/
structure History.Truthful (D : SharedDirectory) (h : History σ) : Prop where
  there : h.state.tree.workingDirectory = D.cwd
  speaks : ∀ name ∈ D.names, (∀ last ∈ h.last, last = name) → D.SpeaksFor name h.state.tree

namespace Attempt

variable {D : SharedDirectory} {h : History σ}

/-- One more build, of whatever module and however it ends, makes nothing untrue. -/
theorem run_truthful {a : Attempt σ} (allowed : a.Allowed D) (truthful : h.Truthful D) :
    (a.run h).Truthful D := by
  obtain ⟨there, recorded, kept⟩ := a.builder.tryBuild_speaksFor allowed.tame a.input
    (s := a.start h) allowed.store truthful.there
  unfold run
  rcases built : a.builder.tryBuild a.input (a.start h) with ⟨r, after⟩
  rw [built] at there recorded kept
  cases r with
  | ok report =>
    -- The module is the last one now, so nothing has to be true of any other.
    refine ⟨there, fun name among last => ?_⟩
    obtain rfl : a.store.binaryName = name := last _ rfl
    exact recorded report rfl
  | error e =>
    exact ⟨there, fun name among last => kept e rfl name among (truthful.speaks name among last)⟩

theorem foldl_truthful {attempts : List (Attempt σ)} (allowed : ∀ a ∈ attempts, a.Allowed D)
    (truthful : h.Truthful D) : (attempts.foldl run h).Truthful D := by
  induction attempts generalizing h with
  | nil => exact truthful
  | cons a rest ih =>
    obtain ⟨first, later⟩ := List.forall_mem_cons.mp allowed
    exact ih later (run_truthful first truthful)

/-- Of whatever project a store is opened on a shared directory, after whatever builds there, the
digest that it tells is that of the module that was built last. So it tells its own project no
untruth if that one was built last; and as long as no build went well the record stays true of all
of which it was true. -/
theorem hash_of_last {attempts : List (Attempt σ)} (allowed : ∀ a ∈ attempts, a.Allowed D)
    {s : History σ} (there : s.state.tree.workingDirectory = D.cwd)
    (initial : ∀ name ∈ D.names, (∀ last ∈ s.last, last = name) →
      Tells name s.state.tree D.route) :
    let final := attempts.foldl run s
    ∀ p : Project, p.buildDir ∈ D.dirs → ∀ h, p.store.hash final.state.tree = some h →
      ∀ name ∈ D.names, (∀ last ∈ final.last, last = name) →
        Digest.IsHexDigest h ∧ ∃ content, final.state.tree.Holds (D.route ++ [name]) content ∧
          h = Digest.md5 content.data.toList := by
  intro final p used h known name among last
  have truthful : final.Truthful D := foldl_truthful allowed
    ⟨there, fun name among last _ _ _ => initial name among last⟩
  have read : p.store.hashOnDisk final.state.tree = some h := known
  obtain ⟨fits, content, x, found, tells⟩ := hashOnDisk_eq read
  have has : final.state.tree.HasDigest (D.route ++ [name]) h := by
    refine truthful.speaks name among last _ used fits content x h ?_ tells
    rw [hashFile_route, truthful.there] at found
    exact D.leads _ used ▸ found
  exact ⟨has.isHexDigest, has⟩

/-- Two modules in one directory. -/
def pair : SharedDirectory where
  cwd := ["work"]
  route := ["work", "b"]
  names := {"p.bin", "q.bin"}
  dirs := {⟨"b"⟩}
  leads := by rintro p rfl; decide
  named := by rintro n (rfl | rfl) <;> exact ⟨by decide, by decide, by decide⟩
  unstaged := by rintro n (rfl | rfl) (same | same) <;> revert same <;> decide
  agree n _ := .of_fits (by rintro p rfl; exact Nat.le_of_ble_eq_true (by decide +kernel))

/-- A project of the sample in this directory. -/
def project (name : String) : Project :=
  ⟨name, "T", ⟨"b"⟩, false, none, Sample.toolchain, ⟨"t"⟩, ".bin", [], [], []⟩

def packed (name content : String) : Attempt Unit :=
  ⟨Sample.builder (Sample.runner 0 content.toUTF8), (project name).store, Sample.input⟩

/-- Before any build. -/
def unbuilt : History Unit :=
  ⟨Sample.start Sample.tree "b", none⟩

/-- Once both were built the record tells the digest of the second one. -/
theorem both_hash_second :
    let final := [packed "p" "P", packed "q" "Q"].foldl run unbuilt
    ∃ h, (project "q").store.hash final.state.tree = some h ∧ Digest.IsHexDigest h ∧ ∃ content,
      final.state.tree.Holds ["work", "b", "q.bin"] content ∧
        h = Digest.md5 content.data.toList := by
  intro final
  have told : ((project "q").store.hash final.state.tree).isSome = true := by decide +kernel
  obtain ⟨h, known⟩ := Option.isSome_iff_exists.mp told
  have last : final.last = some "q.bin" := by decide +kernel
  have allowed : ∀ a ∈ [packed "p" "P", packed "q" "Q"], a.Allowed pair := by
    simp only [List.forall_mem_cons, List.not_mem_nil, false_implies, implies_true, and_true]
    exact ⟨⟨⟨rfl, .inl rfl⟩, Sample.runner_tame _ _⟩, ⟨⟨rfl, .inr rfl⟩, Sample.runner_tame _ _⟩⟩
  have nothing : (unbuilt.state.tree.find? (pair.route ++ [hashFileName])).isNone := by
    decide +kernel
  have initial (name : String) : Tells name unbuilt.state.tree pair.route :=
    .of_no_file fun _ _ there => by rw [there] at nothing; cases nothing
  refine ⟨h, known, hash_of_last (s := unbuilt) allowed rfl (fun name _ _ => initial name)
    (project "q") rfl h known "q.bin" (.inr rfl) ?_⟩
  change ∀ n ∈ final.last, n = "q.bin"
  rw [last]
  rintro n same
  exact (Option.some.inj same).symm

/-- A project whose module was never built is told the digest of another one. -/
theorem unbuilt_told_of_other :
    let final := [packed "p" "P"].foldl run unbuilt
    ((project "q").store.hash final.state.tree).isSome = true ∧
      final.state.tree.pathExists (project "q").store.binary = false := by
  decide +kernel

end Attempt
end PlcModule
