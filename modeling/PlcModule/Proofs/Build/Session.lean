import PlcModule.Proofs.Build.Coherence
import PlcModule.Proofs.Build.Sample

/-! Sessions: builds and other uses of the stores of one module, in any order. -/
namespace PlcModule

variable {σ : Type}

/-- What can be done in a session. Every build has a builder of its own, with its tools and
templates. -/
inductive Action (σ : Type) where
  | tryBuild (b : Builder σ) (input : BuildInput)
  | build (b : Builder σ) (input : BuildInput)
  | writeSources (b : Builder σ) (input : BuildInput)
  | resetHash
  | setBuildDir (dir : Path)
  /-- Drops the store and opens a new one. -/
  | reopen (buildDir : Path) (projectName extension : String)

namespace Action

def run (s : BuildState σ) : Action σ → BuildState σ
  | tryBuild b input => (b.tryBuild input s).2
  | build b input => (b.build input s).2
  | writeSources b input => (b.writeSources input s).2
  | resetHash => (Builder.forgetHash s).2
  | setBuildDir dir => { s with store := s.store.moveTo dir }
  | reopen buildDir projectName extension =>
    { s with store := .fresh buildDir projectName extension }

/-- An action that stays with one module and with some build directories, and whose tools touch
only what they are to make. -/
def Allowed (name : String) (dirs : Set Path) : Action σ → Prop
  | tryBuild b _ => b.runner.Tame b.toolchain
  | build b _ => b.runner.Tame b.toolchain
  | writeSources _ _ => True
  | resetHash => True
  | setBuildDir dir => dir ∈ dirs
  | reopen buildDir projectName extension => buildDir ∈ dirs ∧ projectName ++ extension = name

variable {cwd : Route} {name : String} {dirs : Set Path} {s : BuildState σ}

open ModuleStore

/-- One action keeps what is said of the digest true. -/
theorem run_coherent (named : IsModuleName name) (agree : SpellingsAgree cwd name dirs)
    (c : Coherent cwd name dirs s.tree s.store) {a : Action σ} (allowed : a.Allowed name dirs) :
    Coherent cwd name dirs (a.run s).tree (a.run s).store := by
  cases a with
  | tryBuild b input => exact b.tryBuild_coherent named agree allowed input c
  | build b input =>
    have built := b.tryBuild_coherent named agree allowed input c
    have same : (b.build input s).2.tree = (b.tryBuild input s).2.tree ∧
        (b.build input s).2.store = (b.tryBuild input s).2.store := by
      unfold Builder.build
      rcases b.tryBuild input s with ⟨r, s'⟩
      cases r <;> exact ⟨rfl, rfl⟩
    rw [run, same.1, same.2]
    exact built
  | writeSources b input =>
    have quiet := b.writeSources_within input s c.there rfl
    rw [run, quiet.store]
    refine c.of_worked named (quiet.tree.mono (fun l glue => ?_) le_rfl)
    exact .inl (.inl glue)
  | resetHash => exact c.dropHashFile
  | setBuildDir dir => exact c.moveTo allowed
  | reopen buildDir projectName extension =>
    exact ⟨c.there, allowed.2, allowed.1, fun _ impossible => (by cases impossible), c.onDisk⟩

theorem foldl_coherent (named : IsModuleName name) (agree : SpellingsAgree cwd name dirs)
    {actions : List (Action σ)} (allowed : ∀ a ∈ actions, a.Allowed name dirs)
    (c : Coherent cwd name dirs s.tree s.store) :
    Coherent cwd name dirs (actions.foldl run s).tree (actions.foldl run s).store := by
  induction actions generalizing s with
  | nil => exact c
  | cons a actions ih =>
    obtain ⟨first, rest⟩ := List.forall_mem_cons.mp allowed
    exact ih rest (run_coherent named agree c first)

/-- Whatever was done in a session, a digest that the store tells, or that a new store of the same
directory would tell, is that of the bytes that the module has. -/
theorem hash_eq_md5 (named : IsModuleName name) (agree : SpellingsAgree cwd name dirs)
    {actions : List (Action σ)} (allowed : ∀ a ∈ actions, a.Allowed name dirs)
    {s : BuildState σ} (there : s.tree.workingDirectory = cwd) (module : s.store.binaryName = name)
    (used : s.store.buildDir ∈ dirs) (opened : s.store.cachedHash = none)
    (initial : ∀ p ∈ dirs, Tells name s.tree (p.route cwd)) :
    let s' := actions.foldl run s
    ∀ h, s'.store.hash s'.tree = some h ∨ s'.store.reopened.hash s'.tree = some h →
      Digest.IsHexDigest h ∧ ∃ content, s'.tree.Holds (s'.store.binary.route cwd) content ∧
        h = Digest.md5 content.data.toList := by
  intro s' h known
  have start : Coherent cwd name dirs s.tree s.store :=
    ⟨there, module, used, fun h known => (by rw [opened] at known; cases known),
      fun p used _ => initial p used⟩
  have final := foldl_coherent named agree allowed start
  have has : s'.tree.HasDigest (s'.store.buildDir.route cwd ++ [name]) h := by
    rcases known with known | known
    · exact final.hash known
    · exact final.reopened.hash known
  refine ⟨has.isHexDigest, ?_⟩
  have plain : IsPlainName s'.store.binaryName := by
    rw [final.named]
    exact named.plain
  rw [binary_route plain, final.named]
  exact has

/-- A store turns to another directory, a module is built there, and then the compiler fails. -/
def sampleSession : List (Action Unit) :=
  [.setBuildDir ⟨"c"⟩, .tryBuild (Sample.builder (Sample.runner 0 "NEW".toUTF8)) Sample.input,
    .build (Sample.builder (Sample.runner 1 "BAD".toUTF8)) Sample.input]

def sampleLast : BuildState Unit :=
  sampleSession.foldl run (Sample.start Sample.tree "b")

/-- The digest of the one build that went well is told to the end. -/
theorem sampleSession_hash :
    ∃ h, sampleLast.store.hash sampleLast.tree = some h ∧ Digest.IsHexDigest h ∧ ∃ content,
      sampleLast.tree.Holds (sampleLast.store.binary.route ["work"]) content ∧
        h = Digest.md5 content.data.toList := by
  have told : (sampleLast.store.hash sampleLast.tree).isSome = true := by decide +kernel
  obtain ⟨h, known⟩ := Option.isSome_iff_exists.mp told
  let dirs : Set Path := {⟨"b"⟩, ⟨"c"⟩}
  have fits : ∀ p ∈ dirs, (p.child hashFileName).Fits := by
    rintro p (rfl | rfl) <;> exact Nat.le_of_ble_eq_true (by decide +kernel)
  -- The working directory has no other files than the templates.
  have empty (p : Path) (none : (Sample.tree.find? (p.route ["work"] ++ [hashFileName])).isNone) :
      Tells "p.bin" Sample.tree (p.route ["work"]) :=
    .of_no_file fun _ _ there => by rw [there] at none; cases none
  have nothing : ∀ p ∈ dirs, Tells "p.bin" Sample.tree (p.route ["work"]) := by
    rintro p (rfl | rfl) <;> exact empty _ (by decide +kernel)
  have allowed : ∀ a ∈ sampleSession, a.Allowed "p.bin" dirs := by
    simp only [sampleSession, List.forall_mem_cons, List.not_mem_nil, false_implies, implies_true,
      and_true]
    exact ⟨.inr rfl, Sample.runner_tame _ _, Sample.runner_tame _ _⟩
  have coherent := hash_eq_md5 (Sample.named Sample.tree "b") (.of_fits fits) allowed
    (s := Sample.start Sample.tree "b") rfl rfl (.inl rfl) rfl nothing
  change ∀ h, sampleLast.store.hash sampleLast.tree = some h ∨ _ → _ at coherent
  exact ⟨h, known, coherent h (.inl known)⟩

end Action
end PlcModule
