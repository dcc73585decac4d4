import PlcModule.Proofs.Build.Agreement
import PlcModule.Proofs.Build.Leftovers

/-! Tools that go by what they are given. What such a tool makes in one of two trees it makes in the
other, if the trees differ in nothing but what earlier builds have left behind. -/
namespace PlcModule

variable {σ : Type}

/-- A command of a toolchain, with the files that it reads and the one that it is to make. -/
inductive Tool.Toolchain.Uses (t : Toolchain) : Command → List Path → Path → Prop where
  | compile (source object : Path) (cflags : String) :
      Uses t (t.compile source object cflags) [source] object
  | rename (object : Path) : Uses t (t.rename object) [object] object
  | link (objects : List Path) (image : Path) : Uses t (t.link objects image) objects image
  | package (module image : Path) : Uses t (t.package module image) [image] module

theorem Tool.Toolchain.Uses.makes {t : Toolchain} {c : Command} {inputs : List Path} {p : Path}
    (uses : t.Uses c inputs p) : t.Makes c p := by
  cases uses with
  | compile source _ cflags => exact .compile source p cflags
  | rename => exact .rename p
  | link => exact .link inputs p
  | package _ image => exact .package p image

namespace FileTree

variable {t u : FileTree} {p : Path} {l : Route}

theorem digest_toOption (same : (u.readBytes p).toOption = (t.readBytes p).toOption) :
    (u.digest p).toOption = (t.digest p).toOption := by
  revert same
  unfold digest
  cases t.readBytes p <;> cases u.readBytes p <;> intro same <;> cases same <;> rfl

end FileTree

namespace ModuleStore

open FileTree

variable {cwd : Route} {s : ModuleStore} {done done' : Set Route} {t u : FileTree} {name : String}

/-- To a tool that reads some files two trees look the same if those files have the same bytes and
the trees differ in nothing but what is left behind, the glue sources not included. -/
structure LooksAlike (cwd : Route) (s : ModuleStore) (inputs : List Path) (t u : FileTree) :
    Prop where
  resembles : Resembles cwd (s.leftovers cwd) (s.leftovers cwd \ glueRoutes cwd s.buildDir) t u
  inputs : ∀ p ∈ inputs, (u.readBytes p).toOption = (t.readBytes p).toOption

/-- What may differ between two builds that have written their glue sources and done some more. -/
def loose (cwd : Route) (s : ModuleStore) (done : Set Route) : Set Route :=
  s.leftovers cwd \ ({l | l ∈ s.buildDir.entered cwd} ∪ glueRoutes cwd s.buildDir ∪ done)

/-- How the trees of two such builds compare. -/
abbrev Between (cwd : Route) (s : ModuleStore) (done : Set Route) : FileTree → FileTree → Prop :=
  Resembles cwd (s.leftovers cwd) (s.loose cwd done)

theorem loose_mono (more : done ⊆ done') : s.loose cwd done' ⊆ s.loose cwd done :=
  fun _ at_ => ⟨at_.1, fun other => at_.2 (other.imp id fun on => more on)⟩

theorem loose_diff : s.loose cwd done \ done' ⊆ s.loose cwd (done ∪ done') := by
  rintro l ⟨⟨left, other⟩, undone⟩
  refine ⟨left, ?_⟩
  rintro (made | done | now)
  · exact other (.inl made)
  · exact other (.inr done)
  · exact undone now

theorem done_settled {l : Route} (on : l ∈ done) : l ∉ s.loose cwd done :=
  fun at_ => at_.2 (.inr on)

/-- Where nothing on the way to the build directory is loose, its files are located alike. -/
theorem locate_child {loose : Set Route}
    (inside : loose ⊆ s.leftovers cwd \ {l | l ∈ s.buildDir.entered cwd})
    (h : Resembles cwd (s.leftovers cwd) loose t u) (plain : IsPlainName name) :
    u.locate (s.buildDir.child name) = t.locate (s.buildDir.child name) := by
  refine h.locate fun m on at_ => ?_
  rw [Path.entered_child plain] at on
  exact (inside at_).2 on

theorem loose_inside : s.loose cwd done ⊆ s.leftovers cwd \ {l | l ∈ s.buildDir.entered cwd} :=
  fun _ at_ => ⟨at_.1, fun on => at_.2 (.inl (.inl on))⟩

theorem Between.looksAlike {inputs : List Path} (h : s.Between cwd done t u)
    (settled : ∀ p ∈ inputs, p.route cwd ∉ s.loose cwd done) : s.LooksAlike cwd inputs t u :=
  ⟨h.mono fun _ at_ => ⟨at_.1, fun glue => at_.2 (.inl (.inr glue))⟩,
    fun p member => h.read (settled p member)⟩

end ModuleStore

/-- A runner whose tools go by their command and by what they are to see: the files they read, and
all but what may be left behind. What they answer is decided by that, and so is whether they make
their output and of which bytes; a compiler and a linker that do well always make it. -/
structure Runner.Determined (runner : Runner σ) (t : Tool.Toolchain) (s : ModuleStore) (cwd : Route) :
    Prop where
  answer : ∀ {c inputs p}, t.Uses c inputs p → ∀ {tree tree'}, s.LooksAlike cwd inputs tree tree' →
    ∀ r r', (runner.call c tree r).answer = (runner.call c tree' r').answer
  output : ∀ {c inputs p}, t.Uses c inputs p → ∀ {tree tree'}, s.LooksAlike cwd inputs tree tree' →
    ∀ r r', FileTree.Alike ((runner.call c tree r).after.find? (p.route cwd))
        ((runner.call c tree' r').after.find? (p.route cwd)) ∨
      (runner.call c tree r).after.find? (p.route cwd) = tree.find? (p.route cwd) ∧
        (runner.call c tree' r').after.find? (p.route cwd) = tree'.find? (p.route cwd)
  compiles : ∀ source object cflags, ∀ {tree tree'}, s.LooksAlike cwd [source] tree tree' →
    ∀ r r', (runner.call (t.compile source object cflags) tree r).WentWell →
      FileTree.Alike
        ((runner.call (t.compile source object cflags) tree r).after.find? (object.route cwd))
        ((runner.call (t.compile source object cflags) tree' r').after.find? (object.route cwd))
  links : ∀ objects image, ∀ {tree tree'}, s.LooksAlike cwd objects tree tree' →
    ∀ r r', (runner.call (t.link objects image) tree r).WentWell →
      FileTree.Alike ((runner.call (t.link objects image) tree r).after.find? (image.route cwd))
        ((runner.call (t.link objects image) tree' r').after.find? (image.route cwd))

section

variable {runner : Runner σ} {t : Tool.Toolchain} {s : ModuleStore} {cwd : Route} {done : Set Route}
  {c : Tool.Command} {inputs : List Path} {p : Path} {tree tree' : FileTree}

/-- What a tool has made alike is loose no more. -/
theorem Runner.Tame.settles (tame : runner.Tame t) (uses : t.Uses c inputs p)
    (h : s.Between cwd done tree tree') (own : p.route cwd ∈ s.leftovers cwd) (r r' : σ)
    (alike : FileTree.Alike ((runner.call c tree r).after.find? (p.route cwd))
      ((runner.call c tree' r').after.find? (p.route cwd))) :
    s.Between cwd (done ∪ {p.route cwd}) (runner.call c tree r).after
      (runner.call c tree' r').after := by
  have left := tame c p uses.makes tree r
  have right := tame c p uses.makes tree' r'
  rw [h.left] at left
  rw [h.right] at right
  exact ((h.change own left right (.inl alike)).settle alike).mono ModuleStore.loose_diff

/-- A tool makes its output alike in both trees or leaves both as they are. -/
theorem Runner.Determined.cases (determined : runner.Determined t s cwd) (tame : runner.Tame t)
    (uses : t.Uses c inputs p) (h : s.Between cwd done tree tree')
    (settled : ∀ q ∈ inputs, q.route cwd ∉ s.loose cwd done) (r r' : σ) :
    (runner.call c tree r).answer = (runner.call c tree' r').answer ∧
    (FileTree.Alike ((runner.call c tree r).after.find? (p.route cwd))
        ((runner.call c tree' r').after.find? (p.route cwd)) ∨
      FileTree.Without ∅ tree (runner.call c tree r).after ∧
        FileTree.Without ∅ tree' (runner.call c tree' r').after) := by
  have looks := h.looksAlike settled
  refine ⟨determined.answer uses looks r r', ?_⟩
  have left := tame c p uses.makes tree r
  have right := tame c p uses.makes tree' r'
  rw [h.left] at left
  rw [h.right] at right
  rcases determined.output uses looks r r' with alike | ⟨same, same'⟩
  · exact .inl alike
  · exact .inr ⟨left.untouched same, right.untouched same'⟩

end

end PlcModule
