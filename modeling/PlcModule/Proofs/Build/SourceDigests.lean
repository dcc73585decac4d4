import Mathlib.Data.Finset.Card
import PlcModule.Proofs.Build.Growth
import PlcModule.Proofs.Build.Session
import PlcModule.Proofs.Build.Upkeep

/-! The digests of sources that a store has on record. A build that fails leaves them as they were;
one that ends well has recorded of each source what its last compile found in it. -/
namespace PlcModule

namespace SourceDigests

theorem find?_record (d : SourceDigests) (source p : Path) (digest : String) :
    (d.record source digest).find? p =
      if p.components = source.components then some digest else d.find? p := by
  rw [find?, record, List.lookup_cons]
  split
  · rename_i same
    rw [if_pos (beq_iff_eq.mp same)]
  · rename_i other
    have other : p.components ≠ source.components := beq_eq_false_iff_ne.mp other
    rw [if_neg other, find?]
    -- An entry of the source is not that of the path.
    induction d.entries with
    | nil => rfl
    | cons x rest ih =>
      obtain ⟨place, digest⟩ := x
      rw [List.filter_cons]
      by_cases here : place = source.components
      · have apart : (p.components == place) = false := beq_eq_false_iff_ne.mpr (here ▸ other)
        rw [if_neg (by simpa using here), ih, List.lookup_cons, apart]
      · rw [if_pos (by simpa using here), List.lookup_cons, List.lookup_cons, ih]

/-- The places that a digest is on record for. -/
def places (d : SourceDigests) : Finset (List Path.Component) :=
  (d.entries.map Prod.fst).toFinset

theorem size_eq_card (d : SourceDigests) : d.size = d.places.card := by
  rw [places, List.toFinset_card_of_nodup d.distinct, List.length_map, size]

theorem places_record (d : SourceDigests) (source : Path) (digest : String) :
    (d.record source digest).places = insert source.components d.places := by
  ext place
  by_cases here : place = source.components <;> simp [places, record, here]

/-- The places of some paths, each counted once however often it is spelled. -/
def placesOf (paths : List Path) : Finset (List Path.Component) :=
  (paths.map Path.components).toFinset

theorem places_recordAll (d : SourceDigests) (items : List (Path × String)) :
    (d.recordAll items).places = d.places ∪ placesOf (items.map Prod.fst) := by
  induction items generalizing d with
  | nil => simp [recordAll, placesOf]
  | cons x rest ih =>
    have later : d.recordAll (x :: rest) = (d.record x.1 x.2).recordAll rest := rfl
    rw [later, ih, places_record]
    simp [placesOf, Finset.insert_union, Finset.union_insert]

end SourceDigests

variable {σ α β : Type}

/-- The compile of a source as it begins: the job, and how things stand then. -/
structure Beginning (σ : Type) where
  job : CompileJob
  state : BuildState σ

namespace Beginning

variable (x : Beginning σ)

def file : Path := x.job.unit.file

/-- The source is at a place and has some bytes. -/
def Reads (p : Path) (content : ByteArray) : Prop :=
  x.file.components = p.components ∧ x.state.tree.readBytes x.file = .ok content

/-- The digest of the source, if it can be read. -/
def digests : List (Path × String) :=
  (x.state.tree.digest x.file).toOption.toList.map fun d => (x.file, d)

theorem digests_cases :
    (∃ content, x.state.tree.readBytes x.file = .ok content ∧
      x.digests = [(x.file, Digest.md5 content.data.toList)]) ∨
    (∀ content, x.state.tree.readBytes x.file ≠ .ok content) ∧ x.digests = [] := by
  simp only [digests, FileTree.digest]
  cases read : x.state.tree.readBytes x.file with
  | error cause => exact .inr ⟨fun content same => (by cases same), rfl⟩
  | ok content => exact .inl ⟨content, rfl, by rw [← Digest.md5OfFile_eq]; rfl⟩

/-- The source can be read, and some digests hold what it has. -/
def Known (d : SourceDigests) : Prop :=
  ∃ content, x.state.tree.readBytes x.file = .ok content ∧
    d.find? x.file = some (Digest.md5 content.data.toList)

theorem known_iff {d : SourceDigests} :
    ((x.state.tree.digest x.file).toOption.isSome &&
      d.find? x.file == (x.state.tree.digest x.file).toOption) = true ↔ x.Known d := by
  simp only [Known, FileTree.digest]
  cases x.state.tree.readBytes x.file with
  | error cause => simp [Except.map, Except.toOption]
  | ok content => simp [Except.map, Except.toOption, Digest.md5OfFile_eq]

def heading : LogLine :=
  .info ("   [CC]  " ++ x.file.displayName ++ " -> " ++ x.job.object.displayName)

def unchanged : LogLine :=
  .info ("         " ++ x.file.displayName ++ " unchanged since last build")

def command (t : Tool.Toolchain) : Tool.Command :=
  t.compile x.file x.job.object x.job.unit.cflags

def shown (t : Tool.Toolchain) : LogLine :=
  .info ("         $ " ++ (x.command t).display)

end Beginning

/-- The last of some compiles that could read a place found it with some bytes. -/
def LastRead (begun : List (Beginning σ)) (p : Path) (content : ByteArray) : Prop :=
  ∃ earlier x later, begun = earlier ++ x :: later ∧ x.Reads p content ∧
    ∀ y ∈ later, ∀ other, ¬ y.Reads p other

def Unread (begun : List (Beginning σ)) (p : Path) : Prop :=
  ∀ x ∈ begun, ∀ content, ¬ x.Reads p content

/-- Recording what compiles have read leaves at each place what was read last. -/
theorem SourceDigests.find?_begun (d : SourceDigests) (begun : List (Beginning σ)) (p : Path) :
    let d' := d.recordAll (begun.flatMap Beginning.digests)
    (∃ content, LastRead begun p content ∧ d'.find? p = some (Digest.md5 content.data.toList)) ∨
    Unread begun p ∧ d'.find? p = d.find? p := by
  intro d'
  induction begun generalizing d with
  | nil => exact .inr ⟨by simp [Unread], rfl⟩
  | cons x rest ih =>
    have step : d' = (d.recordAll x.digests).recordAll (rest.flatMap Beginning.digests) := by
      simp only [d', List.flatMap_cons, recordAll, List.foldl_append]
    rw [step]
    rcases ih (d.recordAll x.digests) with ⟨content, ⟨earlier, y, later, rfl, last⟩, found⟩ |
      ⟨unread, same⟩
    · exact .inl ⟨content, ⟨x :: earlier, y, later, rfl, last⟩, found⟩
    rw [same]
    rcases x.digests_cases with ⟨content, read, digests⟩ | ⟨unreadable, digests⟩
    · rw [digests, recordAll, List.foldl_cons, List.foldl_nil, find?_record]
      by_cases here : x.file.components = p.components
      · rw [if_pos here.symm]
        exact .inl ⟨content, ⟨[], x, rest, rfl, ⟨here, read⟩, unread⟩, rfl⟩
      · rw [if_neg fun same => here same.symm]
        exact .inr ⟨List.forall_mem_cons.mpr ⟨fun _ reads => here reads.1, unread⟩, rfl⟩
    · rw [digests]
      exact .inr ⟨List.forall_mem_cons.mpr ⟨fun content reads => unreadable content reads.2, unread⟩,
        rfl⟩

/-- What comes after a step, if that ends well. -/
def Step.onward (ran : Except BuildError α × BuildState σ) (later : BuildState σ → List β) : List β :=
  match ran with
  | (.ok _, s) => later s
  | (.error _, _) => []

theorem Step.onward_of_ok {m : Step σ α} {s : BuildState σ} {a : α}
    (later : BuildState σ → List β) (went : (m s).1 = .ok a) :
    Step.onward (m s) later = later (m s).2 := by
  rw [← Prod.mk.eta (p := m s), went]
  rfl

theorem Step.onward_of_error {m : Step σ α} {s : BuildState σ} {e : BuildError}
    (later : BuildState σ → List β) (failed : (m s).1 = .error e) :
    Step.onward (m s) later = [] := by
  rw [← Prod.mk.eta (p := m s), failed]
  rfl

namespace Builder

variable (b : Builder σ)

/-- The tools of a compile. -/
def useTools (x : Beginning σ) : Step σ (List (Path × String)) := do
  b.runTool (x.command b.toolchain) "C compilation" x.file.displayName
  b.runTool (b.toolchain.rename x.job.object) "Symbol rename" x.file.displayName
  pure x.digests

/-- The compiles that some jobs get to. -/
def beginAll : List CompileJob → BuildState σ → List (Beginning σ)
  | [], _ => []
  | job :: rest, s => ⟨job, s⟩ :: Step.onward (b.compile job s) (beginAll rest)

def beginGroups : List CompileGroup → BuildState σ → List (Beginning σ)
  | [], _ => []
  | group :: rest, s =>
    let told := (Step.info ("\nCompiling PLC code for: " ++ group.label) s).2
    b.beginAll group.jobs told ++ Step.onward (b.compileAll group.jobs told) (beginGroups rest)

/-- The compiles that a build gets to, each as it begins. -/
def beginnings (input : BuildInput) (s : BuildState σ) : List (Beginning σ) :=
  Step.onward (b.writeSources input s)
    (b.beginGroups (CompileGroup.plan s.store.buildDir input.locations))

/-- A step carries out some jobs and answers what their compiles have read. -/
structure Compiles (jobs : List CompileJob) (begin : BuildState σ → List (Beginning σ))
    (m : Step σ (List (Path × String))) : Prop where
  planned : ∀ s, (begin s).map Beginning.job <+: jobs
  within : ∀ s, ∀ x ∈ begin s, Grown s x.state ∧ Grown (b.compile x.job x.state).2 (m s).2
  answer : ∀ s digests, (m s).1 = .ok digests →
    (begin s).map Beginning.job = jobs ∧ digests = (begin s).flatMap Beginning.digests

variable {b}

/-- One step and, if that ends well, another. -/
theorem Compiles.append {jobs jobs' : List CompileJob}
    {begin begin' : BuildState σ → List (Beginning σ)}
    {m m' : Step σ (List (Path × String))} (first : b.Compiles jobs begin m)
    (rest : b.Compiles jobs' begin' m') (grows : m.Grows) (grows' : m'.Grows) :
    b.Compiles (jobs ++ jobs') (fun s => begin s ++ Step.onward (m s) begin')
      (do let digests ← m; let others ← m'; pure (digests ++ others)) := by
  have whole := fun s =>
    Step.bind_cases m (fun digests => do let others ← m'; pure (digests ++ others)) s
  refine ⟨fun s => ?_, fun s x at_ => ?_, fun s digests ended => ?_⟩
  · simp only [List.map_append]
    rcases whole s with ⟨e, failed, -⟩ | ⟨digests, went, -⟩
    · rw [Step.onward_of_error _ failed, List.map_nil, List.append_nil]
      exact (first.planned s).trans (List.prefix_append _ _)
    · rw [Step.onward_of_ok _ went, (first.answer s digests went).1]
      exact (List.prefix_append_right_inj _).mpr (rest.planned _)
  · rcases whole s with ⟨e, failed, eq⟩ | ⟨digests, went, eq⟩
    · rw [Step.onward_of_error _ failed, List.append_nil] at at_
      rw [eq]
      exact first.within s x at_
    · rw [Step.onward_of_ok _ went] at at_
      rw [eq, Step.bind_pure_apply]
      rcases List.mem_append.mp at_ with here | there
      · exact ⟨(first.within s x here).1, (first.within s x here).2.trans (grows' _)⟩
      · exact ⟨(grows s).trans (rest.within _ x there).1, (rest.within _ x there).2⟩
  · obtain ⟨here, went, ended, -⟩ := Step.ok_of_bind_ok ended
    obtain ⟨there, also, ended, -⟩ := Step.ok_of_bind_ok ended
    cases ended
    obtain ⟨jobs, digests⟩ := first.answer s here went
    obtain ⟨jobs', digests'⟩ := rest.answer _ there also
    rw [Step.onward_of_ok _ went, List.map_append, List.flatMap_append, jobs, jobs', digests, digests']
    exact ⟨rfl, rfl⟩

/-- What a compile does first: it heads its lines, and a verbose one tells of a source that has not
changed since its digest was recorded. -/
theorem compile_start (x : Beginning σ) :
    ∃ told : Log, b.compile x.job x.state = b.useTools x
        { x.state with log := x.state.log ++ x.heading :: told } ∧
      (b.verbose = true → told = [x.unchanged] ∧ x.Known x.state.store.digests ∨
        told = [] ∧ ¬ x.Known x.state.store.digests) := by
  have start : b.compile x.job x.state =
      (Step.infoIf (b.verbose && (x.state.tree.digest x.file).toOption.isSome &&
          x.state.store.digests.find? x.file == (x.state.tree.digest x.file).toOption)
        ("         " ++ x.file.displayName ++ " unchanged since last build") >>= fun _ =>
          b.useTools x) { x.state with log := x.state.log ++ [x.heading] } := rfl
  rw [start, Step.infoIf_bind, Bool.and_assoc]
  simp only [List.append_assoc, List.singleton_append]
  refine ⟨_, rfl, fun verbose => ?_⟩
  rw [verbose, Bool.true_and]
  by_cases known : x.Known x.state.store.digests
  · rw [if_pos (x.known_iff.mpr known)]
    exact .inl ⟨rfl, known⟩
  · rw [if_neg fun same => known (x.known_iff.mp same)]
    exact .inr ⟨rfl, known⟩

/-- A tool is issued first of all, and a verbose build shows its command. -/
theorem runTool_start (c : Tool.Command) (step subject : String) (s : BuildState σ) :
    s.issued ++ [c] <+: (b.runTool c step subject s).2.issued ∧
    (b.verbose = true → s.log ++ [.info ("         $ " ++ c.display)] <+:
      (b.runTool c step subject s).2.log) := by
  let judged (answer : Except BuildError Tool.Output) : Step σ Unit := do
    let output ← .need fun _ => Tool.judge c step subject answer
    .infoIf (!Text.isBlankText output.stderr)
      (b.style.yellow "!" ++ " Warning in " ++ subject ++ ":\n" ++ Text.trim output.stderr)
  have answered (s' : BuildState σ) : Grown (Step.issue b.runner c s').2
      ((Step.issue b.runner c >>= judged) s').2 := by
    have grows (answer) : (judged answer).Grows := .bind (.need _) fun _ => .infoIf _ _
    exact grows _ _
  have start : b.runTool c step subject s =
      (Step.infoIf b.verbose ("         $ " ++ c.display) >>= fun _ =>
        .issue b.runner c >>= judged) s := rfl
  rw [start, Step.infoIf_bind]
  have grown := answered
    { s with log := s.log ++ if b.verbose then [.info ("         $ " ++ c.display)] else [] }
  refine ⟨grown.issued, fun verbose => ?_⟩
  simp only [verbose, if_true] at grown ⊢
  exact grown.log

/-- A compile issues its command, and a verbose one shows it after what it has to tell of the
source. -/
theorem compile_shows (x : Beginning σ) :
    x.state.issued ++ [x.command b.toolchain] <+: (b.compile x.job x.state).2.issued ∧
    (b.verbose = true → ∃ told,
      x.state.log ++ (x.heading :: told ++ [x.shown b.toolchain]) <+:
        (b.compile x.job x.state).2.log ∧
      (told = [x.unchanged] ∧ x.Known x.state.store.digests ∨
        told = [] ∧ ¬ x.Known x.state.store.digests)) := by
  obtain ⟨told, start, remark⟩ := compile_start (b := b) x
  let headed : BuildState σ := { x.state with log := x.state.log ++ x.heading :: told }
  obtain ⟨issued, shown⟩ := runTool_start (b := b) (x.command b.toolchain) "C compilation"
    x.file.displayName headed
  have grown : Grown _ (b.useTools x headed).2 := Step.Grows.after
    (b.runTool (x.command b.toolchain) "C compilation" x.file.displayName)
    (fun _ => .bind (b.runTool_grows _ _ _) fun _ => .pure _) headed
  rw [start]
  refine ⟨issued.trans grown.issued, fun verbose => ⟨told, ?_, remark verbose⟩⟩
  have log := (shown verbose).trans grown.log
  rw [List.append_assoc] at log
  exact log

theorem compile_answer (x : Beginning σ) {digests : List (Path × String)}
    (went : (b.compile x.job x.state).1 = .ok digests) : digests = x.digests := by
  obtain ⟨told, start, -⟩ := compile_start (b := b) x
  rw [start] at went
  obtain ⟨-, -, went, -⟩ := Step.ok_of_bind_ok went
  obtain ⟨-, -, went, -⟩ := Step.ok_of_bind_ok went
  cases went
  rfl

theorem compile_compiles (job : CompileJob) :
    b.Compiles [job] (fun s => [⟨job, s⟩]) (b.compile job) where
  planned _ := List.prefix_rfl
  within s x at_ := by
    rw [List.mem_singleton] at at_
    subst at_
    exact ⟨.refl _, .refl _⟩
  answer s digests went := ⟨rfl, by simpa using compile_answer ⟨job, s⟩ went⟩

theorem compileAll_compiles (jobs : List CompileJob) :
    b.Compiles jobs (b.beginAll jobs) (b.compileAll jobs) := by
  induction jobs with
  | nil =>
    refine ⟨fun _ => List.prefix_rfl, fun _ _ none => (by cases none), fun _ _ went => ?_⟩
    cases went
    exact ⟨rfl, rfl⟩
  | cons job rest ih =>
    exact (compile_compiles job).append ih (b.compile_grows job) (b.compileAll_grows rest)

/-- A line that is told before changes nothing of what is carried out. -/
theorem Compiles.told {jobs : List CompileJob} {begin : BuildState σ → List (Beginning σ)}
    {m : Step σ (List (Path × String))} (h : b.Compiles jobs begin m) (text : String) :
    b.Compiles jobs (fun s => begin (Step.info text s).2) (Step.info text >>= fun _ => m) where
  planned _ := h.planned _
  within s x at_ := ⟨(Step.Grows.info text s).trans (h.within _ x at_).1, (h.within _ x at_).2⟩
  answer _ := h.answer _

theorem compileGroups_compiles (groups : List CompileGroup) :
    b.Compiles (planJobs groups) (b.beginGroups groups) (b.compileGroups groups) := by
  induction groups with
  | nil =>
    refine ⟨fun _ => List.prefix_rfl, fun _ _ none => (by cases none), fun _ _ went => ?_⟩
    cases went
    exact ⟨rfl, rfl⟩
  | cons group rest ih =>
    exact ((compileAll_compiles group.jobs).append ih (b.compileAll_grows _)
      (b.compileGroups_grows rest)).told _

/-- A project is compiled from its first compile to its last. -/
theorem compileProject_begins (b : Builder σ) (input : BuildInput) (s : BuildState σ) :
    let begun := b.beginnings input s
    let jobs := planJobs (CompileGroup.plan s.store.buildDir input.locations)
    begun.map Beginning.job <+: jobs ∧
    (∀ x ∈ begun, Grown s x.state ∧
      Grown (b.compile x.job x.state).2 (b.compileProject input s).2) ∧
    ∀ work, (b.compileProject input s).1 = .ok work →
      begun.map Beginning.job = jobs ∧ work.digests = begun.flatMap Beginning.digests := by
  intro begun jobs
  cases written : (b.writeSources input s).1 with
  | error e =>
    have none : begun = [] := Step.onward_of_error _ written
    have failed : b.compileProject input s = _ := Step.bind_of_error _ written
    rw [none, failed]
    exact ⟨List.nil_prefix, fun _ none => (by cases none), fun work done => (by cases done)⟩
  | ok _ =>
    have grown := b.writeSources_grows input s
    have begins : begun = b.beginGroups (CompileGroup.plan s.store.buildDir input.locations)
      (b.writeSources input s).2 := Step.onward_of_ok _ written
    have project : b.compileProject input s = _ := Step.bind_of_ok _ written
    generalize (b.writeSources input s).2 = t at grown begins project
    have compiles :=
      compileGroups_compiles (b := b) (CompileGroup.plan t.store.buildDir input.locations)
    have rest := project.trans (Step.bind_pure_apply
      (b.compileGroups (CompileGroup.plan t.store.buildDir input.locations)) _ t)
    rw [← grown.buildDir] at begins
    have planned : planJobs (CompileGroup.plan t.store.buildDir input.locations) = jobs := by
      rw [grown.buildDir]
    rw [begins, rest, ← planned]
    refine ⟨compiles.planned t, fun x at_ => ?_, fun work done => ?_⟩
    · obtain ⟨before, after⟩ := compiles.within t x at_
      exact ⟨grown.trans before, after⟩
    · cases compiled : (b.compileGroups (CompileGroup.plan t.store.buildDir input.locations) t).1 with
      | error e =>
        rw [compiled] at done
        cases done
      | ok digests =>
        rw [compiled] at done
        cases done
        exact compiles.answer t digests compiled

/-- The digests of sources are recorded once nothing can fail any more. -/
theorem conclude_records (b : Builder σ) (work : Compiled) (s : BuildState σ) :
    let s' := (b.conclude work s).2
    s.log <+: s'.log ∧ s.issued <+: s'.issued ∧
    (∀ e, (b.conclude work s).1 = .error e → s'.store.digests = s.store.digests) ∧
    ∀ report, (b.conclude work s).1 = .ok report →
      s'.store.digests = s.store.digests.recordAll work.digests := by
  let hashed : Step σ String := b.removeIntermediates >>= fun _ => recordHash
  let done (hash : String) : Step σ BuildReport := b.tellDone hash >>= fun _ =>
    pure ⟨s.store.binary, hash, work.jobs.length, work.relinked⟩
  have cleared : b.removeIntermediates.Grows :=
    .bind (.of_idle fun _ => ⟨_, rfl⟩) fun _ => .infoIf _ _
  have grown : Grown s (hashed s).2 := cleared.bind (fun _ => recordHash_grows) s
  have eq : b.conclude work s =
      (hashed >>= fun hash => recordDigests work.digests >>= fun _ => done hash) s :=
    congrFun (bind_assoc b.removeIntermediates (fun _ => recordHash) _).symm s
  intro s'
  rcases Step.bind_cases hashed (fun hash => recordDigests work.digests >>= fun _ => done hash) s with
    ⟨e, -, failed⟩ | ⟨hash, -, recorded⟩
  · simp only [s', eq, failed]
    exact ⟨grown.log, grown.issued, fun _ _ => grown.digests, fun _ ended => (by cases ended)⟩
  · let left : BuildState σ :=
      { (hashed s).2 with store := (hashed s).2.store.recordDigests work.digests }
    have told : Grown left (b.tellDone hash left).2 := b.tellDone_grows hash left
    have ended : b.conclude work s = (.ok ⟨s.store.binary, hash, work.jobs.length, work.relinked⟩,
        (b.tellDone hash left).2) := eq.trans recorded
    simp only [s', ended]
    refine ⟨grown.log.trans told.log, grown.issued.trans told.issued,
      fun _ failed => (by cases failed), fun _ _ => ?_⟩
    rw [told.digests, ← grown.digests]
    rfl

/-- Only a build that ends well records digests, those of all that it has compiled. -/
theorem tryBuild_records (b : Builder σ) (input : BuildInput) (s : BuildState σ) :
    let project := b.compileProject input s
    let s' := (b.tryBuild input s).2
    project.2.log <+: s'.log ∧ project.2.issued <+: s'.issued ∧
    (∀ e, (b.tryBuild input s).1 = .error e → s'.store.digests = s.store.digests) ∧
    ∀ report, (b.tryBuild input s).1 = .ok report → ∃ work, project.1 = .ok work ∧
      s'.store.digests = s.store.digests.recordAll work.digests := by
  intro project s'
  have compiled : Grown s project.2 := b.compileProject_grows input s
  rcases Step.bind_cases (b.compileProject input)
    (fun work => b.updateModule work >>= fun _ => b.conclude work) s with
    ⟨e, -, failed⟩ | ⟨work, went, rest⟩
  · have build : b.tryBuild input s = _ := failed
    simp only [s', build]
    exact ⟨List.prefix_rfl, List.prefix_rfl, fun _ _ => compiled.digests,
      fun _ ended => (by cases ended)⟩
  have updated : Grown project.2 (b.updateModule work project.2).2 := b.updateModule_grows work _
  rcases Step.bind_cases (b.updateModule work) (fun _ => b.conclude work) project.2 with
    ⟨e, -, failed⟩ | ⟨_, -, concluded⟩
  · have build : b.tryBuild input s = _ := rest.trans failed
    simp only [s', build]
    exact ⟨updated.log, updated.issued, fun _ _ => updated.digests.trans compiled.digests,
      fun _ ended => (by cases ended)⟩
  · have build : b.tryBuild input s = _ := rest.trans concluded
    obtain ⟨log, issued, kept, recorded⟩ := conclude_records b work (b.updateModule work project.2).2
    have same := updated.digests.trans compiled.digests
    rw [same] at kept recorded
    simp only [s', build]
    exact ⟨updated.log.trans log, updated.issued.trans issued, kept,
      fun report ended => ⟨work, went, recorded report ended⟩⟩

/-- The sources that a build could read when it compiled them. -/
def sourcesRead (b : Builder σ) (input : BuildInput) (s : BuildState σ) : List Path :=
  ((b.beginnings input s).filter fun x => (x.state.tree.readBytes x.file).isOk).map Beginning.file

theorem digests_sources (begun : List (Beginning σ)) :
    (begun.flatMap Beginning.digests).map Prod.fst =
      (begun.filter fun x => (x.state.tree.readBytes x.file).isOk).map Beginning.file := by
  induction begun with
  | nil => rfl
  | cons x rest ih =>
    rw [List.flatMap_cons, List.map_append, ih, List.filter_cons]
    rcases x.digests_cases with ⟨content, read, digests⟩ | ⟨unreadable, digests⟩
    · rw [digests, read]
      rfl
    · cases read : x.state.tree.readBytes x.file with
      | ok content => exact absurd read (unreadable content)
      | error cause => rw [digests]; rfl

theorem tryBuild_places (b : Builder σ) (input : BuildInput) (s : BuildState σ) :
    (b.tryBuild input s).2.store.digests.places = s.store.digests.places ∪ SourceDigests.placesOf
      (if (b.tryBuild input s).1.isOk then b.sourcesRead input s else []) := by
  obtain ⟨-, -, kept, recorded⟩ := tryBuild_records b input s
  cases ended : (b.tryBuild input s).1 with
  | error e =>
    rw [kept e ended]
    simp [Except.isOk, Except.toBool, SourceDigests.placesOf]
  | ok report =>
    obtain ⟨work, went, digests⟩ := recorded report ended
    obtain ⟨-, same⟩ := (compileProject_begins b input s).2.2 work went
    rw [digests, SourceDigests.places_recordAll, same, digests_sources]
    rfl

theorem build_store (b : Builder σ) (input : BuildInput) (s : BuildState σ) :
    (b.build input s).2.store = (b.tryBuild input s).2.store := by
  unfold build
  rcases b.tryBuild input s with ⟨_ | _, s'⟩ <;> rfl

end Builder

/-- What can be done with a store: what a session does and what the store does by itself. -/
abbrev Use (σ : Type) := Action σ ⊕ Upkeep

namespace Use

variable {s : BuildState σ}

def run (s : BuildState σ) : Use σ → BuildState σ
  | .inl action => action.run s
  | .inr upkeep => upkeep.run s

/-- Turns to another build directory or opens a new store. -/
def leaves (s : BuildState σ) : Use σ → Bool
  | .inl (.setBuildDir dir) => !s.store.buildDir.same dir
  | .inr (.setBuildDir dir) => !s.store.buildDir.same dir
  | .inl (.reopen _ _ _) => true
  | _ => false

/-- The paths that digests are recorded for. -/
def records (s : BuildState σ) : Use σ → List Path
  | .inl (.tryBuild b input) => if (b.tryBuild input s).1.isOk then b.sourcesRead input s else []
  | .inl (.build b input) => if (b.tryBuild input s).1.isOk then b.sourcesRead input s else []
  | .inr (.recordDigests items) => items.map Prod.fst
  | _ => []

/-- The places on record after some uses: those that were, and those recorded, since the build
directory was last changed. -/
def onRecord : BuildState σ → Finset (List Path.Component) → List (Use σ) →
    Finset (List Path.Component)
  | _, held, [] => held
  | s, held, use :: rest => onRecord (run s use)
      ((if use.leaves s then ∅ else held) ∪ SourceDigests.placesOf (use.records s)) rest

theorem moveTo_places (store : ModuleStore) (dir : Path) :
    (store.moveTo dir).digests.places =
      if !store.buildDir.same dir then ∅ else store.digests.places := by
  unfold ModuleStore.moveTo
  cases store.buildDir.same dir <;> rfl

/-- One use. -/
theorem run_places (s : BuildState σ) (use : Use σ) :
    (run s use).store.digests.places = (if use.leaves s then ∅ else s.store.digests.places) ∪
      SourceDigests.placesOf (use.records s) := by
  have none : SourceDigests.placesOf [] = ∅ := rfl
  rcases use with action | upkeep
  · cases action with
    | tryBuild b input => exact b.tryBuild_places input s
    | build b input =>
      rw [run, Action.run, b.build_store]
      exact b.tryBuild_places input s
    | writeSources b input =>
      rw [run, Action.run, SourceDigests.places, (b.writeSources_grows input s).digests]
      simp [leaves, records, none, SourceDigests.places]
    | resetHash => simp [leaves, records, none]; rfl
    | setBuildDir dir =>
      rw [run, Action.run, moveTo_places]
      simp [leaves, records, none]
    | reopen buildDir projectName extension => simp [leaves, records, none]; rfl
  · cases upkeep with
    | recordHash hash =>
      rcases Upkeep.keepHash_cases hash s with ⟨e, failed⟩ | ⟨tree, -, recorded⟩
      · rw [run, Upkeep.run, failed]
        simp [leaves, records, none]
      · rw [run, Upkeep.run, recorded]
        simp [leaves, records, none, ModuleStore.rememberHash]
    | resetHash => simp [leaves, records, none]; rfl
    | setBuildDir dir =>
      rw [run, Upkeep.run, moveTo_places]
      simp [leaves, records, none]
    | recordDigests items => exact s.store.digests.places_recordAll items

theorem foldl_places (s : BuildState σ) (uses : List (Use σ)) :
    (uses.foldl run s).store.digests.places = onRecord s s.store.digests.places uses := by
  induction uses generalizing s with
  | nil => rfl
  | cons use rest ih => rw [List.foldl_cons, ih, run_places, onRecord]

end Use

namespace Builder

/-- A build that fails leaves the digests of sources as they were, however far it got. One that ends
well has compiled all that is planned, and at each path the digest is that of the bytes that the
last of the compiles there could read, or the one before if none could. A verbose build tells under
the heading of a source that it is unchanged, if it can be read and its digest was on record before
the build, and else goes on to the compiler. However a store is used, as many digests are on record
as places were recorded since its build directory last changed. -/
theorem tryBuild_source_digests (b : Builder σ) (input : BuildInput) (s : BuildState σ) :
    let result := (b.tryBuild input s).1
    let s' := (b.tryBuild input s).2
    let begun := b.beginnings input s
    let jobs := planJobs (CompileGroup.plan s.store.buildDir input.locations)
    (∀ e, result = .error e → s'.store.digests = s.store.digests) ∧
    begun.map Beginning.job <+: jobs ∧
    (∀ report, result = .ok report → begun.map Beginning.job = jobs ∧ ∀ p : Path,
      (∃ content, LastRead begun p content ∧
        s'.store.digests.find? p = some (Digest.md5 content.data.toList)) ∨
      Unread begun p ∧ s'.store.digests.find? p = s.store.digests.find? p) ∧
    (∀ x ∈ begun, x.state.issued ++ [x.command b.toolchain] <+: s'.issued ∧
      (b.verbose = true → ∃ told,
        x.state.log ++ (x.heading :: told ++ [x.shown b.toolchain]) <+: s'.log ∧
        (told = [x.unchanged] ∧ x.Known s.store.digests ∨
          told = [] ∧ ¬ x.Known s.store.digests))) ∧
    ∀ uses : List (Use σ), (uses.foldl Use.run s).store.digests.size =
      (Use.onRecord s s.store.digests.places uses).card := by
  intro result s' begun jobs
  obtain ⟨log, issued, kept, recorded⟩ := tryBuild_records b input s
  obtain ⟨planned, within, answered⟩ := compileProject_begins b input s
  refine ⟨kept, planned, fun report ended => ?_, fun x at_ => ?_, fun uses => ?_⟩
  · obtain ⟨work, went, digests⟩ := recorded report ended
    obtain ⟨whole, same⟩ := answered work went
    refine ⟨whole, fun p => ?_⟩
    rw [digests, same]
    exact s.store.digests.find?_begun begun p
  · obtain ⟨before, after⟩ := within x at_
    obtain ⟨first, told⟩ := compile_shows (b := b) x
    refine ⟨first.trans (after.issued.trans issued), fun verbose => ?_⟩
    obtain ⟨told, lines, remark⟩ := told verbose
    rw [before.digests] at remark
    exact ⟨told, lines.trans (after.log.trans log), remark⟩
  · rw [SourceDigests.size_eq_card, Use.foldl_places]

end Builder
end PlcModule
