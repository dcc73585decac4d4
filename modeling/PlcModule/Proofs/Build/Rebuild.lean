import PlcModule.Proofs.Build.Determined

/-! A rebuild over what was left behind comes to what a clean build comes to. Two builds of one
module are taken side by side, from trees that differ in left-over files alone; each step makes
alike what it writes before a later step looks at it. -/
namespace PlcModule

variable {σ : Type}

theorem Template.load_same {t u : FileTree} {p : Path} (same : u.readBytes p = t.readBytes p) :
    Template.load u p = Template.load t p := by
  simp only [Template.load, FileTree.readText, same]

namespace Builder

open FileTree

variable {b : Builder σ} {store : ModuleStore} {cwd : Route} {input : BuildInput}

/-- What a build reads it does not leave behind itself, and no path to it leads through what is
left behind; but a source may be one of the rendered ones. -/
structure ReadsApart (b : Builder σ) (input : BuildInput) (s : ModuleStore) (cwd : Route) :
    Prop where
  templates : ∀ p ∈ [b.templates.mainTemplate, b.templates.debugTemplate, b.templates.accessCode,
    b.templates.header], Resembles.Clear cwd (s.leftovers cwd) p ∧ p.route cwd ∉ s.leftovers cwd
  inventory : ∀ t u, Resembles cwd (s.leftovers cwd) (s.leftovers cwd) t u →
    input.inventory u = input.inventory t
  sources : ∀ unit ∈ BuildPlan.units s.buildDir input.locations,
    unit.file.route cwd ∈ s.leftovers cwd →
      unit.file.route cwd ∈ ModuleStore.glueRoutes cwd s.buildDir

theorem ReadsApart.generate {loose : Set Route} {t u : FileTree}
    (apart : b.ReadsApart input store cwd) (inside : loose ⊆ store.leftovers cwd)
    (h : Resembles cwd (store.leftovers cwd) loose t u) :
    GlueSources.generate u b.templates input = GlueSources.generate t b.templates input := by
  have wide := h.mono inside
  have load {p : Path} (template : p ∈ [b.templates.mainTemplate, b.templates.debugTemplate,
      b.templates.accessCode, b.templates.header]) : Template.load u p = Template.load t p := by
    obtain ⟨clear, settled⟩ := apart.templates p template
    exact Template.load_same (wide.readBytes (wide.locate clear) settled)
  simp only [GlueSources.generate, GlueSources.accessCode, apart.inventory t u wide,
    load (p := b.templates.mainTemplate) (by simp), load (p := b.templates.debugTemplate) (by simp),
    load (p := b.templates.accessCode) (by simp)]

theorem makeBuildDir_agree {own : Set Route} :
    Step.Agree store (fun t u => DifferInFiles cwd own store.buildDir t u ∧
        (t.makeDirectories store.buildDir).2 = (u.makeDirectories store.buildDir).2)
      (fun _ => Resembles cwd own (own \ {l | l ∈ store.buildDir.entered cwd}))
      (makeBuildDir : Step σ Unit) makeBuildDir := by
  refine .of_quiet fun s s' held held' ⟨differ, same⟩ => ?_
  have dir := ModuleStore.eq_of_reopened held ModuleStore.buildDir fun _ => rfl
  have dir' := ModuleStore.eq_of_reopened held' ModuleStore.buildDir fun _ => rfl
  have made := differ.made
  simp only [makeBuildDir, dir, dir']
  revert same made
  rcases s.tree.makeDirectories store.buildDir with ⟨t, r⟩
  rcases s'.tree.makeDirectories store.buildDir with ⟨u, r'⟩
  rintro rfl made
  cases r with
  | ok _ => exact ⟨rfl, rfl, rfl, fun _ _ => ⟨held, held', made rfl rfl⟩⟩
  | error cause =>
    refine ⟨rfl, rfl, rfl, fun a impossible => ?_⟩
    cases impossible

theorem writeText_agree {loose : Set Route} {name : String}
    (named : ModuleStore.IsModuleName store.binaryName) (left : store.LeavesBehind name)
    (inside : loose ⊆ store.leftovers cwd \ {l | l ∈ store.buildDir.entered cwd})
    (content : String) :
    Step.Agree store (Resembles cwd (store.leftovers cwd) loose)
      (fun _ => Resembles cwd (store.leftovers cwd)
        (loose \ {(store.buildDir.child name).route cwd}))
      (writeText (store.buildDir.child name) content : Step σ Unit)
      (writeText (store.buildDir.child name) content) :=
  .files fun _ _ h => h.writeBytes (ModuleStore.locate_child inside h (left.plain named))
    (ModuleStore.child_mem_leftovers named left cwd) _

/-- From trees that differ in left-over files, and in the directories that lead to them, the glue
sources are made alike, if the build directory can be made in both or in neither. -/
theorem writeSources_agree (named : ModuleStore.IsModuleName store.binaryName)
    (apart : b.ReadsApart input store cwd) :
    Step.Agree store (fun t u => DifferInFiles cwd (store.leftovers cwd) store.buildDir t u ∧
        (t.makeDirectories store.buildDir).2 = (u.makeDirectories store.buildDir).2)
      (fun _ => store.Between cwd ∅) (b.writeSources input) (b.writeSources input) := by
  refine .ask_bind fun s s' held held' _ => ?_
  have dir := ModuleStore.eq_of_reopened held ModuleStore.buildDir fun _ => rfl
  have dir' := ModuleStore.eq_of_reopened held' ModuleStore.buildDir fun _ => rfl
  rw [dir, dir']
  have glue {name : String} (glue : name ∈ glueNames) : store.LeavesBehind name := .inl glue
  have generate : Step.Agree store (Resembles cwd (store.leftovers cwd)
        (store.leftovers cwd \ {l | l ∈ store.buildDir.entered cwd}))
      (fun _ => Resembles cwd (store.leftovers cwd)
        (store.leftovers cwd \ {l | l ∈ store.buildDir.entered cwd}))
      (Step.need fun s : BuildState σ => GlueSources.generate s.tree b.templates input)
      (Step.need fun s => GlueSources.generate s.tree b.templates input) :=
    .need fun _ _ _ _ h => ⟨(apart.generate (fun _ at_ => at_.1) h).symm, fun _ _ => h⟩
  refine .bind makeBuildDir_agree fun _ => .bind generate fun sources => ?_
  refine .bind (writeText_agree named (glue (by decide)) le_rfl _) fun _ =>
    .bind (writeText_agree named (glue (by decide)) (fun _ at_ => at_.1) _) fun _ =>
      .files fun t u h => ?_
  obtain ⟨clear, settled⟩ := apart.templates b.templates.header (by simp)
  have header : IsPlainName headerName := by decide
  have own := ModuleStore.child_mem_leftovers named
    (glue (show headerName ∈ glueNames by decide)) cwd
  have source := h.locate fun m on at_ => clear m on at_.1.1.1
  have goal := ModuleStore.locate_child (fun _ at_ => at_.1.1) h header
  have copied := h.copyFile source (fun at_ => settled at_.1.1.1) goal own
    (ne_of_mem_of_not_mem own settled).symm
  refine copied.mono fun t u after => after.mono ?_
  rintro l ⟨⟨⟨⟨left, way⟩, main⟩, debug⟩, header⟩
  refine ⟨left, ?_⟩
  rintro ((on | glue) | impossible)
  · exact way on
  · rcases glue with rfl | rfl | rfl
    · exact main rfl
    · exact debug rfl
    · exact header rfl
  · exact impossible

/-- Where jobs put their objects. -/
def objectRoutes (cwd : Route) (jobs : List CompileJob) : Set Route :=
  {l | ∃ job ∈ jobs, l = job.object.route cwd}

theorem objectRoutes_append (cwd : Route) (jobs rest : List CompileJob) (done : Set Route) :
    done ∪ objectRoutes cwd (jobs ++ rest) ⊆
      done ∪ objectRoutes cwd jobs ∪ objectRoutes cwd rest := by
  rintro l (before | ⟨job, member, rfl⟩)
  · exact .inl (.inl before)
  · rcases List.mem_append.mp member with first | later
    · exact .inl (.inr ⟨job, first, rfl⟩)
    · exact .inr ⟨job, later, rfl⟩

section

variable {done : Set Route} (tame : b.runner.Tame b.toolchain)
  (determined : b.runner.Determined b.toolchain store cwd)

include tame determined

/-- A source is compiled to an object that is alike in both builds. -/
theorem compile_agree {job : CompileJob} (object : job.object.route cwd ∈ store.leftovers cwd)
    (source : job.unit.file.route cwd ∉ store.loose cwd done) :
    Step.Agree store (store.Between cwd done)
      (fun _ => store.Between cwd (done ∪ {job.object.route cwd})) (b.compile job)
      (b.compile job) := by
  have compiled : Step.Agree store (store.Between cwd done)
      (fun _ => store.Between cwd (done ∪ {job.object.route cwd}))
      (b.runTool (b.toolchain.compile job.unit.file job.object job.unit.cflags) "C compilation"
        job.unit.file.displayName)
      (b.runTool (b.toolchain.compile job.unit.file job.object job.unit.cflags) "C compilation"
        job.unit.file.displayName) := by
    refine runTool_agree fun t u r r' h => ?_
    have uses : b.toolchain.Uses _ _ _ := .compile job.unit.file job.object job.unit.cflags
    have looks : store.LooksAlike cwd [job.unit.file] t u := h.looksAlike (by simpa using source)
    exact ⟨determined.answer uses looks r r', fun well =>
      tame.settles uses h object r r' (determined.compiles _ _ _ looks r r' well)⟩
  have renamed : Step.Agree store (store.Between cwd (done ∪ {job.object.route cwd}))
      (fun _ => store.Between cwd (done ∪ {job.object.route cwd}))
      (b.runTool (b.toolchain.rename job.object) "Symbol rename" job.unit.file.displayName)
      (b.runTool (b.toolchain.rename job.object) "Symbol rename" job.unit.file.displayName) := by
    refine runTool_agree fun t u r r' h => ?_
    have settled : ∀ q ∈ [job.object], q.route cwd ∉
        store.loose cwd (done ∪ {job.object.route cwd}) := by
      intro q member
      rw [List.mem_singleton.mp member]
      exact ModuleStore.done_settled (.inr rfl)
    obtain ⟨answer, alike | ⟨kept, kept'⟩⟩ :=
      determined.cases tame (.rename job.object) h settled r r'
    · refine ⟨answer, fun _ => ?_⟩
      have after := tame.settles (.rename job.object) h object r r' alike
      exact after.mono (ModuleStore.loose_mono Set.subset_union_left)
    · exact ⟨answer, fun _ => (h.without kept kept').mono fun _ at_ => at_.1⟩
  refine .bind (.info _ _) fun _ => .ask_bind fun s s' _ _ h => .ask_bind fun _ _ _ _ _ => ?_
  have digest := digest_toOption (h.read source)
  rw [digest]
  exact .bind (.infoIf _ _ _ _) fun _ => .bind compiled fun _ => .bind renamed fun _ =>
    .pure fun _ _ h => h

theorem compileAll_agree {jobs : List CompileJob}
    (objects : ∀ job ∈ jobs, job.object.route cwd ∈ store.leftovers cwd)
    (sources : ∀ job ∈ jobs, job.unit.file.route cwd ∉ store.loose cwd done) :
    Step.Agree store (store.Between cwd done)
      (fun _ => store.Between cwd (done ∪ objectRoutes cwd jobs)) (b.compileAll jobs)
      (b.compileAll jobs) := by
  induction jobs generalizing done with
  | nil => exact .pure fun t u h => h.mono (ModuleStore.loose_mono (by simp [objectRoutes]))
  | cons job rest ih =>
    obtain ⟨object, objects⟩ := List.forall_mem_cons.mp objects
    obtain ⟨source, sources⟩ := List.forall_mem_cons.mp sources
    have first := compile_agree tame determined object source
    have one : objectRoutes cwd [job] = {job.object.route cwd} := by simp [objectRoutes]
    rw [← one] at first
    refine .bind first fun _ => .bind (ih objects fun job' member at_ => ?_) fun _ =>
      .pure fun t u h => h.mono (ModuleStore.loose_mono (objectRoutes_append cwd [job] rest done))
    exact sources job' member (ModuleStore.loose_mono Set.subset_union_left at_)

theorem compileGroups_agree {groups : List CompileGroup}
    (objects : ∀ job ∈ planJobs groups, job.object.route cwd ∈ store.leftovers cwd)
    (sources : ∀ job ∈ planJobs groups, job.unit.file.route cwd ∉ store.loose cwd done) :
    Step.Agree store (store.Between cwd done)
      (fun _ => store.Between cwd (done ∪ objectRoutes cwd (planJobs groups)))
      (b.compileGroups groups) (b.compileGroups groups) := by
  induction groups generalizing done with
  | nil =>
    exact .pure fun t u h => h.mono (ModuleStore.loose_mono (by simp [objectRoutes, planJobs]))
  | cons group rest ih =>
    have whole : planJobs (group :: rest) = group.jobs ++ planJobs rest := List.flatMap_cons
    rw [whole] at objects sources ⊢
    obtain ⟨object, objects⟩ := List.forall_mem_append.mp objects
    obtain ⟨source, sources⟩ := List.forall_mem_append.mp sources
    refine .bind (.info _ _) fun _ => .bind (compileAll_agree tame determined object source)
      fun _ => .bind (ih objects fun job member at_ => ?_) fun _ =>
        .pure fun t u h => h.mono (ModuleStore.loose_mono (objectRoutes_append cwd _ _ done))
    exact sources job member (ModuleStore.loose_mono Set.subset_union_left at_)

theorem link_agree {objects : List Path} (image : store.image.route cwd ∈ store.leftovers cwd)
    (made : ∀ object ∈ objects, object.route cwd ∉ store.loose cwd done) :
    Step.Agree store (store.Between cwd done)
      (fun _ => store.Between cwd (done ∪ {store.image.route cwd})) (b.link objects)
      (b.link objects) := by
  refine .store_bind (fun _ => rfl) (.bind (.info _ _) fun _ => runTool_agree fun t u r r' h => ?_)
  have looks := h.looksAlike made
  exact ⟨determined.answer (.link objects store.image) looks r r', fun well =>
    tame.settles (.link objects store.image) h image r r' (determined.links _ _ looks r r' well)⟩

end

/-- Whether the packager has left a file is the same in both builds. -/
theorem checkStaged_agree {done : Set Route} :
    Step.Agree store (fun t u => store.Between cwd done t u ∧ AgreeAt store.staged t u)
      (fun _ t u => store.Between cwd (done ∪ {store.staged.route cwd}) t u ∧
        t.isFile store.staged = true) (checkStaged : Step σ Unit) checkStaged := by
  refine .need fun s s' held held' ⟨h, agree⟩ => ?_
  have staged := ModuleStore.eq_of_reopened held ModuleStore.staged fun _ => rfl
  have staged' := ModuleStore.eq_of_reopened held' ModuleStore.staged fun _ => rfl
  have same : s'.tree.isFile store.staged = s.tree.isFile store.staged :=
    Bool.eq_iff_iff.mpr ⟨(agree.symm h.sameDirectories).isFile h.sameDirectories.symm,
      agree.isFile h.sameDirectories⟩
  rw [staged, staged', same]
  refine ⟨rfl, fun _ checked => ?_⟩
  cases there : s.tree.isFile store.staged with
  | false =>
    rw [there] at checked
    cases checked
  | true =>
    have alike := agree.alike there
    rw [h.left] at alike
    exact ⟨(h.settle alike).mono ModuleStore.loose_diff, rfl⟩

section

variable {done : Set Route} (named : ModuleStore.IsModuleName store.binaryName)

include named

theorem clearStaged_agree :
    Step.Agree store (store.Between cwd done)
      (fun _ t u => store.Between cwd done t u ∧ AgreeAt store.staged t u)
      (clearStaged : Step σ Unit) clearStaged := by
  refine .ask_bind fun s s' held held' _ => ?_
  have plain := ModuleStore.staged_plain named.plain
  rw [ModuleStore.eq_of_reopened held ModuleStore.staged fun _ => rfl,
    ModuleStore.eq_of_reopened held' ModuleStore.staged fun _ => rfl]
  exact .files fun t u h => h.vacate (ModuleStore.locate_child ModuleStore.loose_inside h plain)
    fun place located => (place_child located plain).2

theorem stage_agree (tame : b.runner.Tame b.toolchain)
    (determined : b.runner.Determined b.toolchain store cwd)
    (image : store.image.route cwd ∉ store.loose cwd done) :
    Step.Agree store (store.Between cwd done)
      (fun _ t u => store.Between cwd (done ∪ {store.staged.route cwd}) t u ∧
        t.isFile store.staged = true) b.stage b.stage := by
  have own : store.staged.route cwd ∈ store.leftovers cwd :=
    ModuleStore.child_mem_leftovers named (.inr (.inl (by simp))) cwd
  have packaged : Step.Agree store
      (fun t u => store.Between cwd done t u ∧ AgreeAt store.staged t u)
      (fun _ t u => store.Between cwd done t u ∧ AgreeAt store.staged t u)
      (b.runTool (b.toolchain.package store.staged store.image) "Packaging" store.binaryName)
      (b.runTool (b.toolchain.package store.staged store.image) "Packaging" store.binaryName) := by
    refine runTool_agree fun t u r r' ⟨h, agree⟩ => ?_
    have uses : b.toolchain.Uses _ _ _ := .package store.staged store.image
    obtain ⟨answer, alike | ⟨kept, kept'⟩⟩ :=
      determined.cases tame uses h (by simpa using image) r r'
    · have after := tame.settles uses h own r r' alike
      refine ⟨answer, fun _ => ⟨after.mono (ModuleStore.loose_mono Set.subset_union_left),
        fun place located => ?_⟩⟩
      rw [locate_route located, after.left]
      exact alike
    · refine ⟨answer, fun _ => ⟨(h.without kept kept').mono fun _ at_ => at_.1,
        fun place located => ?_⟩⟩
      rw [kept.kept _ (Set.notMem_empty _), kept'.kept _ (Set.notMem_empty _)]
      exact agree place (kept.sameDirectories.symm.locate located)
  exact .store_bind (fun _ => rfl) (.bind (.info _ _) fun _ => .bind (.info _ _) fun _ =>
    .bind (clearStaged_agree named) fun _ => .bind (orDropStaged_agree packaged) fun _ =>
      checkStaged_agree)

theorem forgetHash_agree :
    Step.Agree store (fun t u => store.Between cwd done t u ∧ t.isFile store.staged = true)
      (fun _ t u => store.Between cwd done t u ∧
        ∃ content x, t.find? (store.staged.route cwd) = some (.file content x))
      (forgetHash : Step σ Unit) forgetHash := by
  refine .of_quiet fun s s' held held' ⟨h, there⟩ => ?_
  have drop := ModuleStore.eq_of_reopened held ModuleStore.dropHashFile fun _ => rfl
  have drop' := ModuleStore.eq_of_reopened held' ModuleStore.dropHashFile fun _ => rfl
  refine ⟨rfl, rfl, rfl, fun _ _ => ⟨held, held', ?_⟩⟩
  change store.Between cwd done (s.store.dropHashFile s.tree) (s'.store.dropHashFile s'.tree) ∧
    ∃ content x, (s.store.dropHashFile s.tree).find? (store.staged.route cwd) = _
  rw [drop, drop']
  obtain ⟨content, x, file⟩ := isFile_find there
  have dropped := store.dropHashFile_change s.tree
  rw [h.left] at file dropped
  refine ⟨h.drop store.hashFile, content, x, dropped.find_some ?_ file⟩
  simpa using (named.apart_files cwd).staged_hashFile

theorem install_agree (staged : store.staged.route cwd ∈ done) :
    Step.Agree store (fun t u => store.Between cwd done t u ∧
        ∃ content x, t.find? (store.staged.route cwd) = some (.file content x))
      (fun _ => store.Between cwd (done ∪ {store.binary.route cwd})) (install : Step σ Unit)
      install := by
  refine .store_bind (fun _ => rfl) (.bind (.files fun t u h => ?_) fun _ => .info _ _)
  obtain ⟨h, content, x, file⟩ := h
  have own {name : String} (left : name ∈ [store.binaryName, store.binaryName ++ ".tmp",
      ModuleStore.hashFileName]) : (store.buildDir.child name).route cwd ∈ store.leftovers cwd :=
    ModuleStore.child_mem_leftovers named (.inr (.inl left)) cwd
  have source := ModuleStore.locate_child ModuleStore.loose_inside h
    (ModuleStore.staged_plain named.plain)
  have goal := ModuleStore.locate_child ModuleStore.loose_inside h named.plain
  have moved := h.rename source goal file (ModuleStore.done_settled staged) (own (by simp))
    (own (by simp)) (named.apart_files cwd).staged_binary
  exact moved.mono fun t u after => after.mono ModuleStore.loose_diff

/-- A new module is made alike, of objects that are. -/
theorem makeModule_agree (tame : b.runner.Tame b.toolchain)
    (determined : b.runner.Determined b.toolchain store cwd) {objects : List Path}
    (filled : objects ≠ []) (made : ∀ object ∈ objects, object.route cwd ∉ store.loose cwd done) :
    Step.Agree store (store.Between cwd done)
      (fun _ => store.Between cwd (done ∪ {store.image.route cwd} ∪ {store.staged.route cwd} ∪
        {store.binary.route cwd})) (b.makeModule objects) (b.makeModule objects) := by
  obtain ⟨object, rest, rfl⟩ := List.exists_cons_of_ne_nil filled
  have image : store.image.route cwd ∈ store.leftovers cwd :=
    ModuleStore.child_mem_leftovers named (.inr (.inr (ModuleStore.image_plain named.plain))) cwd
  have steps : b.makeModule (object :: rest) = b.link (object :: rest) >>= fun _ => b.stage >>=
      fun _ => forgetHash >>= fun _ => install := rfl
  rw [steps]
  exact .bind (link_agree tame determined image made) fun _ =>
    .bind (stage_agree named tame determined (ModuleStore.done_settled (.inr rfl))) fun _ =>
      .bind (forgetHash_agree named) fun _ => install_agree named (.inr rfl)

end

section

variable {done : Set Route} (named : ModuleStore.IsModuleName store.binaryName)

/-- What clearing up gets at in the build directory. -/
def clearedUp (cwd : Route) (s : ModuleStore) (t : FileTree) : Set Route :=
  {l | ∃ name, t.ClearsUp s.buildDir name ∧ l = s.buildDir.route cwd ++ [name]}

theorem clearedUp_eq {t u : FileTree} (same : SameDirectories t u) :
    clearedUp cwd store u = clearedUp cwd store t := by
  ext l
  constructor
  · rintro ⟨name, clears, rfl⟩
    exact ⟨name, same.clearsUp clears, rfl⟩
  · rintro ⟨name, clears, rfl⟩
    exact ⟨name, same.symm.clearsUp clears, rfl⟩

include named

theorem removeIntermediates_agree :
    Step.Agree store (store.Between cwd done)
      (fun _ t u => Resembles cwd (store.leftovers cwd)
        (store.loose cwd done \ clearedUp cwd store t) t u)
      b.removeIntermediates b.removeIntermediates := by
  refine .of_quiet fun s s' held held' h => ?_
  obtain ⟨log, cleared⟩ := removeIntermediates_apply b s
  obtain ⟨log', cleared'⟩ := removeIntermediates_apply b s'
  rw [cleared, cleared', ModuleStore.eq_of_reopened held ModuleStore.buildDir fun _ => rfl,
    ModuleStore.eq_of_reopened held' ModuleStore.buildDir fun _ => rfl]
  refine ⟨rfl, rfl, rfl, fun _ _ => ⟨held, held', ?_⟩⟩
  have same : SameDirectories s.tree (s.tree.removeIntermediates store.buildDir).1 :=
    removeNamed_same _ _ _
  have plain (name : String) (on : store.buildDir.route cwd ++ [name] ∈ store.leftovers cwd) :
      IsPlainName name :=
     (ModuleStore.mem_leftovers.mp on).1.plain named
  have after := h.removeIntermediates plain
  rw [clearedUp_eq same]
  exact after

theorem recordHash_agree (binary : store.binary.route cwd ∈ done) :
    Step.Agree store (fun t u => Resembles cwd (store.leftovers cwd)
        (store.loose cwd done \ clearedUp cwd store t) t u)
      (fun _ t u => Resembles cwd (store.leftovers cwd)
        ((store.loose cwd done \ clearedUp cwd store t) \ {store.hashFile.route cwd}) t u)
      (recordHash : Step σ String) recordHash := by
  refine .of_quiet fun s s' held held' h => ?_
  have inside {t : FileTree} : store.loose cwd done \ clearedUp cwd store t ⊆
      store.leftovers cwd \ {l | l ∈ store.buildDir.entered cwd} :=
    fun _ at_ => ModuleStore.loose_inside at_.1
  have module := h.readBytes (ModuleStore.locate_child inside h named.plain)
    fun at_ => ModuleStore.done_settled binary at_.1
  have digest : s'.tree.digest store.binary = s.tree.digest store.binary :=
    congrArg (Except.map Digest.md5OfFile) module
  have plain : IsPlainName ModuleStore.hashFileName := by decide
  have own := ModuleStore.child_mem_leftovers named (.inr (.inl (by simp)) :
    store.LeavesBehind ModuleStore.hashFileName) cwd
  rw [recordHash_apply, recordHash_apply,
    ModuleStore.eq_of_reopened held ModuleStore.binary fun _ => rfl,
    ModuleStore.eq_of_reopened held' ModuleStore.binary fun _ => rfl,
    ModuleStore.eq_of_reopened held ModuleStore.hashFile fun _ => rfl,
    ModuleStore.eq_of_reopened held' ModuleStore.hashFile fun _ => rfl, digest]
  cases s.tree.digest store.binary with
  | error cause =>
    refine ⟨rfl, rfl, rfl, fun _ impossible => ?_⟩
    cases impossible
  | ok hash =>
    have written := h.writeBytes (ModuleStore.locate_child inside h plain) own hash.toUTF8
    have same {t : FileTree} (wrote : s.tree.writeBytes store.hashFile hash.toUTF8 = .ok t) :=
      writeBytes_same wrote
    change Outcomes _ (s.tree.writeBytes store.hashFile hash.toUTF8)
      (s'.tree.writeBytes store.hashFile hash.toUTF8) at written
    dsimp only
    generalize s.tree.writeBytes store.hashFile hash.toUTF8 = wrote at written same ⊢
    generalize s'.tree.writeBytes store.hashFile hash.toUTF8 = wrote' at written ⊢
    cases written with
    | failed cause =>
      refine ⟨rfl, rfl, rfl, fun _ impossible => ?_⟩
      cases impossible
    | went after =>
      refine ⟨rfl, rfl, rfl, fun _ _ => ⟨held, held', ?_⟩⟩
      rw [clearedUp_eq (same rfl)]
      exact after

theorem conclude_agree (work : Compiled) (binary : store.binary.route cwd ∈ done) :
    Step.Agree store (store.Between cwd done)
      (fun _ t u => Resembles cwd (store.leftovers cwd)
        ((store.loose cwd done \ clearedUp cwd store t) \ {store.hashFile.route cwd}) t u)
      (b.conclude work) (b.conclude work) :=
  .store_bind (fun _ => rfl) (.bind (removeIntermediates_agree named) fun _ =>
    .bind (recordHash_agree named binary) fun _ =>
    .bind (.of_quiet fun _ _ held held' h => ⟨rfl, rfl, rfl, fun _ _ => ⟨held, held', h⟩⟩) fun _ =>
    .bind (.store_bind (fun _ => rfl) (.bind (.info _ _) fun _ => .bind (.info _ _) fun _ =>
      .info _ _)) fun _ => .pure fun _ _ h => h)

end

/-- What clearing up leaves where it is: what it may not remove, and names that it does not take for
those of intermediates. -/
def stale (cwd : Route) (s : ModuleStore) (t : FileTree) : Set Route :=
  {l | ∃ name, EndsAsIntermediate name ∧ ¬ t.ClearsUp s.buildDir name ∧
    l = s.buildDir.route cwd ++ [name]}

section

variable (named : ModuleStore.IsModuleName store.binaryName) (tame : b.runner.Tame b.toolchain)
  (determined : b.runner.Determined b.toolchain store cwd) (apart : b.ReadsApart input store cwd)
  (filled : BuildPlan.units store.buildDir input.locations ≠ [])

include named tame determined apart filled

/-- All objects are made alike, whatever the build directory held before. -/
theorem compileProject_agree :
    let jobs := planJobs (CompileGroup.plan store.buildDir input.locations)
    Step.Agree store (fun t u => DifferInFiles cwd (store.leftovers cwd) store.buildDir t u ∧
        (t.makeDirectories store.buildDir).2 = (u.makeDirectories store.buildDir).2)
      (fun work t u => store.Between cwd (∅ ∪ objectRoutes cwd jobs) t u ∧
        (work.jobs = jobs ∧ work.relinked = true))
      (b.compileProject input) (b.compileProject input) := by
  intro jobs
  have planned : jobs.isEmpty = false := by
    simpa using fun none => filled (CompileGroup.planJobs_eq_nil.mp none)
  have objects : ∀ job ∈ jobs, job.object.route cwd ∈ store.leftovers cwd := by
    intro job member
    obtain ⟨-, name, plain, ends, object⟩ := CompileGroup.planned member
    rw [object]
    exact ModuleStore.child_mem_leftovers named (.inr (.inr ⟨plain, ends⟩)) cwd
  have sources : ∀ job ∈ jobs, job.unit.file.route cwd ∉ store.loose cwd ∅ := by
    intro job member at_
    obtain ⟨listed, -⟩ := CompileGroup.planned member
    exact at_.2 (.inl (.inr (apart.sources _ listed at_.1)))
  refine .bind (writeSources_agree named apart) fun _ => .store_bind (fun _ => rfl)
    (.ask_bind fun s s' _ _ _ => ?_)
  change Step.Agree store _ _ (_ >>= fun digests => Pure.pure (⟨jobs, digests, _ || !jobs.isEmpty⟩ :
    Compiled)) (_ >>= fun digests => Pure.pure (⟨jobs, digests, _ || !jobs.isEmpty⟩ : Compiled))
  simp only [planned, Bool.not_false, Bool.or_true]
  exact .bind (compileGroups_agree tame determined objects sources) fun digests =>
    .pure fun _ _ h => ⟨h, rfl, rfl⟩

theorem tryBuild_agree :
    Step.Agree store (fun t u => DifferInFiles cwd (store.leftovers cwd) store.buildDir t u ∧
        (t.makeDirectories store.buildDir).2 = (u.makeDirectories store.buildDir).2)
      (fun _ t u => Resembles cwd (store.leftovers cwd) (stale cwd store t) t u)
      (b.tryBuild input) (b.tryBuild input) := by
  refine .bind (compileProject_agree named tame determined apart filled) fun work =>
    .of_fact fun fact => ?_
  obtain ⟨jobs, relinked⟩ := fact
  have some : work.jobs.map CompileJob.object ≠ [] := by
    rw [jobs]
    simpa using fun none => filled (CompileGroup.planJobs_eq_nil.mp none)
  have made : ∀ object ∈ work.jobs.map CompileJob.object,
      object.route cwd ∉ store.loose cwd (∅ ∪ objectRoutes cwd work.jobs) := by
    intro object member
    obtain ⟨job, job_, rfl⟩ := List.mem_map.mp member
    exact ModuleStore.done_settled (.inr ⟨job, job_, rfl⟩)
  have steps : b.updateModule work = Step.ask BuildState.store >>= fun _ =>
      b.makeModule (work.jobs.map CompileJob.object) := by
    simp only [updateModule, relinked, if_true]
  rw [steps, ← jobs]
  refine .bind (.store_bind (fun _ => rfl) (makeModule_agree named tame determined some made))
    fun _ => (conclude_agree named work (.inr rfl)).mono (fun _ _ h => h) fun _ t u h => h.mono ?_
  rintro l ⟨⟨⟨⟨name, left, rfl⟩, settled⟩, kept⟩, record⟩
  have route : (store.buildDir.child name).route cwd = store.buildDir.route cwd ++ [name] :=
    Path.route_child (left.plain named) cwd _
  rcases left with glue | ours | ⟨-, ends⟩
  · refine absurd (.inl (.inr ?_)) settled
    rw [← route]
    simp only [glueNames, List.mem_cons, List.not_mem_nil, or_false] at glue
    rcases glue with rfl | rfl | rfl
    · exact .inl rfl
    · exact .inr (.inl rfl)
    · exact .inr (.inr rfl)
  · simp only [List.mem_cons, List.not_mem_nil, or_false] at ours
    rcases ours with rfl | rfl | rfl
    · exact absurd (.inr (.inr route.symm)) settled
    · exact absurd (.inr (.inl (.inr route.symm))) settled
    · exact absurd route.symm record
  · exact ⟨name, ends, fun clears => kept ⟨name, clears, rfl⟩, rfl⟩

end

/-- Over whatever was left behind a build comes to what it comes to elsewhere: it runs the same
tools, and succeeds with the same report or fails with the same error. If it succeeds, the module
is the same, byte for byte, its digest is on record in both stores, and the files are the same but
for intermediates that clearing up does not get at. -/
theorem tryBuild_over_leftovers {input : BuildInput} {s s' : BuildState σ}
    (named : ModuleStore.IsModuleName s.store.binaryName)
    (filled : BuildPlan.units s.store.buildDir input.locations ≠ [])
    (tame : b.runner.Tame b.toolchain)
    (determined : b.runner.Determined b.toolchain s.store s.tree.workingDirectory)
    (apart : b.ReadsApart input s.store s.tree.workingDirectory)
    (module : s'.store.reopened = s.store.reopened)
    (differ : DifferInFiles s.tree.workingDirectory (s.store.leftovers s.tree.workingDirectory)
      s.store.buildDir s.tree s'.tree)
    (made : (s.tree.makeDirectories s.store.buildDir).2 =
      (s'.tree.makeDirectories s.store.buildDir).2) :
    let after := (b.tryBuild input s).2
    let after' := (b.tryBuild input s').2
    (b.tryBuild input s).1 = (b.tryBuild input s').1 ∧
    (∃ commands, after.issued = s.issued ++ commands ∧ after'.issued = s'.issued ++ commands) ∧
    ∀ report, (b.tryBuild input s).1 = .ok report →
      (∃ content, after.tree.readBytes s.store.binary = .ok content ∧
        after'.tree.readBytes s.store.binary = .ok content) ∧
      after.store.cachedHash = some report.hash ∧ after'.store.cachedHash = some report.hash ∧
      ∀ l ∉ stale s.tree.workingDirectory s.store after.tree,
        Alike (after.tree.find? l) (after'.tree.find? l) := by
  intro after after'
  obtain ⟨result, issued, went⟩ := tryBuild_agree named tame determined apart filled s s' rfl module
    ⟨differ, made⟩
  refine ⟨result, issued, fun report built => ?_⟩
  obtain ⟨-, -, h⟩ := went report built
  obtain ⟨-, -, u, -, recorded, -, cached⟩ := tryBuild_stages tame built
  obtain ⟨-, -, -, -, -, -, cached'⟩ := tryBuild_stages tame (result.symm.trans built)
  obtain ⟨content, read, -⟩ := recorded.read (named.apart_files _)
  have settled : s.store.binary.route s.tree.workingDirectory ∉
      stale s.tree.workingDirectory s.store after.tree := by
    rintro ⟨name, ends, -, at_⟩
    rw [ModuleStore.binary_route named.plain] at at_
    have same := (List.append_singleton_inj.mp at_).2
    exact named.final (same ▸ ends)
  have same := h.read settled
  rw [read] at same
  refine ⟨⟨content, read, ?_⟩, cached, cached', h.alike⟩
  cases read' : after'.tree.readBytes s.store.binary with
  | error cause =>
    rw [read'] at same
    cases same
  | ok content' =>
    rw [read'] at same
    cases same
    rfl

end Builder

/-- The maker looks at nothing but whether its file can be written. -/
theorem Sample.maker_determined (content : ByteArray) (s : ModuleStore) (cwd : Route) :
    Runner.Determined (maker content) toolchain s cwd := by
  have cases {c : Tool.Command} {p : Path} (makes : toolchain.Makes c p) {tree tree' : FileTree}
      {inputs : List Path} (looks : s.LooksAlike cwd inputs tree tree') (r r' : Unit) :
      ((maker content).call c tree r).answer = .ok ⟨some 1, "", ""⟩ ∧
        ((maker content).call c tree' r').answer = .ok ⟨some 1, "", ""⟩ ∧
        ((maker content).call c tree r).after = tree ∧
        ((maker content).call c tree' r').after = tree' ∨
      ((maker content).call c tree r).answer = ((maker content).call c tree' r').answer ∧
        FileTree.Alike (((maker content).call c tree r).after.find? (p.route cwd))
          (((maker content).call c tree' r').after.find? (p.route cwd)) := by
    simp only [Runner.call, maker_eq makes]
    rcases looks.resembles.writes p content with
      ⟨_, _, failed, failed', -⟩ | ⟨t, u, went, went', alike⟩
    · rw [failed, failed']
      exact .inl ⟨rfl, rfl, rfl, rfl⟩
    · rw [went, went']
      exact .inr ⟨rfl, alike⟩
  have sure {c : Tool.Command} {p : Path} (makes : toolchain.Makes c p) (zero : c.expectedExit = 0)
      {tree tree' : FileTree} {inputs : List Path} (looks : s.LooksAlike cwd inputs tree tree')
      (r r' : Unit) (well : ((maker content).call c tree r).WentWell) :
      FileTree.Alike (((maker content).call c tree r).after.find? (p.route cwd))
        (((maker content).call c tree' r').after.find? (p.route cwd)) := by
    rcases cases makes looks r r' with ⟨failed, -⟩ | ⟨-, alike⟩
    · obtain ⟨output, answer, code⟩ := well
      rw [failed] at answer
      cases answer
      change some 1 = some c.expectedExit at code
      rw [zero] at code
      cases code
    · exact alike
  refine ⟨fun uses _ _ looks r r' => ?_, fun uses _ _ looks r r' => ?_,
    fun source object cflags _ _ looks => sure (.compile source object cflags) rfl looks,
    fun objects image _ _ looks => sure (.link objects image) rfl looks⟩
  · rcases cases uses.makes looks r r' with ⟨answer, answer', -⟩ | ⟨same, -⟩
    · exact answer.trans answer'.symm
    · exact same
  · rcases cases uses.makes looks r r' with ⟨-, -, after, after'⟩ | ⟨-, alike⟩
    · exact .inr ⟨by rw [after], by rw [after']⟩
    · exact .inl alike

namespace Builder

open FileTree

/-- A builder whose tools make what they are to make. -/
def making : Builder Unit :=
  Sample.builder (Sample.maker "MOD".toUTF8)

/-- A working directory with templates and no build directory. -/
def clean : BuildState Unit :=
  Sample.start Sample.tree "b"

/-- A build directory that holds an object, an old module and its digest. -/
def used : BuildState Unit :=
  let s := Sample.start ((Sample.treeWithModule (.file "old digest".toUTF8 false)).put
    ["work", "b", "plc_main.o"] (.file "OLD".toUTF8 true)) "b"
  { s with store := s.store.rememberHash "old digest" }

theorem making_readsApart {dir : Path} (apart : ∀ p ∈ [making.templates.mainTemplate,
    making.templates.debugTemplate, making.templates.accessCode, making.templates.header],
      (∀ l ∈ enteredFrom (p.start ["work"]) (pathNames p).dropLast, l.dropLast ≠ dir.route ["work"]) ∧
        (p.route ["work"]).dropLast ≠ dir.route ["work"]) :
    making.ReadsApart Sample.input (.fresh dir "p" ".bin") ["work"] := by
  refine ⟨fun p template => ?_, fun _ _ _ => rfl, fun unit listed _ => ?_⟩
  · obtain ⟨way, there⟩ := apart p template
    exact ⟨fun l on => ModuleStore.notMem_leftovers (way l on), ModuleStore.notMem_leftovers there⟩
  · have units : BuildPlan.units dir Sample.input.locations =
        [⟨dir.child mainSourceName, ""⟩, ⟨dir.child debugSourceName, ""⟩] := by
      simp [BuildPlan.units, Sample.input]
    have listed : unit ∈ BuildPlan.units dir Sample.input.locations := listed
    rw [units] at listed
    simp only [List.mem_cons, List.not_mem_nil, or_false] at listed
    rcases listed with rfl | rfl
    · exact .inl rfl
    · exact .inr (.inl rfl)

/-- A rebuild over an old module makes the module that a clean build makes. -/
theorem rebuild_over_module : ∃ report content, (making.tryBuild Sample.input clean).1 = .ok report ∧
    (making.tryBuild Sample.input used).1 = .ok report ∧
    (making.tryBuild Sample.input clean).2.tree.readBytes clean.store.binary = .ok content ∧
    (making.tryBuild Sample.input used).2.tree.readBytes clean.store.binary = .ok content := by
  have went : ((making.tryBuild Sample.input clean).1.map BuildReport.relinked) = .ok true := by
    decide +kernel
  have built : ∃ report, (making.tryBuild Sample.input clean).1 = .ok report := by
    cases result : (making.tryBuild Sample.input clean).1 with
    | error e =>
      rw [result] at went
      cases went
    | ok report => exact ⟨report, rfl⟩
  obtain ⟨report, built⟩ := built
  have left {name : String} (left : clean.store.LeavesBehind name) :
      ["work", "b", name] ∈ clean.store.leftovers ["work"] := ⟨name, left, rfl⟩
  have free {name : String} : Free (Sample.tree.find? ["work", "b", name]) := by
    have none : Sample.tree.find? ["work", "b", name] = none := by
      simp [FileTree.find?, Sample.tree, List.lookup_cons]
    rw [none]
    exact free_none
  have differ : DifferInFiles ["work"] (clean.store.leftovers ["work"]) ⟨"b"⟩ clean.tree
      used.tree := by
    refine (((DifferInFiles.refl rfl).put (by simp) (.inl (by decide +kernel))).put (by simp)
      (.inr ⟨left (.inr (.inl ?_)), free, rfl⟩)).put (by simp)
        (.inr ⟨left (.inr (.inl ?_)), free, rfl⟩) |>.put (by simp)
          (.inr ⟨left (.inr (.inr ?_)), free, rfl⟩)
    all_goals decide
  obtain ⟨result, -, went⟩ := @tryBuild_over_leftovers Unit making Sample.input clean used
    (Sample.named _ _) (by decide +kernel) (Sample.maker_tame _) (Sample.maker_determined _ _ _)
    (making_readsApart (by decide +kernel)) rfl differ (by decide +kernel)
  obtain ⟨⟨content, read, read'⟩, -⟩ := went report built
  exact ⟨report, content, built, result.symm.trans built, read, read'⟩

/-- The same with templates beyond a directory of the module's name. -/
def astray : Builder Unit :=
  { making with templates := ⟨⟨"b/p.bin/../t"⟩, "T"⟩ }

/-- What was there before can matter. A build directory that is written with a dot at its end is not
made, so a clean build fails where one over an earlier build succeeds. A template beyond a file that
was left behind is missing for another cause than one beyond nothing. And a file that is named
by an extension alone is not cleared up. -/
theorem leftovers_can_matter :
    let ready := Sample.tree.put ["work", "b"] .directory
    let start := Sample.start Sample.tree "b/."
    let attempt (tree : FileTree) := making.tryBuild Sample.input { start with tree }
    (making.runner.Tame making.toolchain ∧
      making.runner.Determined making.toolchain start.store ["work"] ∧
      ModuleStore.IsModuleName start.store.binaryName ∧
      BuildPlan.units ⟨"b/."⟩ Sample.input.locations ≠ [] ∧
      making.ReadsApart Sample.input start.store ["work"] ∧
      ∀ l ≠ ["work", "b"], ready.find? l = start.tree.find? l) ∧
    ((attempt start.tree).1 = .error (.filesystem ⟨"b/."⟩ .notFound) ∧
      (attempt ready).1.map BuildReport.relinked = .ok true) ∧
    ((astray.tryBuild Sample.input (Sample.start ready "b")).1 =
        .error (.template astray.templates.mainTemplate .notFound) ∧
      (astray.tryBuild Sample.input (Sample.start
        (ready.put ["work", "b", "p.bin"] (.file .empty false)) "b")).1 =
          .error (.template astray.templates.mainTemplate (.system .notADirectory))) ∧
    ((attempt ready).2.tree.pathExists ⟨"b/.o"⟩ = false ∧
      (attempt (ready.put ["work", "b", ".o"] (.file .empty false))).2.tree.pathExists ⟨"b/.o"⟩ =
        true) := by
  refine ⟨⟨Sample.maker_tame _, Sample.maker_determined _ _ _, Sample.named Sample.tree "b/.",
    by decide +kernel, making_readsApart (by decide +kernel),
    fun l other => find?_put_of_ne _ _ _ _ other⟩, ?_⟩
  decide +kernel

end Builder
end PlcModule
