import PlcModule.Proofs.Build.Calls
import PlcModule.Proofs.Build.Plan

/-! The tools that a build runs are those of its plan, in order. Each step performs its part of
the plan: all of it, or up to a call that did not go well or a failure of its own. -/
namespace PlcModule

variable {σ α β : Type}

/-- How calls follow a plan, and what result belongs to them. -/
inductive Follows {α : Type} : List Task → List Call → Except BuildError α → Prop where
  | done (a : α) : Follows [] [] (.ok a)
  | halted (plan : List Task) (e : BuildError) : Follows plan [] (.error e)
  | failed {task : Task} {call : Call} (rest : List Task) (same : call.command = task.command)
    (bad : ¬ call.WentWell) : Follows (task :: rest) [call] (.error (task.failure call.answer))
  | went {task : Task} {call : Call} {rest : List Task} {calls : List Call}
    {r : Except BuildError α} (same : call.command = task.command) (well : call.WentWell)
    (later : Follows rest calls r) : Follows (task :: rest) (call :: calls) r

namespace Follows

variable {plan plan' : List Task} {calls calls' : List Call} {r : Except BuildError α}

theorem append_of_error {e : BuildError} (h : Follows plan calls (.error e : Except _ α))
    (plan' : List Task) : Follows (plan ++ plan') calls (.error e : Except _ β) := by
  generalize result : (.error e : Except BuildError α) = r at h
  induction h with
  | done a => cases result
  | halted plan e => cases result; exact .halted _ e
  | failed rest same bad => cases result; exact .failed _ same bad
  | went same well _ ih => exact .went same well (ih result)

theorem append_of_ok {a : β} (h : Follows plan calls (.ok a)) (h' : Follows plan' calls' r) :
    Follows (plan ++ plan') (calls ++ calls') r := by
  generalize result : (.ok a : Except BuildError β) = r' at h
  induction h with
  | done a => exact h'
  | halted plan e => cases result
  | failed rest same bad => cases result
  | went same well _ ih => exact .went same well (ih result)

theorem commands_prefix (h : Follows plan calls r) :
    calls.map Call.command <+: plan.map Task.command := by
  induction h with
  | done a => exact List.prefix_rfl
  | halted plan e => exact List.nil_prefix
  | failed rest same bad => simp [same]
  | went same well _ ih => simpa [same] using ih

/-- A call after which another was made went well. -/
theorem wentWell (h : Follows plan calls r) {i : Nat} {call : Call} (at_ : calls[i]? = some call)
    (more : i + 1 < calls.length) : call.WentWell := by
  induction h generalizing i with
  | done a => cases at_
  | halted plan e => cases at_
  | failed rest same bad => simp at more
  | went same well _ ih =>
    cases i with
    | zero => cases at_; exact well
    | succ i => exact ih at_ (by simpa using more)

/-- A call that did not go well is the last one and decides the result. -/
theorem eq_failure (h : Follows plan calls r) {i : Nat} {call : Call} {task : Task}
    (at_ : calls[i]? = some call) (planned : plan[i]? = some task) (bad : ¬ call.WentWell) :
    i + 1 = calls.length ∧ r = .error (task.failure call.answer) := by
  induction h generalizing i with
  | done a => cases at_
  | halted plan e => cases at_
  | failed rest same _ =>
    cases i with
    | zero => cases at_; cases planned; exact ⟨rfl, rfl⟩
    | succ i => cases at_
  | went same well _ ih =>
    cases i with
    | zero => cases at_; exact absurd well bad
    | succ i =>
      obtain ⟨last, result⟩ := ih at_ planned
      exact ⟨by simpa using last, result⟩

theorem eq_nil (h : Follows [] calls r) : calls = [] := by
  simpa using h.commands_prefix

theorem length_of_ok {a : α} (h : Follows plan calls (.ok a)) : calls.length = plan.length := by
  generalize result : (.ok a : Except BuildError α) = r at h
  induction h with
  | done a => rfl
  | halted plan e => cases result
  | failed rest same bad => cases result
  | went same well _ ih => simp [ih result]

end Follows

/-- The calls are the runner's, each from the state that the one before left it in. -/
inductive Runner.Answers (runner : Runner σ) : σ → List Call → σ → Prop where
  | nil (r : σ) : Answers runner r [] r
  | cons {call : Call} {before : FileTree} {r r' r'' : σ} {calls : List Call}
    (here : runner call.command before r = (call.answer, call.after, r'))
    (rest : Answers runner r' calls r'') : Answers runner r (call :: calls) r''

theorem Runner.Answers.append {runner : Runner σ} {r r' r'' : σ} {calls calls' : List Call}
    (h : runner.Answers r calls r') (h' : runner.Answers r' calls' r'') :
    runner.Answers r (calls ++ calls') r'' := by
  induction h with
  | nil r => exact h'
  | cons here _ ih => exact .cons here (ih h')

/-- Between two states of a watched build these calls were made, along the plan, with this
result. -/
structure Performed (runner : Runner σ) (plan : List Task) (s s' : BuildState (σ × List Call))
    (calls : List Call) (r : Except BuildError α) : Prop where
  watched : s'.calls = s.calls ++ calls
  issued : s'.issued = s.issued ++ calls.map Call.command
  answered : runner.Answers s.runnerState.1 calls s'.runnerState.1
  follows : Follows plan calls r

/-- A store as it would be opened anew. -/
def ModuleStore.reopened (s : ModuleStore) : ModuleStore :=
  .fresh s.buildDir s.projectName s.extension

/-- Where the files of a module are does not hang on what its store remembers. -/
theorem ModuleStore.eq_of_reopened {s store : ModuleStore} (held : s.reopened = store.reopened)
    (f : ModuleStore → α) (same : ∀ s, f s = f s.reopened) : f s = f store := by
  rw [same, held, ← same]

/-- Taken with a store, whatever it remembers, a step performs a plan and leaves the files of the
store where they are. -/
def Step.Performs (runner : Runner σ) (store : ModuleStore) (plan : List Task)
    (m : Step (σ × List Call) α) : Prop :=
  ∀ s, s.store.reopened = store → (m s).2.store.reopened = store ∧
    ∃ calls, Performed runner plan s (m s).2 calls (m s).1

namespace Step.Performs

variable {runner : Runner σ} {store : ModuleStore} {plan plan' : List Task}
  {m : Step (σ × List Call) α} {next : α → Step (σ × List Call) β}

/-- What follows may build on what the first step answers. -/
theorem bind_answer (first : m.Performs runner store plan)
    (rest : ∀ s a, s.store.reopened = store → (m s).1 = .ok a →
      (next a).Performs runner store plan') :
    (m >>= next).Performs runner store (plan ++ plan') := by
  intro s held
  obtain ⟨held', calls, here⟩ := first s held
  rcases bind_cases m next s with ⟨e, failed, eq⟩ | ⟨a, went, eq⟩
  · rw [eq]
    have follows := here.follows
    rw [failed] at follows
    exact ⟨held', calls, here.watched, here.issued, here.answered, follows.append_of_error plan'⟩
  · rw [eq]
    have follows := here.follows
    rw [went] at follows
    obtain ⟨held'', calls', there⟩ := rest s a held went (m s).2 held'
    refine ⟨held'', calls ++ calls', ?_, ?_, here.answered.append there.answered,
      follows.append_of_ok there.follows⟩
    · rw [there.watched, here.watched, List.append_assoc]
    · rw [there.issued, here.issued, List.map_append, List.append_assoc]

theorem bind (first : m.Performs runner store plan)
    (rest : ∀ a, (next a).Performs runner store plan') :
    (m >>= next).Performs runner store (plan ++ plan') :=
  first.bind_answer fun _ a _ _ => rest a

theorem bind_last (first : m.Performs runner store plan)
    (rest : ∀ a, (next a).Performs runner store []) : (m >>= next).Performs runner store plan := by
  simpa using first.bind rest

theorem quiet_bind (first : m.Performs runner store [])
    (rest : ∀ a, (next a).Performs runner store plan) : (m >>= next).Performs runner store plan :=
  first.bind rest

/-- A step that runs no tool performs the empty plan. -/
theorem of_quiet (h : ∀ s, (m s).2.store.reopened = s.store.reopened ∧
    (m s).2.issued = s.issued ∧ (m s).2.runnerState = s.runnerState) :
    m.Performs runner store [] := by
  intro s held
  obtain ⟨store', issued, runnerState⟩ := h s
  refine ⟨store'.trans held, [], ?_, ?_, ?_, ?_⟩
  · simp [BuildState.calls, runnerState]
  · simp [issued]
  · rw [runnerState]; exact .nil _
  · cases (m s).1 with
    | ok a => exact .done a
    | error e => exact .halted [] e

theorem pure (a : α) :
    (Pure.pure a : Step (σ × List Call) α).Performs runner store [] :=
  of_quiet fun _ => ⟨rfl, rfl, rfl⟩

theorem info (text : String) :
    (Step.info text : Step (σ × List Call) Unit).Performs runner store [] :=
  of_quiet fun _ => ⟨rfl, rfl, rfl⟩

theorem infoIf (wanted : Bool) (text : String) :
    (Step.infoIf wanted text : Step (σ × List Call) Unit).Performs runner store [] := by
  cases wanted
  · exact .pure ()
  · exact .info text

theorem need (f : BuildState (σ × List Call) → Except BuildError α) :
    (Step.need f).Performs runner store [] :=
  of_quiet fun _ => ⟨rfl, rfl, rfl⟩

theorem files (path : Path) (f : FileTree → Except Fault FileTree) :
    (Step.files path f : Step (σ × List Call) Unit).Performs runner store [] := by
  refine of_quiet fun s => ?_
  simp only [Step.files]
  split <;> exact ⟨rfl, rfl, rfl⟩

theorem ask_bind {f : BuildState (σ × List Call) → α}
    (rest : ∀ s, s.store.reopened = store → (next (f s)).Performs runner store plan) :
    (Step.ask f >>= next).Performs runner store plan :=
  fun s held => rest s held s held

end Step.Performs

namespace Builder

variable (b : Builder σ) {store : ModuleStore}

theorem makeBuildDir_performs :
    (makeBuildDir : Step (σ × List Call) Unit).Performs b.runner store [] := by
  refine .of_quiet fun s => ?_
  simp only [makeBuildDir]
  split <;> exact ⟨rfl, rfl, rfl⟩

theorem writeSources_performs (input : BuildInput) :
    (b.watched.writeSources input).Performs b.runner store [] :=
  .ask_bind fun _ _ => .quiet_bind (makeBuildDir_performs b) fun _ =>
    .quiet_bind (.need _) fun _ => .quiet_bind (.files _ _) fun _ =>
      .quiet_bind (.files _ _) fun _ => .files _ _

/-- A tool that did not go well fails its step; one that did goes by with at most a warning. -/
theorem runTool_performs (c : Tool.Command) (step subject : String) :
    (b.watched.runTool c step subject).Performs b.runner store [⟨c, step, subject⟩] := by
  intro s held
  obtain ⟨call, s', called, ⟨well, eq⟩ | ⟨bad, eq⟩⟩ := runTool_watched b c step subject s
  all_goals
    rw [eq]
    refine ⟨by rw [called.store]; exact held, [call], called.watched, ?_, ?_, ?_⟩
    · rw [called.issued, List.map_singleton, called.command]
    · exact .cons (called.command ▸ called.answered) (.nil _)
  · exact .went called.command well (.done ())
  · exact .failed [] called.command bad

theorem compile_performs (job : CompileJob) :
    (b.watched.compile job).Performs b.runner store (BuildPlan.jobTasks b.toolchain job) :=
  .quiet_bind (.info _) fun _ => .ask_bind fun _ _ => .ask_bind fun _ _ =>
    .quiet_bind (.infoIf _ _) fun _ => .bind (runTool_performs b _ _ _) fun _ =>
      .bind_last (runTool_performs b _ _ _) fun _ => .pure _

theorem compileAll_performs (jobs : List CompileJob) :
    (b.watched.compileAll jobs).Performs b.runner store
      (jobs.flatMap (BuildPlan.jobTasks b.toolchain)) := by
  induction jobs with
  | nil => exact .pure _
  | cons job rest ih =>
    exact .bind (compile_performs b job) fun _ => .bind_last ih fun _ => .pure _

theorem compileGroups_performs (groups : List CompileGroup) :
    (b.watched.compileGroups groups).Performs b.runner store
      ((planJobs groups).flatMap (BuildPlan.jobTasks b.toolchain)) := by
  induction groups with
  | nil => exact .pure _
  | cons group rest ih =>
    rw [planJobs, List.flatMap_cons, List.flatMap_append]
    exact .quiet_bind (.info _) fun _ => .bind (compileAll_performs b group.jobs) fun _ =>
      .bind_last ih fun _ => .pure _

theorem compileProject_performs (input : BuildInput) :
    (b.watched.compileProject input).Performs b.runner store
      ((planJobs (CompileGroup.plan store.buildDir input.locations)).flatMap
        (BuildPlan.jobTasks b.toolchain)) := by
  refine .quiet_bind (writeSources_performs b input) fun _ => .ask_bind fun s held =>
    .ask_bind fun _ _ => ?_
  subst held
  exact .bind_last (compileGroups_performs b _) fun _ => .pure _

theorem link_performs (objects : List Path) :
    (b.watched.link objects).Performs b.runner store
      [BuildPlan.linkTask b.toolchain store objects] := by
  refine .ask_bind fun s held => ?_
  subst held
  exact .quiet_bind (.info _) fun _ => runTool_performs b _ _ _

theorem orDropStaged_performs {plan : List Task} {m : Step (σ × List Call) Unit}
    (h : m.Performs b.runner store plan) : (orDropStaged m).Performs b.runner store plan := by
  intro s held
  obtain ⟨held', calls, here⟩ := h s held
  simp only [orDropStaged]
  split
  · rename_i eq
    rw [eq] at held' here
    exact ⟨held', calls, here⟩
  · rename_i eq
    rw [eq] at held' here
    exact ⟨held', calls, here.watched, here.issued, here.answered, here.follows⟩

theorem stage_performs :
    b.watched.stage.Performs b.runner store [BuildPlan.packageTask b.toolchain store] := by
  refine .ask_bind fun s held => ?_
  subst held
  exact .quiet_bind (.info _) fun _ => .quiet_bind (.info _) fun _ =>
    .quiet_bind (.ask_bind fun _ _ => .files _ _) fun _ =>
      .bind_last (orDropStaged_performs b (runTool_performs b _ _ _)) fun _ => .need _

theorem replace_performs : (forgetHash >>= fun _ => install :
    Step (σ × List Call) Unit).Performs b.runner store [] :=
  .quiet_bind (.of_quiet fun _ => ⟨rfl, rfl, rfl⟩) fun _ => .ask_bind fun _ _ =>
    .quiet_bind (.files _ _) fun _ => .info _

theorem makeModule_performs (objects : List Path) :
    (b.watched.makeModule objects).Performs b.runner store
      (if objects = [] then [] else [BuildPlan.linkTask b.toolchain store objects,
        BuildPlan.packageTask b.toolchain store]) := by
  cases objects with
  | nil => exact .of_quiet fun _ => ⟨rfl, rfl, rfl⟩
  | cons object rest =>
    exact .bind (link_performs b _) fun _ => .bind_last (stage_performs b) fun _ =>
      replace_performs b

theorem updateModule_performs {work : Compiled} (kept : work.relinked = false → work.jobs = []) :
    (b.watched.updateModule work).Performs b.runner store
      (if work.jobs = [] then [] else
        [BuildPlan.linkTask b.toolchain store (work.jobs.map CompileJob.object),
          BuildPlan.packageTask b.toolchain store]) := by
  refine .ask_bind fun _ _ => ?_
  cases relinked : work.relinked with
  | true => simpa using makeModule_performs b (work.jobs.map CompileJob.object)
  | false => simpa [kept relinked] using Step.Performs.info _

theorem recordHash_performs :
    (recordHash : Step (σ × List Call) String).Performs b.runner store [] := by
  refine .quiet_bind (.need _) fun hash => .of_quiet fun s => ?_
  simp only [keepHash]
  split <;> exact ⟨rfl, rfl, rfl⟩

theorem conclude_performs (work : Compiled) :
    (b.watched.conclude work).Performs b.runner store [] :=
  .ask_bind fun _ _ =>
    .quiet_bind (.quiet_bind (.of_quiet fun _ => ⟨rfl, rfl, rfl⟩) fun _ =>
      .infoIf _ _) fun _ =>
    .quiet_bind (recordHash_performs b) fun _ =>
    .quiet_bind (.of_quiet fun _ => ⟨rfl, rfl, rfl⟩) fun _ =>
    .quiet_bind (.ask_bind fun _ _ => .quiet_bind (.info _) fun _ =>
      .quiet_bind (.info _) fun _ => .info _) fun _ => .pure _

/-- All that is planned is compiled, and only then can the module be left as it is. -/
theorem compileProject_answer {input : BuildInput} {s : BuildState (σ × List Call)}
    {work : Compiled} (h : (b.watched.compileProject input s).1 = .ok work) :
    work.jobs = planJobs (CompileGroup.plan s.store.buildDir input.locations) ∧
    (work.relinked = false → work.jobs = []) := by
  obtain ⟨_, _, h, _⟩ := Step.ok_of_bind_ok h
  have store := (writeSources_performs b input s rfl).1
  generalize (b.watched.writeSources input s).2 = s' at h store
  obtain ⟨_, asked, h, _⟩ := Step.ok_of_bind_ok h
  cases asked
  obtain ⟨missing, _, h, _⟩ := Step.ok_of_bind_ok h
  obtain ⟨digests, _, h, _⟩ := Step.ok_of_bind_ok h
  cases h
  have dir := congrArg ModuleStore.buildDir store
  change s'.store.buildDir = s.store.buildDir at dir
  refine ⟨by simp [dir], fun relinked => ?_⟩
  simp only [Bool.or_eq_false_iff, Bool.not_eq_false', List.isEmpty_iff] at relinked
  exact relinked.2

/-- The plan as the steps go through it. -/
theorem tasks_planJobs (t : Tool.Toolchain) (store : ModuleStore) (locations : List Location) :
    let jobs := planJobs (CompileGroup.plan store.buildDir locations)
    BuildPlan.tasks t store locations = jobs.flatMap (BuildPlan.jobTasks t) ++
      if jobs = [] then [] else [BuildPlan.linkTask t store (jobs.map CompileJob.object),
        BuildPlan.packageTask t store] := by
  have jobs := CompileGroup.planJobs_plan store.buildDir locations
  have objects := CompileGroup.objects_plan store.buildDir locations
  simp only [objects]
  rw [jobs, BuildPlan.tasks]
  split <;> simp_all

theorem tryBuild_performs (input : BuildInput) :
    (b.watched.tryBuild input).Performs b.runner store
      (BuildPlan.tasks b.toolchain store input.locations) := by
  rw [tasks_planJobs]
  refine .bind_answer (compileProject_performs b input) fun s work held went => ?_
  obtain ⟨planned, kept⟩ := compileProject_answer b went
  subst held
  rw [show planJobs (CompileGroup.plan s.store.reopened.buildDir _) = _ from planned.symm]
  exact .bind_last (updateModule_performs b kept) fun _ => conclude_performs b work

theorem writeSources_failed {input : BuildInput} {s : BuildState σ} {e : BuildError}
    (h : (b.writeSources input s).1 = .error e) :
    b.calls input s = [] ∧ (b.tryBuild input s).1 = .error e := by
  have mirror := writeSources_mirrors b input s.watched
  have plain : (b.watched.writeSources input s.watched).1 = .error e := by
    rw [← h]
    exact (congrArg Prod.fst mirror).symm
  have failed : b.watched.tryBuild input s.watched =
      (.error e, (b.watched.writeSources input s.watched).2) := by
    have project : b.watched.compileProject input s.watched = _ := Step.bind_of_error _ plain
    have := Step.bind_of_error (m := b.watched.compileProject input)
      (fun work => b.watched.updateModule work >>= fun _ => b.watched.conclude work)
      (congrArg Prod.fst project)
    rw [project] at this
    exact this
  obtain ⟨_, calls, performed⟩ := writeSources_performs b input
    s.watched rfl
  refine ⟨?_, ?_⟩
  · rw [Builder.calls, failed, performed.watched, performed.follows.eq_nil]
    rfl
  · rw [tryBuild_watched, failed]

end Builder
end PlcModule
