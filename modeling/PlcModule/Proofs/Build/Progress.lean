import PlcModule.Proofs.Build.Outcome

/-! How far a build gets along its plan. Once the glue sources are written each command is handed to
the runner as soon as those before it went well. The one step between two commands that can end a
build is the clearing of the staged path, right before the packager's turn. -/
namespace PlcModule

variable {σ α β : Type}

/-- From this state the step goes through, unless one of the calls that it makes does not go
well. -/
def Step.Steady (m : Step (σ × List Call) α) (s : BuildState (σ × List Call)) : Prop :=
  ∃ calls, (m s).2.calls = s.calls ++ calls ∧
    ((∃ a, (m s).1 = .ok a) ∨ ∃ call ∈ calls, ¬ call.WentWell)

namespace Step.Steady

variable {m : Step (σ × List Call) α} {next : α → Step (σ × List Call) β}
  {s : BuildState (σ × List Call)}

theorem bind (first : m.Steady s) (rest : ∀ a, (m s).1 = .ok a → (next a).Steady (m s).2) :
    (m >>= next).Steady s := by
  obtain ⟨calls, made, ends⟩ := first
  unfold Steady
  rcases bind_cases m next s with ⟨e, failed, eq⟩ | ⟨a, went, eq⟩
  · rw [eq]
    refine ⟨calls, made, .inr (ends.resolve_left ?_)⟩
    rintro ⟨a, went⟩
    cases failed.symm.trans went
  · rw [eq]
    obtain ⟨calls', made', ends'⟩ := rest a went
    refine ⟨calls ++ calls', by rw [made', made, List.append_assoc], ends'.imp_right ?_⟩
    rintro ⟨call, member, bad⟩
    exact ⟨call, List.mem_append_right _ member, bad⟩

/-- A step that runs no tool and goes through. -/
theorem of_ok {a : α} (went : (m s).1 = .ok a) (same : (m s).2.runnerState = s.runnerState) :
    m.Steady s :=
  ⟨[], by simp [BuildState.calls, same], .inl ⟨a, went⟩⟩

theorem pure (a : α) : (Pure.pure a : Step (σ × List Call) α).Steady s :=
  of_ok rfl rfl

theorem info (text : String) : (Step.info text : Step (σ × List Call) Unit).Steady s :=
  of_ok rfl rfl

theorem infoIf (wanted : Bool) (text : String) :
    (Step.infoIf wanted text : Step (σ × List Call) Unit).Steady s := by
  cases wanted
  · exact .pure ()
  · exact .info text

theorem ask (f : BuildState (σ × List Call) → α) : (Step.ask f).Steady s :=
  of_ok rfl rfl

/-- A steady step has performed its whole plan, or a call of it did not go well. -/
theorem whole {runner : Runner σ} {plan : List Task} (steady : m.Steady s)
    (performs : m.Performs runner s.store.reopened plan) :
    ∃ calls, (m s).2.calls = s.calls ++ calls ∧
      ((∃ a, (m s).1 = .ok a) ∧ calls.length = plan.length ∨ ∃ call ∈ calls, ¬ call.WentWell) := by
  obtain ⟨calls, made, ends⟩ := steady
  obtain ⟨-, calls', performed⟩ := performs s rfl
  have same : calls = calls' := List.append_cancel_left (made.symm.trans performed.watched)
  refine ⟨calls, made, ends.imp_left fun ⟨a, went⟩ => ⟨⟨a, went⟩, ?_⟩⟩
  have follows := performed.follows
  rw [went] at follows
  rw [same, follows.length_of_ok]

end Step.Steady

/-- What ends a build at the packager's turn: the staged path cannot be cleared. -/
def BuildState.Blocked (s : BuildState σ) (e : BuildError) : Prop :=
  ∃ cause, s.tree.removeFile s.store.staged = .error cause ∧ cause ≠ .notFound ∧
    e = .filesystem s.store.staged cause

/-- From this state the step makes `n` calls, unless one of them does not go well or the staged path
cannot be cleared for the last one. -/
def Step.Advances (n : Nat) (m : Step (σ × List Call) α) (s : BuildState (σ × List Call)) : Prop :=
  ∃ calls, (m s).2.calls = s.calls ++ calls ∧
    ((∃ call ∈ calls, ¬ call.WentWell) ∨ calls.length = n ∨
      calls.length + 1 = n ∧ ∃ e, (m s).1 = .error e ∧ (m s).2.Blocked e)

namespace Step.Advances

variable {runner : Runner σ} {plan : List Task} {n : Nat} {m : Step (σ × List Call) α}
  {next : α → Step (σ × List Call) β} {s : BuildState (σ × List Call)}

theorem steady_bind (steady : m.Steady s) (performs : m.Performs runner s.store.reopened plan)
    (rest : ∀ a, (m s).1 = .ok a → (next a).Advances n (m s).2) :
    (m >>= next).Advances (plan.length + n) s := by
  obtain ⟨calls, made, ends⟩ := steady.whole performs
  unfold Advances
  rcases Step.bind_cases m next s with ⟨e, failed, eq⟩ | ⟨a, went, eq⟩
  · rw [eq]
    refine ⟨calls, made, .inl (ends.resolve_left ?_)⟩
    rintro ⟨⟨a, went⟩, -⟩
    cases failed.symm.trans went
  · rw [eq]
    obtain ⟨calls', made', ends'⟩ := rest a went
    refine ⟨calls ++ calls', by rw [made', made, List.append_assoc], ?_⟩
    rw [List.length_append]
    rcases ends with ⟨-, count⟩ | ⟨call, member, bad⟩
    · rcases ends' with ⟨call, member, bad⟩ | count' | ⟨count', blocked⟩
      · exact .inl ⟨call, List.mem_append_right _ member, bad⟩
      · exact .inr (.inl (by omega))
      · exact .inr (.inr ⟨by omega, blocked⟩)
    · exact .inl ⟨call, List.mem_append_left _ member, bad⟩

/-- What comes after the last call changes nothing of how far the step gets. -/
theorem bind_quiet (first : m.Advances n s)
    (rest : ∀ a, (next a).Performs runner (m s).2.store.reopened []) :
    (m >>= next).Advances n s := by
  obtain ⟨calls, made, ends⟩ := first
  unfold Advances
  rcases Step.bind_cases m next s with ⟨e, failed, eq⟩ | ⟨a, went, eq⟩
  · rw [eq]
    refine ⟨calls, made, ends.imp_right (.imp_right ?_)⟩
    rintro ⟨count, e', failed', blocked⟩
    cases failed.symm.trans failed'
    exact ⟨count, e, rfl, blocked⟩
  · rw [eq]
    obtain ⟨-, none, performed⟩ := rest a (m s).2 rfl
    have same : (next a (m s).2).2.calls = (m s).2.calls := by
      rw [performed.watched, performed.follows.eq_nil, List.append_nil]
    refine ⟨calls, same.trans made, ends.imp_right fun ends => .inl (ends.resolve_right ?_)⟩
    rintro ⟨-, e, failed, -⟩
    cases failed.symm.trans went

end Step.Advances

namespace Builder

variable (b : Builder σ) {s : BuildState (σ × List Call)}

theorem runTool_steady (c : Tool.Command) (step subject : String) :
    (b.watched.runTool c step subject).Steady s := by
  obtain ⟨call, s', called, ⟨-, eq⟩ | ⟨bad, eq⟩⟩ := runTool_watched b c step subject s
  all_goals
    unfold Step.Steady
    rw [eq]
    refine ⟨[call], called.watched, ?_⟩
  · exact .inl ⟨(), rfl⟩
  · exact .inr ⟨call, List.mem_singleton_self call, bad⟩

theorem compile_steady (job : CompileJob) : (b.watched.compile job).Steady s :=
  .bind (.info _) fun _ _ => .bind (.ask _) fun _ _ => .bind (.ask _) fun _ _ =>
    .bind (.infoIf _ _) fun _ _ => .bind (runTool_steady b _ _ _) fun _ _ =>
      .bind (runTool_steady b _ _ _) fun _ _ => .pure _

theorem compileAll_steady (jobs : List CompileJob) : (b.watched.compileAll jobs).Steady s := by
  induction jobs generalizing s with
  | nil => exact .pure _
  | cons job rest ih =>
    exact .bind (compile_steady b job) fun _ _ => .bind ih fun _ _ => .pure _

theorem compileGroups_steady (groups : List CompileGroup) :
    (b.watched.compileGroups groups).Steady s := by
  induction groups generalizing s with
  | nil => exact .pure _
  | cons group rest ih =>
    exact .bind (.info _) fun _ _ => .bind (compileAll_steady b group.jobs) fun _ _ =>
      .bind ih fun _ _ => .pure _

theorem compileProject_steady {input : BuildInput}
    (glued : (b.watched.writeSources input s).1 = .ok ()) :
    (b.watched.compileProject input).Steady s := by
  obtain ⟨-, none, performed⟩ := writeSources_performs b input s rfl
  have sources : (b.watched.writeSources input).Steady s :=
    ⟨none, performed.watched, .inl ⟨(), glued⟩⟩
  exact .bind sources fun _ _ => .bind (.ask _) fun _ _ => .bind (.ask _) fun _ _ =>
    .bind (compileGroups_steady b _) fun _ _ => .pure _

theorem link_steady (objects : List Path) : (b.watched.link objects).Steady s :=
  .bind (.ask _) fun _ _ => .bind (.info _) fun _ _ => runTool_steady b _ _ _

theorem stage_advances : b.watched.stage.Advances 1 s := by
  have kept := (stage_performs b s rfl).1
  unfold Step.Advances
  rcases ran : b.watched.stage s with ⟨r, s'⟩
  rw [ran] at kept
  rcases stage_ends ran with ⟨cause, stays, other, result, calls, tree⟩ | ⟨call, -, calls, -⟩
  · have staged := ModuleStore.eq_of_reopened kept ModuleStore.staged fun _ => rfl
    rw [← tree, ← staged] at stays
    rw [← staged] at result
    exact ⟨[], by simp [calls], .inr (.inr ⟨rfl, _, result, cause, stays, other, rfl⟩)⟩
  · exact ⟨[call], calls, .inr (.inl rfl)⟩

theorem makeModule_advances (object : Path) (rest : List Path) :
    (b.watched.makeModule (object :: rest)).Advances 2 s := by
  rw [makeModule_cons]
  exact .steady_bind (link_steady b _) (link_performs b _) fun _ _ =>
    .bind_quiet (stage_advances b) fun _ => replace_performs b

theorem updateModule_advances {work : Compiled} (kept : work.relinked = false → work.jobs = []) :
    (b.watched.updateModule work).Advances (if work.jobs = [] then 0 else 2) s := by
  cases jobs : work.jobs with
  | nil =>
    obtain ⟨-, calls, performed⟩ := updateModule_performs b kept s rfl
    have none := performed.follows
    rw [if_pos jobs] at none
    exact ⟨calls, performed.watched, .inr (.inl (by rw [none.eq_nil]; rfl))⟩
  | cons job rest =>
    have relinked : work.relinked = true := by
      refine Bool.not_eq_false _ |>.mp fun relinked => ?_
      cases (kept relinked).symm.trans jobs
    have made := updateModule_apply b.watched work s
    rw [if_pos relinked, jobs] at made
    unfold Step.Advances
    rw [made]
    exact makeModule_advances b job.object (rest.map CompileJob.object)

/-- With the glue sources written a build makes all calls of its plan. -/
theorem tryBuild_advances {input : BuildInput}
    (glued : (b.watched.writeSources input s).1 = .ok ()) :
    (b.watched.tryBuild input).Advances
      (BuildPlan.tasks b.toolchain s.store input.locations).length s := by
  have count : (BuildPlan.tasks b.toolchain s.store input.locations).length = _ :=
    (congrArg List.length (tasks_planJobs _ _ _)).trans List.length_append
  rw [count]
  refine .steady_bind (compileProject_steady b glued) (compileProject_performs b input)
    fun work went => .bind_quiet ?_ fun _ => conclude_performs b work
  obtain ⟨planned, kept⟩ := compileProject_answer b went
  have advances := updateModule_advances (s := (b.watched.compileProject input s).2) b kept
  rw [planned] at advances
  convert advances using 1
  split <;> rfl

/-- The tools that a build runs are those of the plan, in order and each once, up to the first
that does not go well. That one decides the result; a build that ends well has run the whole
plan. Nothing is run if the glue sources cannot be made. Once they are, every command is handed over
as soon as those before it went well; the packager's alone is not if what is at the staged path
cannot be taken away, and the build ends with that. -/
theorem tryBuild_follows_plan (input : BuildInput) (s : BuildState σ) :
    let calls := b.calls input s
    let plan := BuildPlan.tasks b.toolchain s.store input.locations
    let result := (b.tryBuild input s).1
    (b.tryBuild input s).2.issued = s.issued ++ calls.map Call.command ∧
    b.runner.Answers s.runnerState calls (b.tryBuild input s).2.runnerState ∧
    (∀ e, (b.writeSources input s).1 = .error e → calls = [] ∧ result = .error e) ∧
    calls.map Call.command <+: plan.map Task.command ∧
    (∀ i call, calls[i]? = some call → i + 1 < calls.length → call.WentWell) ∧
    (∀ i call task, calls[i]? = some call → plan[i]? = some task → ¬ call.WentWell →
      i + 1 = calls.length ∧ result = .error (task.failure call.answer)) ∧
    (∀ report, result = .ok report → calls.length = plan.length) ∧
    ((b.writeSources input s).1 = .ok () → (∀ call ∈ calls, call.WentWell) →
      calls.length = plan.length ∨ calls.length + 1 = plan.length ∧
        ∃ e, result = .error e ∧ (b.tryBuild input s).2.Blocked e) := by
  obtain ⟨_, calls, performed⟩ := tryBuild_performs b input
    s.watched rfl
  have made : b.calls input s = calls := by rw [Builder.calls, performed.watched]; rfl
  have follows := performed.follows
  simp only [made]
  rw [tryBuild_watched]
  refine ⟨performed.issued, performed.answered, fun e failed => ?_, follows.commands_prefix,
    fun i call at_ more => follows.wentWell at_ more,
    fun i call task at_ planned bad => follows.eq_failure at_ planned bad, ?_, fun glued well => ?_⟩
  · obtain ⟨none, result⟩ := writeSources_failed b failed
    rw [tryBuild_watched] at result
    exact ⟨made ▸ none, result⟩
  · intro report done
    rw [done] at follows
    exact follows.length_of_ok
  · have mirror := congrArg Prod.fst (writeSources_mirrors b input s.watched)
    obtain ⟨calls', made', ends⟩ := tryBuild_advances b (s := s.watched) (mirror.symm.trans glued)
    have same : calls' = calls := List.append_cancel_left (made'.symm.trans performed.watched)
    rw [same] at ends
    refine ends.resolve_left ?_
    rintro ⟨call, member, bad⟩
    exact bad (well call member)

end Builder
end PlcModule
