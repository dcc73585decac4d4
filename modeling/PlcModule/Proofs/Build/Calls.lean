import PlcModule.Proofs.Build.Plan
import PlcModule.Proofs.Build.Reach

/-! The calls of tools that a build makes. They are read off a build whose runner is watched;
watching changes nothing of what the build does. -/
namespace PlcModule

variable {σ α β : Type}

/-- A command that was handed to the runner, what was answered and the files that were left. -/
structure Call where
  command : Tool.Command
  answer : Except BuildError Tool.Output
  after : FileTree

/-- The tool ran and exited as it should. -/
def Call.WentWell (c : Call) : Prop :=
  ∃ output, c.answer = .ok output ∧ output.code = some c.command.expectedExit

instance (c : Call) : Decidable c.WentWell :=
  match h : c.answer with
  | .error _ => isFalse fun ⟨_, same, _⟩ => by rw [h] at same; cases same
  | .ok output =>
    decidable_of_iff (output.code = some c.command.expectedExit)
      ⟨fun well => ⟨output, h, well⟩, fun ⟨_, same, well⟩ => by
        rw [h] at same
        cases same
        exact well⟩

/-- The judge lets pass what went well and fails the step on all else. -/
theorem Task.judge_cases (t : Task) {c : Call} (same : c.command = t.command) :
    (c.WentWell ∧ ∃ output, Tool.judge t.command t.step t.subject c.answer = .ok output) ∨
    (¬ c.WentWell ∧
      Tool.judge t.command t.step t.subject c.answer = .error (t.failure c.answer)) := by
  rcases c with ⟨command, answer, after⟩
  cases same
  cases answer with
  | error e =>
    refine .inr ⟨?_, by cases e <;> rfl⟩
    rintro ⟨output, impossible, _⟩
    cases impossible
  | ok output =>
    by_cases well : output.code = some t.command.expectedExit
    · exact .inl ⟨⟨output, rfl, well⟩, output, by simp [Tool.judge, well]⟩
    · refine .inr ⟨?_, by simp [Tool.judge, well, Task.failure]⟩
      rintro ⟨output', same, well'⟩
      cases same
      exact well well'

/-- A runner that also keeps account of its calls. -/
def Runner.watched (runner : Runner σ) : Runner (σ × List Call) := fun c tree r =>
  let (answer, after, next) := runner c tree r.1
  (answer, after, next, r.2 ++ [⟨c, answer, after⟩])

def Builder.watched (b : Builder σ) : Builder (σ × List Call) :=
  { b with runner := b.runner.watched }

namespace BuildState

def watched (s : BuildState σ) : BuildState (σ × List Call) :=
  { s with runnerState := (s.runnerState, []) }

def unwatched (s : BuildState (σ × List Call)) : BuildState σ :=
  { s with runnerState := s.runnerState.1 }

/-- The calls since the watch began. -/
def calls (s : BuildState (σ × List Call)) : List Call :=
  s.runnerState.2

end BuildState

/-- From one state to another the runner was handed one command. -/
structure Called (runner : Runner σ) (c : Tool.Command) (s s' : BuildState (σ × List Call))
    (call : Call) : Prop where
  command : call.command = c
  watched : s'.calls = s.calls ++ [call]
  issued : s'.issued = s.issued ++ [c]
  answered : runner c s.tree s.runnerState.1 = (call.answer, call.after, s'.runnerState.1)
  store : s'.store = s.store
  tree : s'.tree = call.after

/-- The calls that a build makes. -/
def Builder.calls (b : Builder σ) (input : BuildInput) (s : BuildState σ) : List Call :=
  (b.watched.tryBuild input s.watched).2.calls

theorem Runner.Tame.watched {runner : Runner σ} {t : Tool.Toolchain} (tame : runner.Tame t) :
    Runner.Tame runner.watched t :=
  fun c p makes tree r => tame c p makes tree r.1

/-- A watched step does what the plain one does from the same state. -/
def Step.Mirrors (m' : Step (σ × List Call) α) (m : Step σ α) : Prop :=
  ∀ s, m s.unwatched = ((m' s).1, (m' s).2.unwatched)

namespace Step.Mirrors

variable {m' : Step (σ × List Call) α} {m : Step σ α} {next' : α → Step (σ × List Call) β}
  {next : α → Step σ β}

theorem bind (first : m'.Mirrors m) (rest : ∀ a, (next' a).Mirrors (next a)) :
    (m' >>= next').Mirrors (m >>= next) := by
  intro s
  rw [bind_apply, bind_apply, first s]
  rcases m' s with ⟨result, s'⟩
  cases result with
  | error e => rfl
  | ok a => exact rest a s'

theorem pure (a : α) : (Pure.pure a : Step (σ × List Call) α).Mirrors (Pure.pure a) :=
  fun _ => rfl

theorem info (text : String) :
    (Step.info text : Step (σ × List Call) Unit).Mirrors (Step.info text) :=
  fun _ => rfl

theorem infoIf (wanted : Bool) (text : String) :
    (Step.infoIf wanted text : Step (σ × List Call) Unit).Mirrors (Step.infoIf wanted text) := by
  cases wanted
  · exact .pure ()
  · exact .info text

theorem ask {f' : BuildState (σ × List Call) → α} {f : BuildState σ → α}
    (h : ∀ s, f s.unwatched = f' s) : (Step.ask f').Mirrors (Step.ask f) :=
  fun s => by simp [Step.ask, h]

theorem need {f' : BuildState (σ × List Call) → Except BuildError α}
    {f : BuildState σ → Except BuildError α} (h : ∀ s, f s.unwatched = f' s) :
    (Step.need f').Mirrors (Step.need f) :=
  fun s => by simp [Step.need, h]

theorem files (path : Path) (f : FileTree → Except Fault FileTree) :
    (Step.files path f : Step (σ × List Call) Unit).Mirrors (Step.files path f) := by
  intro s
  simp only [Step.files, BuildState.unwatched]
  cases f s.tree <;> rfl

theorem issue (runner : Runner σ) (c : Tool.Command) :
    (Step.issue runner.watched c).Mirrors (Step.issue runner c) :=
  fun _ => rfl

end Step.Mirrors

namespace Builder

variable (b : Builder σ)

theorem makeBuildDir_mirrors :
    (makeBuildDir : Step (σ × List Call) Unit).Mirrors makeBuildDir := by
  intro s
  simp only [makeBuildDir, BuildState.unwatched]
  split <;> rfl

theorem writeSources_mirrors (input : BuildInput) :
    (b.watched.writeSources input).Mirrors (b.writeSources input) :=
  .bind (.ask fun _ => rfl) fun _ => .bind makeBuildDir_mirrors fun _ =>
    .bind (.need fun _ => rfl) fun _ => .bind (.files _ _) fun _ => .bind (.files _ _) fun _ =>
      .files _ _

theorem runTool_mirrors (c : Tool.Command) (step subject : String) :
    (b.watched.runTool c step subject).Mirrors (b.runTool c step subject) :=
  .bind (.infoIf _ _) fun _ => .bind (.issue _ _) fun _ => .bind (.need fun _ => rfl) fun _ =>
    .infoIf _ _

theorem compile_mirrors (job : CompileJob) :
    (b.watched.compile job).Mirrors (b.compile job) :=
  .bind (.info _) fun _ => .bind (.ask fun _ => rfl) fun _ => .bind (.ask fun _ => rfl) fun _ =>
    .bind (.infoIf _ _) fun _ => .bind (runTool_mirrors b _ _ _) fun _ =>
      .bind (runTool_mirrors b _ _ _) fun _ => .pure _

theorem compileAll_mirrors (jobs : List CompileJob) :
    (b.watched.compileAll jobs).Mirrors (b.compileAll jobs) := by
  induction jobs with
  | nil => exact .pure _
  | cons job rest ih =>
    exact .bind (compile_mirrors b job) fun _ => .bind ih fun _ => .pure _

theorem compileGroups_mirrors (groups : List CompileGroup) :
    (b.watched.compileGroups groups).Mirrors (b.compileGroups groups) := by
  induction groups with
  | nil => exact .pure _
  | cons group rest ih =>
    exact .bind (.info _) fun _ => .bind (compileAll_mirrors b group.jobs) fun _ =>
      .bind ih fun _ => .pure _

theorem compileProject_mirrors (input : BuildInput) :
    (b.watched.compileProject input).Mirrors (b.compileProject input) :=
  .bind (writeSources_mirrors b input) fun _ => .bind (.ask fun _ => rfl) fun _ =>
    .bind (.ask fun _ => rfl) fun _ => .bind (compileGroups_mirrors b _) fun _ => .pure _

theorem orDropStaged_mirrors {m' : Step (σ × List Call) Unit} {m : Step σ Unit}
    (h : m'.Mirrors m) : (orDropStaged m').Mirrors (orDropStaged m) := by
  intro s
  simp only [orDropStaged, h s]
  rcases m' s with ⟨result, s'⟩
  cases result <;> rfl

theorem stage_mirrors : b.watched.stage.Mirrors b.stage :=
  .bind (.ask fun _ => rfl) fun _ => .bind (.info _) fun _ => .bind (.info _) fun _ =>
    .bind (.bind (.ask fun _ => rfl) fun _ => .files _ _) fun _ =>
      .bind (orDropStaged_mirrors (runTool_mirrors b _ _ _)) fun _ => .need fun _ => rfl

theorem makeModule_mirrors (objects : List Path) :
    (b.watched.makeModule objects).Mirrors (b.makeModule objects) := by
  unfold makeModule
  cases objects with
  | nil => exact fun _ => rfl
  | cons object rest =>
    exact .bind (.bind (.ask fun _ => rfl) fun _ => .bind (.info _) fun _ => runTool_mirrors b _ _ _)
      fun _ => .bind (stage_mirrors b) fun _ => .bind (fun _ => rfl) fun _ =>
        .bind (.ask fun _ => rfl) fun _ => .bind (.files _ _) fun _ => .info _

theorem updateModule_mirrors (work : Compiled) :
    (b.watched.updateModule work).Mirrors (b.updateModule work) := by
  refine .bind (.ask fun _ => rfl) fun _ => ?_
  split
  · exact makeModule_mirrors b _
  · exact .info _

theorem recordHash_mirrors : (recordHash : Step (σ × List Call) String).Mirrors recordHash := by
  refine .bind (.need fun _ => rfl) fun hash s => ?_
  simp only [keepHash, BuildState.unwatched]
  cases s.store.writeHashFile s.tree hash <;> rfl

theorem conclude_mirrors (work : Compiled) :
    (b.watched.conclude work).Mirrors (b.conclude work) :=
  .bind (.ask fun _ => rfl) fun _ =>
    .bind (.bind (fun _ => rfl) fun _ => .infoIf _ _) fun _ =>
      .bind recordHash_mirrors fun _ => .bind (fun _ => rfl) fun _ =>
        .bind (.bind (.ask fun _ => rfl) fun _ => .bind (.info _) fun _ => .bind (.info _) fun _ =>
          .info _) fun _ => .pure _

theorem tryBuild_mirrors (input : BuildInput) :
    (b.watched.tryBuild input).Mirrors (b.tryBuild input) :=
  .bind (compileProject_mirrors b input) fun work => .bind (updateModule_mirrors b work) fun _ =>
    conclude_mirrors b work

/-- Watching a build changes nothing of its result or of what it leaves. -/
theorem tryBuild_watched (input : BuildInput) (s : BuildState σ) :
    b.tryBuild input s = ((b.watched.tryBuild input s.watched).1,
      (b.watched.tryBuild input s.watched).2.unwatched) :=
  tryBuild_mirrors b input s.watched

/-- A tool that did not go well fails its step; one that did goes by with at most a warning. -/
theorem runTool_watched (c : Tool.Command) (step subject : String)
    (s : BuildState (σ × List Call)) :
    ∃ call s', Called b.runner c s s' call ∧
      (call.WentWell ∧ b.watched.runTool c step subject s = (.ok (), s') ∨
      ¬ call.WentWell ∧ b.watched.runTool c step subject s =
        (.error (Task.failure ⟨c, step, subject⟩ call.answer), s')) := by
  obtain ⟨log, told⟩ := Step.infoIf_apply b.watched.verbose ("         $ " ++ c.display) s
  rcases run : b.runner c s.tree s.runnerState.1 with ⟨answer, after, r⟩
  let left : BuildState (σ × List Call) :=
    ⟨after, s.store, log, s.issued ++ [c], (r, s.calls ++ [⟨c, answer, after⟩])⟩
  have issued : Step.issue b.watched.runner c { s with log } = (.ok answer, left) := by
    simp [Step.issue, watched, Runner.watched, run, left, BuildState.calls]
  have called (log : Log) : Called b.runner c s { left with log } ⟨c, answer, after⟩ :=
    ⟨rfl, rfl, rfl, run, rfl, rfl⟩
  rcases Task.judge_cases ⟨c, step, subject⟩ (c := ⟨c, answer, after⟩) rfl with
    ⟨well, output, judged⟩ | ⟨bad, judged⟩
  · obtain ⟨log', warned⟩ := Step.infoIf_apply (!Text.isBlankText output.stderr)
      (b.watched.style.yellow "!" ++ " Warning in " ++ subject ++ ":\n" ++
        Text.trim output.stderr) left
    refine ⟨_, _, called log', .inl ⟨well, ?_⟩⟩
    simp only [runTool, Step.bind_apply, told, issued, Step.need, judged, warned]
  · refine ⟨_, _, called log, .inr ⟨bad, ?_⟩⟩
    simp only [runTool, Step.bind_apply, told, issued, Step.need, judged]
    rfl

end Builder
end PlcModule
