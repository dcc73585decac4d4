import PlcModule.Proofs.Build.Diagnostics
import PlcModule.Proofs.Tool.Streams

/-! What a build tells of its end. Up to its end it tells nothing but what it does, with the warnings
of tools that did well; the error lines come last, they are those of its one failure, and no line of
the tool that failed is missing from them. -/
namespace PlcModule

variable {σ α β : Type}

/-- The line that tells what a tool that did well had to say on a subject. -/
def LogLine.warning (style : Style) (subject : String) (output : Tool.Output) : LogLine :=
  .info (style.yellow "!" ++ " Warning in " ++ subject ++ ":\n" ++ Text.trim output.stderr)

/-- The lines are no errors, and the warnings of the calls are among them. -/
structure Telling (style : Style) (told : Log) (calls : List Call) : Prop where
  info : ∀ line ∈ told, ∃ text, line = .info text
  warned : ∀ call ∈ calls, ∀ output, call.answer = .ok output →
    output.code = some call.command.expectedExit → Text.isBlankText output.stderr = false →
    ∃ subject, LogLine.warning style subject output ∈ told

namespace Telling

variable {style : Style} {told told' : Log} {calls calls' : List Call}

theorem nil : Telling style [] [] :=
  ⟨by simp, by simp⟩

theorem append (first : Telling style told calls) (later : Telling style told' calls') :
    Telling style (told ++ told') (calls ++ calls') where
  info line at_ := (List.mem_append.mp at_).elim (first.info line) (later.info line)
  warned call at_ output answered well said := by
    rcases List.mem_append.mp at_ with here | there
    · obtain ⟨subject, told⟩ := first.warned call here output answered well said
      exact ⟨subject, List.mem_append_left _ told⟩
    · obtain ⟨subject, told⟩ := later.warned call there output answered well said
      exact ⟨subject, List.mem_append_right _ told⟩

end Telling

/-- However it ends, a step adds to the log what it tells, and no errors. -/
def Step.Tells (style : Style) (m : Step (σ × List Call) α) : Prop :=
  ∀ s, ∃ told calls, (m s).2.log = s.log ++ told ∧ (m s).2.calls = s.calls ++ calls ∧
    Telling style told calls

namespace Step.Tells

variable {style : Style} {m : Step (σ × List Call) α} {next : α → Step (σ × List Call) β}

theorem bind (first : m.Tells style) (rest : ∀ a, (next a).Tells style) :
    (m >>= next).Tells style := by
  intro s
  obtain ⟨told, calls, log, watched, telling⟩ := first s
  rcases bind_cases m next s with ⟨e, _, eq⟩ | ⟨a, _, eq⟩
  · rw [eq]
    exact ⟨told, calls, log, watched, telling⟩
  · obtain ⟨told', calls', log', watched', telling'⟩ := rest a (m s).2
    rw [eq]
    refine ⟨told ++ told', calls ++ calls', ?_, ?_, telling.append telling'⟩
    · rw [log', log, List.append_assoc]
    · rw [watched', watched, List.append_assoc]

/-- Steps that tell nothing and run no tool. -/
theorem of_silent (h : ∀ s, (m s).2.log = s.log ∧ (m s).2.runnerState = s.runnerState) :
    m.Tells style := by
  intro s
  obtain ⟨log, runnerState⟩ := h s
  exact ⟨[], [], by simp [log], by simp [BuildState.calls, runnerState], .nil⟩

theorem pure (a : α) : (Pure.pure a : Step (σ × List Call) α).Tells style :=
  of_silent fun _ => ⟨rfl, rfl⟩

theorem ask (f : BuildState (σ × List Call) → α) : (Step.ask f).Tells style :=
  of_silent fun _ => ⟨rfl, rfl⟩

theorem need (f : BuildState (σ × List Call) → Except BuildError α) : (Step.need f).Tells style :=
  of_silent fun _ => ⟨rfl, rfl⟩

theorem info (text : String) : (Step.info text : Step (σ × List Call) Unit).Tells style :=
  fun s => ⟨[.info text], [], rfl, by simp [BuildState.calls, Step.info, Step.tell],
    by simp, by simp⟩

theorem infoIf (wanted : Bool) (text : String) :
    (Step.infoIf wanted text : Step (σ × List Call) Unit).Tells style := by
  cases wanted
  · exact .pure ()
  · exact .info text

theorem files (path : Path) (f : FileTree → Except Fault FileTree) :
    (Step.files path f : Step (σ × List Call) Unit).Tells style := by
  refine of_silent fun s => ?_
  simp only [Step.files]
  split <;> exact ⟨rfl, rfl⟩

end Step.Tells

namespace Builder

variable (b : Builder σ)

end Builder

/-- The error lines that tell of an error. What a tool wrote is told line by line, and then, as of
all else, what failed. -/
def BuildError.report : BuildError → List String
  | tool step subject _ output =>
    Text.filledLines output ++ [step ++ " of " ++ subject ++ " failed."]
  | toolUnavailable step subject program cause =>
    [step ++ " of " ++ subject ++ " failed: cannot start '" ++ program ++ "': " ++ cause.message ++ "."]
  | e => [e.message]

/-- The error lines that tell of a task whose tool was answered so. -/
def Task.report (t : Task) : Except BuildError Tool.Output → List String
  | .ok output => output.filledLines ++ [t.step ++ " of " ++ t.subject ++ " failed."]
  | .error (.toolSpawn program cause) =>
    [t.step ++ " of " ++ t.subject ++ " failed: cannot start '" ++ program ++ "': " ++
      cause.message ++ "."]
  | .error e => e.report

/-- Every call of a plan that was followed belongs to a task. -/
theorem Follows.task {plan : List Task} {calls : List Call} {r : Except BuildError α}
    (h : Follows plan calls r) {i : Nat} {call : Call} (at_ : calls[i]? = some call) :
    ∃ task, plan[i]? = some task := by
  obtain ⟨here, -⟩ := List.getElem?_eq_some_iff.mp at_
  have short : calls.length ≤ plan.length := by simpa using h.commands_prefix.length_le
  exact ⟨plan[i], List.getElem?_eq_getElem (by omega)⟩

namespace Builder

variable (b : Builder σ)

end Builder
end PlcModule
