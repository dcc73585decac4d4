import PlcModule.Build.Log
import PlcModule.Build.Store
import PlcModule.Tool.Command

/-! Steps of a build. A step starts from a state and leaves one, whether it yields a value or the
error that ends the build; what was done before the error stays done. -/
namespace PlcModule

/-- Runs a tool to its end. What the tool does to the files and what it answers may depend on
what the runner has seen before. -/
abbrev Runner (σ : Type) :=
  Tool.Command → FileTree → σ → Except BuildError Tool.Output × FileTree × σ

structure BuildState (σ : Type) where
  tree : FileTree
  store : ModuleStore
  log : Log
  /-- The commands that were handed to the runner, in order. -/
  issued : List Tool.Command
  runnerState : σ

def Step (σ α : Type) := BuildState σ → Except BuildError α × BuildState σ

namespace Step

variable {σ α β : Type}

def bind (m : Step σ α) (next : α → Step σ β) : Step σ β := fun s =>
  match m s with
  | (.ok a, s) => next a s
  | (.error e, s) => (.error e, s)

instance : Monad (Step σ) where
  pure a := fun s => (.ok a, s)
  bind := bind

theorem pure_apply (a : α) (s : BuildState σ) : (pure a : Step σ α) s = (.ok a, s) := rfl

theorem bind_apply (m : Step σ α) (next : α → Step σ β) (s : BuildState σ) :
    (m >>= next) s = match m s with
      | (.ok a, s) => next a s
      | (.error e, s) => (.error e, s) := rfl

def fail (e : BuildError) : Step σ α := fun s => (.error e, s)

/-- Looks at the state. -/
def ask (f : BuildState σ → α) : Step σ α := fun s => (.ok (f s), s)

/-- Looks at the state, which may fall short of what the build needs. -/
def need (f : BuildState σ → Except BuildError α) : Step σ α := fun s => (f s, s)

def tell (line : LogLine) : Step σ Unit := fun s => (.ok (), { s with log := s.log ++ [line] })

def info (text : String) : Step σ Unit := tell (.info text)

def infoIf (wanted : Bool) (text : String) : Step σ Unit :=
  if wanted then info text else pure ()

/-- An operation on files that fails the build if it fails, by the name of a path. -/
def files (path : Path) (f : FileTree → Except Fault FileTree) : Step σ Unit := fun s =>
  match f s.tree with
  | .ok tree => (.ok (), { s with tree })
  | .error cause => (.error (.filesystem path cause), s)

/-- An operation on files that may fail without harm. -/
def tryFiles (f : FileTree → Except Fault FileTree) : Step σ Unit := fun s =>
  (.ok (), { s with tree := (f s.tree).toOption.getD s.tree })

def issue (runner : Runner σ) (c : Tool.Command) : Step σ (Except BuildError Tool.Output) := fun s =>
  let (answer, tree, runnerState) := runner c s.tree s.runnerState
  (.ok answer, { s with tree, runnerState, issued := s.issued ++ [c] })

end Step
end PlcModule
