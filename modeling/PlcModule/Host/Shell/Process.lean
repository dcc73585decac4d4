import PlcModule.Host.Shell.Lookup
import PlcModule.Host.Shell.Redirection

/-! Shells within shells: a part of a script that is run in a process of its own, now or later, and
what is done at the end of one. What runs a single command is handed in. -/
namespace PlcModule.Host.Shell

/-- What a script rests on: how programs are started, and how a command is run. -/
structure Means where
  exec : Exec
  run : Mode → Command → Eval Unit

/-- Does something, and puts the shell in order then even if it stops early. -/
def afterwards {α : Type} (restore : Session → Session) (body : Eval α) : Eval α := do
  try
    let a ← body
    modify restore
    return a
  catch stop =>
    modify restore
    throw stop

/-- Ends a strict script after a failure that nobody looks at. -/
def demandSuccess (mode : Mode) : Eval Unit := do
  let s ← get
  if s.isSet 'e' && !mode.tested && s.status ≠ 0 then throw (.exit none)

/-! ### Texts that are run -/

def Source.ofText (text : String) : Source :=
  ⟨text.toList, 1, .ending, false, [], [], 0, [], []⟩

/-- Nothing is left of a text but its end. -/
def Source.isOver (src : Source) : Bool :=
  src.pushed && match src.last with
    | .ending => true
    | _ => false

/-- Runs what is left of a text, a line at a time. -/
def runFrom (m : Means) (mode : Mode) : Nat → Bool → Source → Eval Unit
  | 0, _, _ => return
  | n + 1, begun, src => do
    let s ← get
    let src := { src with documents := [], nextDocument := s.nextDocument, aliases := s.aliases }
    let (answer, src) := (ExceptT.run readLine).run src
    let documents := src.documents ++ s.documents
    set { s with documents, nextDocument := src.nextDocument, nextLine := src.line }
    match answer with
    | .error message => refuse message
    | .ok none => if !begun then setStatus 0
    | .ok (some c) =>
      m.run ⟨mode.tested, mode.last && src.isOver⟩ c
      let empty := match c with
        | .nothing => true
        | _ => false
      runFrom m mode n (begun || !empty) src

def runText (m : Means) (mode : Mode) (text : String) : Eval Unit := do
  let nextLine := (← get).nextLine
  afterwards (fun s => { s with nextLine }) do
    runFrom m mode (text.length + 2) false (.ofText text)

/-! ### Signals -/

/-- The number of the signal that no process can catch. -/
def killSignal : Nat := 9

/-- Takes notice of the signals that were sent to the shell. -/
def poll (m : Means) : Eval Unit := do
  let s ← get
  let signals := s.process.machine.signals
  let mine := (signals.filter fun x => x.1 = s.process.id).map Prod.snd
  if mine.isEmpty then return
  let others := signals.filter fun x => x.1 ≠ s.process.id
  set { s with process := { s.process with machine := { s.process.machine with signals := others } } }
  for n in mine do
    let action := if n = killSignal then none
      else if s.process.ignored.contains n then some "" else s.traps.lookup n
    match action with
    | some action =>
      let status := (← get).status
      runText m Mode.plain action
      setStatus status
    | none => if !isHarmless n then throw (.over (.killed n))

/-- Ends the shell at once if a signal was sent to it that it does not catch. -/
def perish : Eval Unit := do
  let s ← get
  let isDeadly (n : Nat) : Bool :=
    n = killSignal || (!isHarmless n && !s.process.ignored.contains n && (s.traps.lookup n).isNone)
  match s.process.machine.signals.find? fun x => x.1 = s.process.id && isDeadly x.2 with
  | some (_, n) => throw (.over (.killed n))
  | none => return

/-! ### The end of a shell -/

/-- What is done on the way out, as the script has asked for it. Answers the exit code. -/
def leaveTrap (m : Means) (code : Nat) : Eval Nat := do
  let s ← get
  match s.traps.lookup 0 with
  | none => return code
  | some action =>
    set { s with traps := s.traps.filter (fun x => x.1 ≠ 0), loops := 0 }
    try
      runText m Mode.plain action
      return code
    catch
      | .exit other => return other.getD code
      | .failed => return (← get).status
      | .over status => throw (.over status)
      | _ => return code

/-- How a shell has ended after its last command. -/
def statusOf (m : Means) (ended : Except Stop Unit) : StateM Session Status := do
  match ended with
  | .error (.over status) => return status
  | ended =>
    let last := (← get).status
    let code := match ended with
      | .error (.exit (some n)) => n
      | _ => last
    match ← (leaveTrap m code).run with
    | .ok code => return .exited (code % 256)
    | .error (.over status) => return status
    | .error _ => return .exited (code % 256)

/-- Goes on after another shell, which has had files and channels in common. -/
def Session.resume (s child : Session) : Session :=
  { s with process := s.process.resume child.process }

/-- A copy of a shell, for a process of some number. Signals are caught no more. -/
def Session.copy (s : Session) (id : Nat) : Session :=
  { s with
    process := { s.process with id, parent := s.process.id }
    traps := s.traps.filter fun x => x.2 = ""
    jobs := s.jobs.map fun j => ⟨j.id, none, some (j.ended.getD (.exited 127))⟩ }

/-- The shell that does what was put off. -/
def Session.forWork (s : Session) (id : Nat) (w : Work) : Session :=
  let copy := s.copy id
  let tree := { s.tree with workingDirectory := w.directory }
  { copy with
    process := { copy.process.withTree tree with descriptors := w.descriptors }
    arguments := w.arguments
    vars := w.vars
    functions := w.functions
    line := w.line }

/-- Does now what was put off. -/
def finish (conclude : Eval Unit → StateM Session Status) (m : Means) (id : Nat) (w : Work) :
    StateM Session Status := do
  let s ← get
  let (status, child) := (conclude (m.run ⟨false, true⟩ w.body)).run (s.forWork id w)
  set { s.resume child with jobs := s.jobs.map (Job.finish id status) }
  return status

/-- What is put off, with the numbers of the processes. -/
def Session.works (s : Session) : List (Nat × Work) :=
  s.jobs.filterMap fun j => j.work.map fun w => (j.id, w)

/-- Runs something to its end, and what was put off in it. Work may be put off in work to a depth. -/
def concludeIn (m : Means) : Nat → Eval Unit → StateM Session Status
  | 0, _ => return .exited 2
  | n + 1, body => do
    let ended ← body.run
    let status ← statusOf m ended
    for (id, w) in (← get).works do
      let _ ← finish (concludeIn m n) m id w
    return status

def workDepth : Nat := 50

def conclude (m : Means) (body : Eval Unit) : StateM Session Status :=
  concludeIn m workDepth body

/-- Does one thing that was put off. -/
def finishWork (m : Means) (id : Nat) (w : Work) : Eval Status :=
  (finish (conclude m) m id w : StateM Session Status)

/-- Does all that was put off. -/
def finishAll (m : Means) : Eval Unit := do
  for (id, w) in (← get).works do
    let _ ← finishWork m id w

/-- Runs something in a shell of its own, with descriptors of its own. -/
def apart (m : Means) (descriptors : Descriptors) (body : Eval Unit) : Eval Status := do
  let s ← get
  let copy := { s with process := s.process.fork }.copy s.process.machine.nextProcess
  let copy := { copy with process := { copy.process with descriptors, parent := s.process.id } }
  let (status, child) := (conclude m body).run copy
  set (s.resume child)
  return status

/-- Tells that a signal has ended a process. -/
def report (status : Status) : Eval Unit := do
  match status with
  | .killed signal =>
    match signalTexts.lookup signal with
    | some text =>
      let _ ← put 2 (text ++ "\n")
    | none => return
  | .exited _ => return

/-- What a command writes. -/
def capture (m : Means) : Capture := fun body => do
  match body with
  | .nothing => return ""
  | body =>
    let s ← get
    let (machine, n) := s.process.machine.open_ (.pipe [] [] none)
    set { s with process := { s.process with machine } }
    let status ← apart m (s.process.descriptors.set 1 n) (m.run ⟨false, true⟩ body)
    let s ← get
    let text := match s.process.machine.channel n with
      | .pipe left written _ => String.ofList left ++ String.join written.reverse
      | _ => ""
    let machine := s.process.machine.setChannel n .sink
    set { s with process := { s.process with machine }, substituted := status.code }
    perish
    report status
    return text

end PlcModule.Host.Shell
