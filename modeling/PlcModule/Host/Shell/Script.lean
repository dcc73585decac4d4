import PlcModule.Host.Shell.Run

/-! The shell as a program: what its arguments say, and the script that it runs. -/
namespace PlcModule.Host.Shell

/-- What a shell knows before it has read anything. -/
def usualVariables (p : Process) : List (String × Variable) := [
  ("IFS", ⟨some Session.usualSplitters, false, false⟩), ("OPTIND", ⟨some "1", false, false⟩),
  ("PPID", ⟨some (toString p.parent), false, false⟩), ("PS1", ⟨some "# ", false, false⟩),
  ("PS2", ⟨some "> ", false, false⟩), ("PS4", ⟨some "+ ", false, false⟩),
  ("PWD", ⟨some (Names.routeText p.tree.workingDirectory), true, false⟩)]

def Session.start (p : Process) : Session :=
  let given := p.environment.filter fun x => isName x.1
  let s : Session := {
    process := p, zero := p.name, arguments := [], vars := usualVariables p, functions := [],
    aliases := [], options := [], status := 0, substituted := 0, line := 0, command := none,
    nextLine := 0, traps := [], saved := [], loops := 0, calls := 0, documents := [], nextDocument := 0,
    jobs := [], root := p.id, optionOffset := 0, umask := 18, located := [] }
  given.foldl (fun s x =>
    match usualNames.contains x.1, s.var? x.1 with
    | true, some v => s.setVariable x.1 { v with exported := true }
    | _, _ => s.setVariable x.1 ⟨some x.2, true, false⟩) s
where
  /-- What the environment cannot set. -/
  usualNames : List String := ["IFS", "OPTIND", "PPID", "PWD"]

/-- Reads the options of a shell. Answers whether a script follows, and what is left. -/
def readFlags : Nat → Bool → List String → Eval (Bool × List String)
  | 0, script, args => return (script, args)
  | _, script, [] => return (script, [])
  | n + 1, script, a :: rest => do
    match a.toList with
    | ['-'] | ['-', '-'] => return (script, rest)
    | sign :: letters =>
      if sign ≠ '-' && sign ≠ '+' then return (script, a :: rest)
      let mut script := script
      let mut left := rest
      for c in letters do
        if c = 'c' then script := true
        else if c = 'l' then pure ()
        else if c = 'o' then
          match left with
          | [] =>
            let _ ← showOptions (sign = '-')
          | name :: more =>
            match optionNames.lookup name with
            | some d => setOption (sign = '-') d
            | none => failWith ("Illegal option " ++ String.singleton sign ++ "o " ++ name)
            left := more
        else if (optionNames.map Prod.snd).contains c && !c.isDigit then setOption (sign = '-') c
        else failWith ("Illegal option " ++ String.ofList [sign, c])
      readFlags n script left
    | [] => return (script, a :: rest)

/-- What is left of the input. -/
def readInput : Eval String := do
  let s ← get
  match (s.process.descriptors.lookup 0).map s.process.machine.readAll with
  | some (.ok (text, machine)) =>
    set { s with process := { s.process with machine } }
    return text
  | _ => return ""

def runScript (m : Means) (args : List String) : Eval Unit := do
  let (script, rest) ← readFlags (args.length + 1) false args
  let s ← get
  match script, rest with
  | true, [] => failWith "-c requires an argument"
  | true, text :: rest =>
    set { s with zero := rest.headD s.zero, arguments := rest.tail }
    runText m Mode.plain text
  | false, rest =>
    match s.isSet 's', rest with
    | false, file :: rest =>
      let text ← readScript file
      modify fun s => { s with zero := file, arguments := rest }
      runText m Mode.plain text
    | _, rest =>
      set { s with arguments := rest }
      runText m Mode.plain (← readInput)

/-- Runs a shell. -/
def program (exec : Exec) : Program := fun args => do
  let m := means exec
  let (status, s) := (conclude m (runScript m args)).run (.start (← get))
  set s.process
  match status with
  | .exited code => return code
  | .killed signal => throw (.killed signal)

end PlcModule.Host.Shell
