import PlcModule.Host.Shell.Process

/-! How the commands of a script are run. A command runs those in it by way of `Means.run`, which
`evaluate` supplies up to a depth; loops go round for themselves. -/
namespace PlcModule.Host.Shell

/-! ### Programs -/

/-- Tries paths one after the other, and tells what was the matter with the last that exists. -/
def tryPaths (exec : Exec) (name : String) (args : List String) (p : Process) :
    Errno → List String → Except Errno (Status × Process)
  | why, [] => .error why
  | why, path :: rest =>
    match exec path name args p with
    | .ok done => .ok done
    | .error e => tryPaths exec name args p (if isMissing e then why else e) rest

def refuseProgram (name : String) (e : Errno) : Eval Unit := do
  tell (name ++ ": " ++ startReason e)
  setStatus (startCode e)

/-- Has the shell become a program. -/
def become (m : Means) (paths : List String) (name : String) (args : List String) : Eval Unit := do
  let s ← get
  match tryPaths m.exec name args s.leaving .notFound paths with
  | .ok (status, p) =>
    set { s with process := p }
    throw (.over status)
  | .error e =>
    refuseProgram name e
    throw (.exit none)

def Session.hasTraps (s : Session) : Bool :=
  s.traps.any fun x => x.2 ≠ ""

/-- Runs a program. What was put off is done by the time that a program has slept. -/
def runProgram (m : Means) (mode : Mode) (path name : String) (args : List String) : Eval Unit := do
  match programPaths (← get).tree path name with
  | .error e =>
    tell (name ++ ": " ++ startReason e)
    setStatus 127
  | .ok paths =>
    remember name (paths.headD name)
    if Names.baseName name = "sleep" then finishAll m
    let s ← get
    if mode.last && !s.hasTraps then become m paths name args
    else
      let child := { s with process := s.process.fork }.leaving
      match tryPaths m.exec name args child .notFound paths with
      | .ok (status, child) =>
        set { s with process := s.process.resume child }
        report status
        setStatus status.code
      | .error e => refuseProgram name e

/-! ### The commands of the shell's own that run others -/

def runEval (m : Means) (mode : Mode) : Builtin := fun args => do
  if args.isEmpty then return 0
  runText m mode.inner (" ".intercalate args)
  return (← get).status

/-- The file of a script that is read in. -/
def sourcePath (s : Session) (name : String) : Option String :=
  if name.contains '/' then some name
  else (pathsOf (searchPath s) name).find? fun p => s.tree.isFile (Octets.path p)

/-- What a file holds that is read as a script. -/
def readScript (name : String) : Eval String := do
  let before := (← get).process.descriptors
  let n ← openFile .read name
  let s ← get
  match s.process.machine.readAll n with
  | .ok (text, machine) =>
    set { s with process := { s.process with machine, descriptors := before } }
    return text
  | .error _ => return ""

def source (m : Means) : Builtin := fun args => do
  let (_, args) ← options "" args
  match args with
  | [] => return 0
  | name :: _ =>
    match sourcePath (← get) name with
    | none => failWith (name ++ ": not found")
    | some path =>
      let text ← readScript path
      modify fun s => { s with command := some path }
      try
        runText m Mode.plain text
      catch
        | .return_ => pure ()
        | stop => throw stop
      return (← get).status

/-- Leaves loops. Outside of them there is nothing to leave. -/
def leaveLoops (again : Bool) : Builtin := fun args => do
  let n ← match args with
    | a :: _ =>
      let n ← count a
      if n = 0 then failWith ("Illegal number: " ++ a)
      pure n
    | [] => pure 1
  let levels := min n (← get).loops
  if 0 < levels then
    setStatus 0
    throw (.leave again levels)
  return 0

def exitShell : Builtin := fun args => do
  match args with
  | a :: _ =>
    let n ← count a
    setStatus n
    throw (.exit (some n))
  | [] => throw (.exit none)

def returnFrom : Builtin := fun args => do
  match args with
  | a :: _ =>
    let n ← count a
    setStatus n
  | [] => pure ()
  throw .return_

def execute (m : Means) : Builtin := fun args => do
  match args with
  | [] => return 0
  | name :: args =>
    let s ← get
    match programPaths s.tree (searchPath s) name with
    | .ok paths => become m paths name args
    | .error e =>
      refuseProgram name e
      throw (.exit none)
    return 0

def describeAll : Builtin := fun args => do
  let path := searchPath (← get)
  args.foldlM (fun code name => do return max code (← describe true path name)) 0

/-- Tells what names stand for, where `command` is asked for that. -/
def describeSome : Builtin := fun args => do
  let (given, args) ← options "pvV" args
  let s ← get
  let path := if has given 'p' then usualPath else searchPath s
  match args with
  | [] => return 0
  | name :: _ =>
    if has given 'v' || has given 'V' then describe (has given 'V') path name else return 0

/-- How a job has ended, once it is done. -/
def awaitJob (m : Means) (j : Job) : Eval Nat := do
  let status ← match j.work with
    | some w => finishWork m j.id w
    | none => pure (j.ended.getD (.exited 127))
  report status
  return status.code

def wait (m : Means) : Builtin := fun args => do
  if args.isEmpty then
    finishAll m
    return 0
  let mut code := 0
  for a in args do
    let jobs := (← get).jobs
    let job ← if a.startsWith "%" then
        match jobs.getLast? with
        | some j => pure (some j)
        | none => failWith ("No such job: " ++ a)
      else do
        let id ← count a
        pure (jobs.find? fun j => j.id = id)
    code ← match job with
      | some j => awaitJob m j
      | none => pure 127
  return code

def builtin? (m : Means) (mode : Mode) (name : String) : Option Builtin :=
  match name with
  | "." => some (source m)
  | "break" => some (leaveLoops false)
  | "continue" => some (leaveLoops true)
  | "command" => some describeSome
  | "eval" => some (runEval m mode)
  | "exec" => some (execute m)
  | "exit" => some exitShell
  | "hash" => some hash
  | "return" => some returnFrom
  | "type" => some describeAll
  | "wait" => some (wait m)
  | _ => builtins.lookup name

/-- Runs a command of the shell's own. Of those that go wrong only the special ones end the shell. -/
def runBuiltin (m : Means) (mode : Mode) (call : Call) : Eval Unit := do
  let before := (← get).command
  modify fun s => { s with command := some call.name }
  let act := (builtin? m mode call.name).getD fun _ => return 127
  afterwards (fun s => { s with command := before }) do
    try
      setStatus (← act call.args)
    catch
      | .failed => if call.special then throw .failed
      | stop => throw stop

/-! ### Simple commands -/

/-- Makes a variable one of the command's own. -/
def shelter (name : String) : Eval Unit :=
  modify fun s =>
    match s.saved with
    | frame :: frames =>
      if frame.any fun x => x.1 = name then s
      else { s with saved := ((name, s.var? name) :: frame) :: frames }
    | [] => s

/-- Puts the variables back that were sheltered last. -/
def Session.restore (s : Session) : Session :=
  match s.saved with
  | frame :: frames =>
    let s := frame.foldl (fun s x =>
      match x.2 with
      | some v => s.setVariable x.1 v
      | none => { s with vars := s.vars.filter fun y => y.1 ≠ x.1 }) s
    { s with saved := frames }
  | [] => s

def expandArguments (capture : Capture) : List Word → List String → Eval (List String)
  | [], done => return done
  | w :: rest, done => do
    let args ← match if takesSettings done then setting? w else none with
      | some (name, value) => pure [name ++ "=" ++ (← expandValue capture value)]
      | none => expandWord capture w
    expandArguments capture rest (done ++ args)

/-- A text in which parameters are expanded, as they are in a document. -/
def expandFreely (capture : Capture) (text : String) : Eval String := do
  let parts := readParts (grammar 1) (text.length + 2) (.document ['\x00'] false) []
  match (ExceptT.run parts).run (Source.ofText text) with
  | (.ok w, _) => expandText capture w
  | (.error _, _) => return text

/-- Shows a command before it is run. -/
def trace (capture : Capture) (channel : Option Nat) (settings : List (String × String))
    (args : List String) : Eval Unit := do
  if (← get).isSet 'x' then
    let mark ← expandFreely capture (((← get).value? "PS4").getD "")
    let words := settings.map (fun x => x.1 ++ "=" ++ x.2) ++ args
    if let some n := channel then
      modify fun s => { s with process := { s.process with
        machine := (s.process.machine.write n (mark ++ " ".intercalate words ++ "\n")).1 } }

/-- How deep functions may call one another. -/
def callLimit : Nat := 1000

def callFunction (m : Means) (mode : Mode) (body : Command) (args : List String) : Eval Unit := do
  let s ← get
  if callLimit ≤ s.calls then
    failWith ("Maximum function recursion depth (" ++ toString callLimit ++ ") reached")
  set { s with arguments := args, loops := 0, calls := s.calls + 1 }
  afterwards (fun t => { t with arguments := s.arguments, loops := s.loops, calls := s.calls }) do
    try
      m.run mode.inner body
    catch
      | .return_ => pure ()
      | stop => throw stop

def perform (m : Means) (mode : Mode) (call : Call) : Eval Unit := do
  match call.found with
  | .function body => callFunction m mode body call.args
  | .builtin => runBuiltin m mode call
  | .program =>
    let s ← get
    let path := if call.path = usualPath then usualPath else searchPath s
    runProgram m mode path call.name call.args

/-- Whether a redirection fails. The shell may go on then. -/
def tryConnect (capture : Capture) (wires : List Wire) : Eval Bool := do
  try
    wires.forM (connect capture)
    return true
  catch
    | .failed => return false
    | stop => throw stop

def runSimple (m : Means) (mode : Mode) (settings : List (String × Word)) (words : List Word)
    (redirects : List Redirect) : Eval Unit := do
  modify fun s => { s with substituted := 0 }
  let capture := capture m
  let args ← expandArguments capture words []
  let before := (← get).process.descriptors
  let s ← get
  let call : Option Call := match args with
    | name :: rest => some (Call.of s name rest)
    | [] => none
  let special : Bool := call.any Call.special
  let sheltered := call.isSome && !special
  let isExec : Bool := call.any Call.isExec
  let exports := isExec && call.any fun c => !c.args.isEmpty
  if sheltered then modify fun s => { s with saved := [] :: s.saved }
  let restore (s : Session) : Session :=
    let s := if sheltered then s.restore else s
    if isExec then s else { s with process := { s.process with descriptors := before } }
  afterwards restore do
    let wires ← redirects.mapM (expandRedirect capture)
    if !(← tryConnect capture wires) then
      setStatus 2
      modify fun s => { s with process := { s.process with descriptors := before } }
      if special then throw .failed
    else
      let mut set_ : List (String × String) := []
      for (name, value) in settings do
        let value ← expandValue capture value
        if sheltered then shelter name
        assign name value (sheltered || exports)
        set_ := set_ ++ [(name, value)]
      trace capture (before.lookup 2) set_ args
      match call with
      | some c => perform m mode c
      | none => setStatus (← get).substituted

/-! ### Compound commands -/

/-- What a part of a loop comes to. -/
inductive Turn where
  | next
  | again
  | gone

def runTurn (body : Eval Unit) : Eval Turn := do
  try
    body
    return .next
  catch
    | .leave again levels =>
      if 1 < levels then throw (.leave again (levels - 1))
      return if again then .again else .gone
    | stop => throw stop

/-- The most turns that a loop makes. -/
def turnLimit : Nat := 100000000

/-- Goes round a loop, of which the last turn ended with an exit code. -/
def runLoop (m : Means) (mode : Mode) (until_ : Bool) (test body : Command) : Nat → Nat → Eval Unit
  | 0, _ => throw (.over (.killed killSignal))
  | n + 1, last => do
    match ← runTurn (m.run ⟨true, false⟩ test) with
    | .gone => setStatus last
    | .again => runLoop m mode until_ test body n last
    | .next =>
      if ((← get).status = 0) = until_ then setStatus last
      else
        match ← runTurn (m.run mode.inner body) with
        | .gone => return
        | _ => runLoop m mode until_ test body n (← get).status

def runEach (m : Means) (mode : Mode) (name : String) (body : Command) : List String → Eval Unit
  | [] => return
  | value :: rest => do
    assign name value false
    match ← runTurn (m.run mode.inner body) with
    | .gone => return
    | _ => runEach m mode name body rest

/-- Does something within one more loop. -/
def inLoop (body : Eval Unit) : Eval Unit := do
  let loops := (← get).loops
  modify fun s => { s with loops := loops + 1 }
  afterwards (fun s => { s with loops }) body

/-- Runs the first arm of which a pattern matches. -/
def runArms (m : Means) (mode : Mode) (subject : List Char) :
    List (List Word × Command) → Eval Unit
  | [] => setStatus 0
  | (patterns, body) :: rest => do
    let fits ← patterns.anyM fun p => do
      return Glob.fits (← expandMarks (capture m) p) subject
    if fits then
      match body with
      | .nothing => setStatus 0
      | body => m.run mode body
    else runArms m mode subject rest

/-! ### Pipes -/

/-- How much a pipe takes that nobody reads. -/
def pipeRoom : Nat := 65536

/-- Runs the stages of a pipe one after the other, each with the pipe that it reads from. Answers
how they ended, and whether one of them would have written more if there had been room. -/
def runStages (m : Means) (mode : Mode) (room : Nat) :
    Option Nat → List Command → Eval (List Status × Bool)
  | _, [] => return ([], false)
  | from_, stage :: rest => do
    let s ← get
    let descriptors := match from_ with
      | some n => s.process.descriptors.set 0 n
      | none => s.process.descriptors
    let (machine, into) := s.process.machine.open_ (.pipe [] [] (some room))
    let descriptors := if rest.isEmpty then descriptors else descriptors.set 1 into
    set { s with process := { s.process with machine } }
    let status ← apart m descriptors (m.run ⟨mode.tested, true⟩ stage)
    let starved ← match from_ with
      | some n =>
        let s ← get
        let starved := match s.process.machine.channel n with
          | .pipe [] [] (some 0) => true
          | _ => false
        set { s with process := { s.process with machine := s.process.machine.setChannel n .sink } }
        pure starved
      | none => pure false
    let (others, also) ← runStages m mode room (some into) rest
    return (status :: others, starved || also)

/-- Finds the programs of a pipe before any of them is run. -/
def locate (stages : List Command) : Eval Unit :=
  stages.forM fun stage => do
    match stage with
    | .simple _ _ (w :: _) _ =>
      match plainText w with
      | some name =>
        let s ← get
        match if isName name then some (find s true name) else none with
        | some .program =>
          match programPaths s.tree (searchPath s) name with
          | .ok (p :: _) => remember name p
          | _ => return
        | _ => return
      | none => return
    | _ => return

/-- Runs a pipe, with more room as long as a reader has used up all that a full pipe had. -/
def runPipe (m : Means) (mode : Mode) (stages : List Command) : Nat → Nat → Eval Unit
  | 0, _ => return
  | n + 1, room => do
    let before ← get
    let (statuses, starved) ← runStages m mode room none stages
    if starved && 0 < n then
      set before
      runPipe m mode stages n (16 * room)
    else
      statuses.forM report
      setStatus ((statuses.getLast?.getD (.exited 0)).code)

def pipeTries : Nat := 4

/-! ### All commands -/

/-- Puts a command off. -/
def putOff (line : Nat) (capture : Capture) (body : Command)
    (redirects : List Redirect) : Eval Unit := do
  let wires ← redirects.mapM (expandRedirect capture)
  let s ← get
  let p := s.process.fork
  let q := p.open_ 0 .sink
  set { s with process := { q with id := s.process.id, parent := s.process.parent } }
  let connected ← tryConnect capture wires
  let t ← get
  let w : Work := ⟨body, line, t.process.descriptors,
    s.tree.workingDirectory, s.arguments, s.vars, s.functions⟩
  let job : Job := if connected then ⟨p.id, some w, none⟩ else ⟨p.id, none, some (.exited 2)⟩
  set { t with
    process := { t.process with descriptors := s.process.descriptors }
    jobs := t.jobs ++ [job]
    status := 0 }

/-- The commands that follow one another. -/
def Command.parts : Command → List Command
  | .sequence first second => first.parts ++ second.parts
  | c => [c]

/-- Runs commands one after the other, of which only the last one has nothing after it. -/
def runAll (m : Means) (mode : Mode) : List Command → Eval Unit
  | [] => return
  | [c] => m.run mode c
  | c :: rest => do
    m.run mode.inner c
    runAll m mode rest

def setLine (line : Nat) : Eval Unit :=
  modify fun s => { s with line }

def runCommand (m : Means) (mode : Mode) (c : Command) : Eval Unit := do
  let capture := capture m
  match c with
  | .nothing => return
  | .simple line settings words redirects =>
    setLine line
    runSimple m mode settings words redirects
    demandSuccess mode
  | .sequence first second => runAll m mode (first.parts ++ second.parts)
  | .both first second =>
    m.run ⟨true, false⟩ first
    if (← get).status = 0 then m.run mode second
  | .either first second =>
    m.run ⟨true, false⟩ first
    if (← get).status ≠ 0 then m.run mode second
  | .negation body =>
    m.run ⟨true, false⟩ body
    setStatus (if (← get).status = 0 then 1 else 0)
  | .pipe stages background =>
    if background then putOff (← get).line capture (.pipe stages false) []
    else
      locate stages
      runPipe m mode stages pipeTries pipeRoom
      demandSuccess mode
  | .redirected line body redirects =>
    setLine line
    let before := (← get).process.descriptors
    afterwards (fun s => { s with process := { s.process with descriptors := before } }) do
      let wires ← redirects.mapM (expandRedirect capture)
      if ← tryConnect capture wires then m.run mode.inner body else setStatus 2
    demandSuccess mode
  | .subshell line body redirects =>
    setLine line
    let wires ← redirects.mapM (expandRedirect capture)
    let s ← get
    let inner : Eval Unit := do
      wires.forM (connect capture)
      m.run ⟨mode.tested, true⟩ body
    if mode.last && !s.hasTraps then inner
    else
      let status ← apart m s.process.descriptors inner
      report status
      setStatus status.code
      demandSuccess mode
  | .background body redirects => putOff (← get).line capture body redirects
  | .choose test yes no =>
    m.run ⟨true, false⟩ test
    if (← get).status = 0 then m.run mode yes
    else match no with
      | .nothing => setStatus 0
      | no => m.run mode no
  | .loop until_ test body => inLoop (runLoop m mode until_ test body turnLimit 0)
  | .each line name words body =>
    setLine line
    let values ← expandWords capture words
    setStatus 0
    inLoop (runEach m mode name body values)
  | .select line subject arms =>
    setLine line
    let subject ← expandText capture subject
    runArms m mode subject.toList arms
  | .define name body =>
    modify fun s => { s with
      functions := (name, body) :: s.functions.filter fun x => x.1 ≠ name
      status := 0 }

/-- Runs a command whose parts lie in one another to a depth. A script that goes deeper is taken to
have used up its stack. -/
def evaluate (exec : Exec) : Nat → Mode → Command → Eval Unit
  | 0, _, _ => throw (.over (.killed 11))
  | n + 1, mode, c => do
    if (← get).isSet 'n' then return
    let m : Means := ⟨exec, evaluate exec n⟩
    poll m
    runCommand m mode c
    poll m

def depthLimit : Nat := 20000

def means (exec : Exec) : Means :=
  ⟨exec, evaluate exec depthLimit⟩

end PlcModule.Host.Shell
