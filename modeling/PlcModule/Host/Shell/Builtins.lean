import PlcModule.Host.Shell.Expansion
import PlcModule.Host.Shell.Reader
import PlcModule.Host.Utility.Condition
import PlcModule.Host.Utility.Printing

/-! The commands that a shell has of its own, but for those that run others. -/
namespace PlcModule.Host.Shell

abbrev Builtin := List String → Eval Nat

/-- The options in front of the arguments. A letter that a colon follows has an argument. -/
def optionsOf (letters : String) : Nat → List String → List (Char × String) →
    Eval (List (Char × String) × List String)
  | 0, args, done => return (done.reverse, args)
  | n + 1, args, done => do
    match args with
    | [] => return (done.reverse, [])
    | a :: rest =>
      match a.toList with
      | ['-', '-'] => return (done.reverse, rest)
      | '-' :: c :: more =>
        let after := letters.toList.dropWhile (· ≠ c)
        if after.isEmpty || c = ':' then failWith ("Illegal option -" ++ String.singleton c)
        let next := if more.isEmpty then rest else String.ofList ('-' :: more) :: rest
        if after[1]? = some ':' then
          if !more.isEmpty then optionsOf letters n rest ((c, String.ofList more) :: done)
          else match rest with
            | value :: rest => optionsOf letters n rest ((c, value) :: done)
            | [] => failWith ("No arg for -" ++ String.singleton c ++ " option")
        else optionsOf letters n next ((c, "") :: done)
      | _ => return (done.reverse, args)

def options (letters : String) (args : List String) : Eval (List (Char × String) × List String) :=
  optionsOf letters ((args.map fun a => a.length + 1).foldl (· + ·) 1) args []

def has (given : List (Char × String)) (c : Char) : Bool :=
  given.any fun x => x.1 = c

/-- A text in single quotes, as it would be read again. -/
def singleQuoted (s : String) : String :=
  "'" ++ String.join ((s.splitOn "'").intersperse "'\"'\"'") ++ "'"

/-- The number that an argument is. -/
def count (s : String) : Eval Nat := do
  match Numeral.count? s with
  | some n => return n
  | none => failWith ("Illegal number: " ++ s)

/-! ### Variables -/

def checkName (name : String) : Eval Unit := do
  if !isName name then failWith (name ++ ": bad variable name")

/-- The name and the value of an argument. -/
def setting (arg : String) : String × Option String :=
  match arg.splitOn "=" with
  | name :: value :: more => (name, some ("=".intercalate (value :: more)))
  | _ => (arg, none)

def changeVariable (name : String) (f : Variable → Variable) : Eval Unit :=
  modify fun s => s.setVariable name (f ((s.var? name).getD ⟨none, false, false⟩))

/-- Shows variables, each as a command that sets it. -/
def showVariables (front : String) (shown : Variable → Bool) : Eval Nat := do
  let s ← get
  let lines := (s.vars.filter fun x => shown x.2).map fun x =>
    front ++ x.1 ++ (match x.2.value with
      | some v => "=" ++ singleQuoted v
      | none => "") ++ "\n"
  say (String.join (lines.mergeSort fun a b => a ≤ b))

def markVariables (command : String) (shown : Variable → Bool) (f : Variable → Variable) :
    Builtin := fun args => do
  let (given, args) ← options "p" args
  if has given 'p' || args.isEmpty then showVariables (command ++ " ") shown
  else
    for a in args do
      let (name, value) := setting a
      checkName name
      if let some v := value then assign name v false
      changeVariable name f
    return 0

def unset : Builtin := fun args => do
  let (given, args) ← options "vf" args
  for name in args do
    if (given.getLast?).any fun x => x.1 = 'f' then
      modify fun s => { s with functions := s.functions.filter fun x => x.1 ≠ name }
    else
      checkName name
      let s ← get
      if (s.var? name).any Variable.fixed then failWith (name ++ ": is read only")
      if (s.var? name).isSome then
        set { s with vars := s.vars.filter fun x => x.1 ≠ name }
      else if (given.isEmpty) then
        set { s with functions := s.functions.filter fun x => x.1 ≠ name }
  return 0

def local_ : Builtin := fun args => do
  if (← get).saved.isEmpty then failWith "not in a function"
  for a in args do
    let (name, value) := setting a
    checkName name
    modify fun s =>
      match s.saved with
      | frame :: frames =>
        if frame.any fun x => x.1 = name then s
        else { s with saved := ((name, s.var? name) :: frame) :: frames }
      | [] => s
    if let some v := value then assign name v false
  return 0

def optionNames : List (String × Char) := [
  ("errexit", 'e'), ("noglob", 'f'), ("ignoreeof", 'I'), ("interactive", 'i'), ("monitor", 'm'),
  ("noexec", 'n'), ("stdin", 's'), ("xtrace", 'x'), ("verbose", 'v'), ("vi", 'V'), ("emacs", 'E'),
  ("noclobber", 'C'), ("allexport", 'a'), ("notify", 'b'), ("nounset", 'u'), ("privileged", 'p'),
  ("nolog", '1'), ("debug", '2')]

/-- Sets an option or takes it back. The options stay in their order. -/
def setOption (on : Bool) (c : Char) : Eval Unit :=
  modify fun s =>
    let wanted (d : Char) : Bool := if d = c then on else s.options.contains d
    { s with options := (optionNames.map Prod.snd).filter wanted }

def showOptions (on : Bool) : Eval Nat := do
  let s ← get
  let line (x : String × Char) : String :=
    if on then x.1 ++ String.ofList (List.replicate (16 - x.1.length) ' ') ++
      (if s.isSet x.2 then "on" else "off") ++ "\n"
    else "set " ++ (if s.isSet x.2 then "-o " else "+o ") ++ x.1 ++ "\n"
  say ((if on then "Current option settings\n" else "") ++ String.join (optionNames.map line))

/-- Reads options in front of the arguments. Answers the arguments if there are any to be set. -/
def readSettings : Nat → List String → Eval (Option (List String))
  | 0, _ => return none
  | _, [] => return none
  | n + 1, a :: rest => do
    match a.toList with
    | ['-', '-'] => return some rest
    | ['-'] =>
      setOption false 'x'
      setOption false 'v'
      return if rest.isEmpty then none else some rest
    | sign :: letters =>
      if (sign = '-' || sign = '+') && !letters.isEmpty then
        let on := sign = '-'
        let mut left := rest
        for c in letters do
          if c = 'o' then
            match left with
            | [] =>
              let _ ← showOptions on
            | name :: more =>
              match optionNames.lookup name with
              | some d => setOption on d
              | none => failWith ("Illegal option " ++ String.singleton sign ++ "o " ++ name)
              left := more
          else if (optionNames.map Prod.snd).contains c && !c.isDigit then setOption on c
          else failWith ("Illegal option " ++ String.ofList [sign, c])
        readSettings n left
      else return some (a :: rest)
    | [] => return some (a :: rest)

def set_ : Builtin := fun args => do
  if args.isEmpty then showVariables "" fun v => v.value.isSome
  else
    match ← readSettings (args.length + 1) args with
    | some arguments => modify fun s => { s with arguments }
    | none => pure ()
    return 0

def shift : Builtin := fun args => do
  let n ← match args with
    | a :: _ => count a
    | [] => pure 1
  let s ← get
  if s.arguments.length < n then failWith "can't shift that many"
  set { s with arguments := s.arguments.drop n }
  return 0

/-! ### Reading -/

/-- The next byte of a descriptor. -/
def readByte (descriptor : Nat) : Eval (Option Char) := do
  let s ← get
  match s.process.descriptors.lookup descriptor with
  | none => return none
  | some n =>
    match s.process.machine.readByte n with
    | some (c, machine) =>
      set { s with process := { s.process with machine } }
      return some c
    | none => return none

/-- A line, with which of its characters a backslash has quoted, and whether it is ended. -/
def readMarks (raw : Bool) : Nat → Bool → List Glob.Mark → Eval (List Glob.Mark × Bool)
  | 0, _, done => return (done.reverse, false)
  | n + 1, escaped, done => do
    match ← readByte 0 with
    | none => return (done.reverse, false)
    | some '\x00' => readMarks raw n escaped done
    | some c =>
      if escaped then
        if c = '\n' then readMarks raw n false done else readMarks raw n false ((c, true) :: done)
      else if c = '\\' && !raw then readMarks raw n true done
      else if c = '\n' then return (done.reverse, true)
      else readMarks raw n false ((c, false) :: done)

def lineLimit : Nat := 10000000

/-- Cuts a line into so many fields. The last one has all that is left. -/
def readFields (splitters : String) : Nat → List Glob.Mark → List String
  | 0, _ => []
  | n + 1, marks =>
    let parts (m : Glob.Mark) : Bool := !m.2 && splitters.contains m.1
    let isGap (m : Glob.Mark) : Bool := parts m && Session.usualSplitters.contains m.1
    let marks := marks.dropWhile isGap
    if n = 0 then
      let trimmed := (marks.reverse.dropWhile isGap).reverse
      -- A single separator at the very end goes with its field.
      match trimmed.reverse with
      | m :: front =>
        if parts m && !front.any parts then [Glob.textOf front.reverse]
        else [Glob.textOf trimmed]
      | [] => [""]
    else
      let field := marks.takeWhile (!parts ·)
      let rest := marks.drop field.length
      let rest := rest.dropWhile isGap
      let rest := match rest with
        | m :: more => if parts m && !isGap m then more else rest
        | [] => []
      Glob.textOf field :: readFields splitters n rest

def read : Builtin := fun args => do
  let (given, names) ← options "p:r" args
  if names.isEmpty then failWith "arg count"
  let (marks, ended) ← readMarks (has given 'r') lineLimit false []
  let values := readFields (← get).splitters names.length marks
  for (name, value) in names.zip (values ++ List.replicate names.length "") do
    checkName name
    assign name value false
  return if ended then 0 else 1

/-- Looks for an option among arguments. Answers its letter, the argument it has, and where to go
on looking. -/
def nextOption (letters : List Char) (args : Array String) (index offset : Nat) :
    Option (Char × Option String × Nat × Nat) × Nat :=
  let word := (args.getD (index - 2) "").toList
  let continued := 1 < index && 0 < offset && offset < word.length
  let start : Option (List Char × Nat) :=
    if continued then some (word.drop offset, index)
    else match (args.getD (index - 1) "").toList with
      | ['-', '-'] => none
      | '-' :: c :: more => some (c :: more, index + 1)
      | _ => none
  match start with
  | none =>
    (none, if args.getD (index - 1) "" = "--" && index - 1 < args.size then index + 1 else index)
  | some ([], index) => (none, index)
  | some (c :: more, index) =>
    let known := letters.dropWhile (· ≠ c)
    let next := if more.isEmpty then 0
      else (args.getD (index - 2) "").length - more.length
    if c = ':' || known.isEmpty then (some ('?', some (String.singleton c), index, next), index)
    else if known[1]? = some ':' then
      if !more.isEmpty then (some (c, some (String.ofList more), index, 0), index)
      else match args[index - 1]? with
        | some value => (some (c, some value, index + 1, 0), index)
        | none => (some (':', some (String.singleton c), index, 0), index)
    else (some (c, none, index, next), index)

def getopts : Builtin := fun args => do
  match args with
  | letters :: name :: rest =>
    let s ← get
    let from_ := (if rest.isEmpty then s.arguments else rest).toArray
    let index := max 1 (((s.value? "OPTIND").bind Numeral.count?).getD 1)
    let index := if from_.size + 1 < index then 1 else index
    let quiet := letters.startsWith ":"
    let known := if quiet then letters.toList.tail else letters.toList
    let forget : Eval Unit :=
      modify fun s => { s with vars := s.vars.filter fun x => x.1 ≠ "OPTARG" }
    let (found, stop) := nextOption known from_ index s.optionOffset
    let finish (code : Nat) (index offset : Nat) (value : String) : Eval Nat := do
      assign "OPTIND" (toString index) false
      checkName name
      assign name value false
      modify fun s => { s with optionOffset := offset }
      return code
    match found with
    | none => finish 1 stop 0 "?"
    | some ('?', some c, index, offset) =>
      if quiet then assign "OPTARG" c false
      else
        let _ ← put 2 ("Illegal option -" ++ c ++ "\n")
        forget
      finish 0 index offset "?"
    | some (':', some c, index, _) =>
      if quiet then
        assign "OPTARG" c false
        finish 0 index 0 ":"
      else
        let _ ← put 2 ("No arg for -" ++ c ++ " option\n")
        forget
        finish 0 index 0 "?"
    | some (c, value, index, offset) =>
      assign "OPTARG" (value.getD "") false
      finish 0 index offset (String.singleton c)
  | _ => failWith "Usage: getopts optstring var [arg...]"

/-! ### Writing and weighing -/

def echo : Builtin := fun args =>
  say (Printing.echo .inShell args)

def printf : Builtin := fun args => do
  let (_, args) ← options "" args
  match Printing.printf? .inShell args with
  | none => failWith "usage: printf format [arg ...]"
  | some p =>
    for message in p.complaints do
      tell message
    let code ← say p.output
    return max p.code code

def test : Builtin := fun args => do
  match Condition.InShell.holds (← get).tree args with
  | .ok true => return 0
  | .ok false => return 1
  | .error message => failWith message

def bracket : Builtin := fun args => do
  match args.getLast? with
  | some last => if last.startsWith "]" then test args.dropLast else failWith "missing ]"
  | none => failWith "missing ]"

/-! ### The working directory -/

def directoryText (s : Session) : String :=
  Names.routeText s.tree.workingDirectory

def cd : Builtin := fun args => do
  let (_, args) ← options "LP" args
  let s ← get
  let goal := match args with
    | [] => (s.value? "HOME").getD ""
    | "-" :: _ => (s.value? "OLDPWD").getD ""
    | dir :: _ => dir
  let goal := if goal = "" then "." else goal
  match s.tree.status (Octets.path goal) with
  | .ok (l, .directory) =>
    let before := directoryText s
    set { s with process := s.process.withTree { s.tree with workingDirectory := l } }
    assign "OLDPWD" before true
    assign "PWD" (directoryText (← get)) true
    if args.head? = some "-" then say (directoryText (← get) ++ "\n") else return 0
  | _ => failWith ("can't cd to " ++ goal)

def pwd : Builtin := fun args => do
  let _ ← options "LP" args
  say (directoryText (← get) ++ "\n")

/-! ### Signals -/

def trap : Builtin := fun args => do
  let (_, args) ← options "" args
  match args with
  | [] =>
    let s ← get
    let lines := (signalNames.filterMap fun x => (s.traps.lookup x.2).map fun action =>
      "trap -- " ++ singleQuoted action ++ " " ++ x.1 ++ "\n")
    say (String.join lines)
  | first :: rest =>
    let reset := rest.isEmpty || (Numeral.count? first).isSome
    let action := if reset || first = "-" then none else some first
    for name in if reset then args else rest do
      match signal? name with
      | some n =>
        modify fun s =>
          let others := s.traps.filter fun x => x.1 ≠ n
          { s with traps := match action with
            | some a => (n, a) :: others
            | none => others }
      | none =>
        let _ ← put 2 ("trap: " ++ name ++ ": bad trap\n")
        return 1
    return 0

/-- The number of the first process on a host. -/
def firstProcess : Nat := 4711

/-- Sends a signal to a process. Answers whether it is there. -/
def sendSignal (signal target : Nat) : Eval Bool := do
  let s ← get
  let job := s.jobs.find? fun j => j.id = target
  match job with
  | some j =>
    if j.ended.isSome then return false
    if signal ≠ 0 && !isHarmless signal then
      set { s with jobs := s.jobs.map (Job.finish target (.killed signal)) }
    return true
  | none =>
    if firstProcess ≤ target && target < s.process.machine.nextProcess then
      if signal ≠ 0 then
        set { s with process := { s.process with machine := s.process.machine.send target signal } }
      return true
    else return false

/-- A signal by the name that a list of all signals gives it. -/
def signalName (n : Nat) : String :=
  match signalNames.find? fun x => x.2 = n && n ≠ 16 with
  | some x => x.1
  | none =>
    if n = 34 then "RTMIN"
    else if n = 64 then "RTMAX"
    else if 34 < n && n < 50 then "RTMIN+" ++ toString (n - 34)
    else if 49 < n && n < 64 then "RTMAX-" ++ toString (64 - n)
    else toString n

def killUsage : String :=
  "Usage: kill [-s sigspec | -signum | -sigspec] [pid | job]... or\nkill -l [exitstatus]"

def kill : Builtin := fun args => do
  let (number, lists, targets) ← match args with
    | a :: rest =>
      match a.toList with
      | '-' :: c :: more =>
        match signal? (String.ofList (c :: more)) with
        | some n => pure (some n, false, rest)
        | none =>
          let (given, rest) ← options "ls:" args
          let n ← match given.reverse.lookup 's' with
            | some name =>
              match signal? name with
              | some n => pure (some n)
              | none => failWith ("invalid signal number or name: " ++ name)
            | none => pure none
          pure (n, has given 'l', rest)
      | _ => pure (none, false, args)
    | [] => pure (none, false, [])
  if lists then
    match targets with
    | [] => say (Lines.join ("0" :: (List.range 64).map fun i => signalName (i + 1)))
    | code :: _ =>
      let n ← count code
      let n := if 128 < n then n - 128 else n
      if n = 0 || 64 < n then failWith ("invalid signal number or exit status: " ++ code)
      say (signalName n ++ "\n")
  else
    if targets.isEmpty then failWith killUsage
    let mut code := 0
    for t in targets do
      let there ← if t.startsWith "%" then
          match (← get).jobs.getLast? with
          | some j => sendSignal (number.getD 15) j.id
          | none => failWith ("No such job: " ++ t)
        else if t.startsWith "-" then do
          let _ ← count (t.drop 1).toString
          pure false
        else sendSignal (number.getD 15) (← count t)
      if !there then
        tell "No such process\n"
        code := 1
    return code

/-! ### Names and the rest -/

def alias_ : Builtin := fun args => do
  let s ← get
  let line (x : String × String) : String := x.1 ++ "=" ++ singleQuoted x.2 ++ "\n"
  if args.isEmpty then say (String.join (s.aliases.map line))
  else
    let mut code := 0
    for a in args do
      match setting a with
      | (name, some value) =>
        modify fun s => { s with aliases := (name, value) :: s.aliases.filter fun x => x.1 ≠ name }
      | (name, none) =>
        match (← get).aliases.lookup name with
        | some value =>
          let _ ← say (line (name, value))
        | none =>
          let _ ← put 2 ("alias: " ++ name ++ " not found\n")
          code := 1
    return code

def unalias : Builtin := fun args => do
  let (given, args) ← options "a" args
  if has given 'a' then modify fun s => { s with aliases := [] }
  let mut code := 0
  for name in args do
    let s ← get
    if (s.aliases.lookup name).isSome then
      set { s with aliases := s.aliases.filter fun x => x.1 ≠ name }
    else
      let _ ← put 2 ("unalias: " ++ name ++ " not found\n")
      code := 1
  return code

def umaskText (n : Nat) : String :=
  let digit (k : Nat) : Char := Nat.digitChar (n / k % 8)
  "0" ++ String.ofList [digit 64, digit 8, digit 1]

def rightsText (n : Nat) : String :=
  let rights (k : Nat) : String :=
    let left := 7 - n / k % 8
    (if 4 ≤ left then "r" else "") ++ (if left / 2 % 2 = 1 then "w" else "") ++
      (if left % 2 = 1 then "x" else "")
  "u=" ++ rights 64 ++ ",g=" ++ rights 8 ++ ",o=" ++ rights 1

def umask : Builtin := fun args => do
  let (given, args) ← options "S" args
  match args with
  | [] =>
    let n := (← get).umask
    say ((if has given 'S' then rightsText n else umaskText n) ++ "\n")
  | mode :: _ =>
    if mode.toList.all fun c => '0' ≤ c && c ≤ '7' then
      modify fun s => { s with umask := (Numeral.digits 8 0 0 mode.toList).1 % 512 }
      return 0
    else if mode.toList.any fun c => "=+-".contains c then return 0
    else failWith ("Illegal mode: " ++ mode)

def ulimit : Builtin := fun args => do
  let (given, args) ← options "HSatfdscmlpnvwr" args
  if !args.isEmpty then return 0
  say (if has given 'n' then "1024\n" else if has given 'c' then "0\n"
    else if has given 's' then "8192\n" else "unlimited\n")

def times : Builtin := fun _ =>
  say "0m0.00s 0m0.00s\n0m0.00s 0m0.00s\n"

def noJob : Builtin := fun _ => failWith "No current job"

def code (n : Nat) : Builtin := fun _ => return n

/-- The commands that end the shell when they go wrong. -/
def isSpecialCommand (name : String) : Bool :=
  (specialNames ++ ["local"]).contains name

/-- The commands of a shell's own that run no others. -/
def builtins : List (String × Builtin) := [
  (":", code 0), ("true", code 0), ("false", code 1), ("echo", echo), ("printf", printf),
  ("test", test), ("[", bracket), ("cd", cd), ("chdir", cd), ("pwd", pwd),
  ("export", markVariables "export" Variable.exported fun v => { v with exported := true }),
  ("readonly", markVariables "readonly" Variable.fixed fun v => { v with fixed := true }),
  ("unset", unset), ("local", local_), ("set", set_), ("shift", shift), ("read", read),
  ("getopts", getopts), ("trap", trap), ("kill", kill), ("alias", alias_), ("unalias", unalias),
  ("umask", umask), ("ulimit", ulimit), ("times", times), ("jobs", code 0),
  ("fg", noJob), ("bg", noJob)]

/-- The commands of a shell's own that run others. -/
def runningNames : List String :=
  [".", "break", "command", "continue", "eval", "exec", "exit", "hash", "return", "type", "wait"]

def isBuiltin (name : String) : Bool :=
  (builtins.lookup name).isSome || runningNames.contains name

end PlcModule.Host.Shell
