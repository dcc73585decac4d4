import PlcModule.Host.Glob
import PlcModule.Host.Utility.Files

/-! The programs that start other programs: in a changed environment, with arguments that are
read, or on the files that are found. -/
namespace PlcModule.Host.Launch

/-- Runs a program in a process of its own. -/
def run (start : Start) (name : String) (args : List String) : Task (Except Errno Status) := do
  let p ← get
  match start name args p.fork with
  | .ok (status, child) =>
    set (p.resume child)
    return .ok status
  | .error e => return .error e

/-- Becomes another program. -/
def become (start : Start) (name : String) (args : List String) : Task Nat := do
  match start name args (← get) with
  | .ok (status, p) =>
    set p
    throw status
  | .error e =>
    let code := if e = .notFound then 127 else 126
    Task.fail code (Quoted.word name ++ ": " ++ e.text)

def assignment? (arg : String) : Option (String × String) :=
  match arg.splitOn "=" with
  | name :: value :: more => if name = "" then none else some (name, "=".intercalate (value :: more))
  | _ => none

def setVariable (name value : String) : Task Unit :=
  modify fun p =>
    { p with environment :=
        if p.environment.any fun x => x.1 = name then
          p.environment.map fun x => if x.1 = name then (name, value) else x
        else p.environment ++ [(name, value)] }

def unsetVariable (name : String) : Task Unit :=
  modify fun p => { p with environment := p.environment.filter fun x => x.1 ≠ name }

/-- The words of a text, in which quotes and backslashes hide blanks. The last character may have
been a backslash, and of the word that has begun what was read is held backwards. -/
def wordsFrom (quote : Option Char) (escaped : Bool) (word : Option (List Char)) :
    List Char → List String
  | [] => (word.map fun w => String.ofList w.reverse).toList
  | c :: rest =>
    let begun := word.getD []
    if escaped then wordsFrom quote false (some (c :: begun)) rest
    else if c = '\\' && quote ≠ some '\'' then wordsFrom quote true (some begun) rest
    else match quote with
      | some q =>
        if c = q then wordsFrom none false (some begun) rest
        else wordsFrom quote false (some (c :: begun)) rest
      | none =>
        if c = '"' || c = '\'' then wordsFrom (some c) false (some begun) rest
        else if Numeral.isBlank c then
          (word.map fun w => String.ofList w.reverse).toList ++ wordsFrom none false none rest
        else wordsFrom none false (some (c :: begun)) rest

def words (s : String) : List String :=
  wordsFrom none false none s.toList

def envOptions : OptionSet where
  letters := "i0v"
  arguments := "uCS"
  strict := true
  misuse := 125
  words := [("ignore-environment", 'i'), ("unset", 'u'), ("chdir", 'C'), ("split-string", 'S'),
    ("null", '0'), ("debug", 'v')]

def env (start : Start) : Program := fun args => do
  let g ← Task.options envOptions args
  let (g, operands) ← match g.value? 'S' with
    | some text => do
      let inner ← Task.options envOptions (words text ++ g.operands)
      pure ((⟨g.options ++ inner.options, inner.operands⟩ : Given), inner.operands)
    | none => pure (g, g.operands)
  let bare := operands.head? = some "-"
  let operands := if bare then operands.tail else operands
  if g.has 'i' || bare then modify fun p => { p with environment := [] }
  for (c, name) in g.options do
    if c = 'u' then unsetVariable name
  let settings := operands.takeWhile fun a => (assignment? a).isSome
  for a in settings do
    if let some (name, value) := assignment? a then setVariable name value
  match g.value? 'C' with
  | some dir =>
    match ← Task.ask fun t => t.status (Octets.path dir) with
    | .ok (l, .directory) =>
      modify fun p => p.withTree { p.tree with workingDirectory := l }
    | .ok _ => Task.fail 125 ("cannot change directory to " ++ Quoted.always dir ++ ": Not a directory")
    | .error e => Task.fail 125 ("cannot change directory to " ++ Quoted.always dir ++ ": " ++ reason e)
  | none => pure ()
  match operands.drop settings.length with
  | [] =>
    for (name, value) in (← get).environment do
      Task.say (name ++ "=" ++ value ++ if g.has '0' then "\x00" else "\n")
    return 0
  | name :: rest =>
    match start name rest (← get) with
    | .ok (status, p) =>
      set p
      throw status
    | .error e =>
      Task.complain (Quoted.always name ++ ": " ++ e.text)
      if name.contains ' ' && e = .notFound then
        Task.complain "use -[v]S to pass options in shebang lines"
      return if e = .notFound then 127 else 126

def printEnv : Program := fun args => do
  let g ← Task.options { letters := "0", misuse := 2, words := [("null", '0')] } args
  let environment := (← get).environment
  if g.operands.isEmpty then
    for (name, value) in environment do
      Task.sayLine (name ++ "=" ++ value)
    return 0
  Task.each g.operands fun name => do
    match environment.lookup name with
    | some value =>
      Task.sayLine value
      return 0
    | none => return 1

def nice (start : Start) : Program := fun args => do
  let g ← Task.options { letters := "", arguments := "n", strict := true, misuse := 125,
                         words := [("adjustment", 'n')] } args
  match g.operands with
  | [] =>
    Task.sayLine "0"
    return 0
  | name :: rest => become start name rest

def nohup (start : Start) : Program := fun args => do
  let g ← Task.options { letters := "", strict := true, misuse := 125 } args
  match g.operands with
  | [] => Task.misuse 125 "missing operand"
  | name :: rest =>
    modify fun p => { p with ignored := 1 :: p.ignored }
    become start name rest

def timeout (start : Start) : Program := fun args => do
  let g ← Task.options { letters := "vfp", arguments := "ks", strict := true, misuse := 125,
                         words := [("signal", 's'), ("kill-after", 'k'), ("foreground", 'f')] } args
  match g.operands with
  | [] => Task.misuse 125 "missing operand"
  | [time] => Task.misuse 125 ("missing operand after " ++ Quoted.word time)
  | _ :: name :: rest =>
    match ← run start name rest with
    | .ok (.exited code) => return code
    | .ok (.killed signal) => throw (.killed signal)
    | .error e =>
      Task.complain ("failed to run command " ++ Quoted.always name ++ ": " ++ e.text)
      return if e = .notFound then 127 else 126

/-! ### Arguments that are read -/

/-- How the arguments are handed on. -/
structure Batch where
  size : Option Nat
  hole : Option String
  traced : Bool

/-- The lines of arguments, where each is put in place of a hole. -/
def lineItems (text : String) : List String :=
  ((Lines.of text).map fun l => String.ofList (l.toList.dropWhile Numeral.isBlank)).filter (· ≠ "")

def chunks {α : Type} (size : Nat) : Nat → List α → List (List α)
  | 0, _ => []
  | _, [] => []
  | n + 1, xs => xs.take size :: chunks size n (xs.drop size)

def xargs (start : Start) : Program := fun args => do
  let g ← Task.options { letters := "0rtpx", arguments := "nIdLPsEa", strict := true,
                         words := [("null", '0'), ("no-run-if-empty", 'r'), ("max-args", 'n'),
                           ("verbose", 't'), ("replace", 'I'), ("delimiter", 'd')] } args
  let text := match ← Task.readFile ((g.value? 'a').getD "-") with
    | .ok s => s
    | .error _ => ""
  let items := if g.has '0' then (Lines.collect '\x00' [] [] text.toList).1
    else match g.value? 'd' with
      | some d =>
        let c := if d = "\\n" then '\n' else if d = "\\t" then '\t' else if d = "\\0" then '\x00'
          else d.toList.headD '\n'
        (Lines.collect c [] [] text.toList).1
      | none =>
        if g.has 'I' then lineItems text
        else if g.has 'L' then Lines.of text |>.filter (· ≠ "")
        else words text
  let (name, front) := match g.operands with
    | name :: front => (name, front)
    | [] => ("echo", [])
  let batches : List (List String) := match g.value? 'I' with
    | some hole => items.map fun item => front.map fun a => a.replace hole item
    | none =>
      match (g.value? 'L').bind Numeral.count? with
      | some n => (chunks n (items.length + 1) items).map fun ls =>
          front ++ ls.flatMap fun l => words l
      | none =>
        let size := match (g.value? 'n').bind Numeral.count? with
          | some n => max n 1
          | none => items.length + 1
        if items.isEmpty then if g.has 'r' then [] else [front]
        else (chunks size (items.length + 1) items).map (front ++ ·)
  let outer := (← get).descriptors
  modify fun p => p.open_ 0 .sink
  let code ← batches.foldlM (fun (worst : Nat) args => do
    if g.has 't' then Task.complainPlain (" ".intercalate (name :: args))
    match ← run start name args with
    | .ok (.exited 0) => return worst
    | .ok (.exited 255) =>
      Task.complain (name ++ ": exited with status 255; aborting")
      Task.quit 124
    | .ok (.exited _) => return max worst 123
    | .ok (.killed signal) =>
      Task.complain (name ++ ": terminated by signal " ++ toString signal)
      Task.quit 125
    | .error e =>
      Task.complain (name ++ ": " ++ e.text)
      Task.quit (if e = .notFound then 127 else 126)) 0
  modify fun p => { p with descriptors := outer }
  return code

/-! ### Files that are found -/

inductive Test where
  | always (holds : Bool)
  | name (p : List Glob.Mark) (foldCase wholePath : Bool)
  | kind (c : Char)
  | empty
  | executable
  | size (sign : Option Char) (n unit : Nat)
  | newer (path : String)
  | print (ending : String)
  | delete
  | prune
  | exec (command : List String)
  | execAll (command : List String)
  | not (t : Test)
  | and (a b : Test)
  | or (a b : Test)

def Test.acts : Test → Bool
  | .print _ | .delete | .exec _ | .execAll _ => true
  | .not t => t.acts
  | .and a b | .or a b => a.acts || b.acts
  | _ => false

abbrev Reader := ExceptT String (StateM (List String))

def sized? (s : String) : Option (Option Char × Nat × Nat) :=
  let (sign, cs) := match s.toList with
    | '+' :: rest => (some '+', rest)
    | '-' :: rest => (some '-', rest)
    | rest => (none, rest)
  match Numeral.decimal? cs with
  | some (n, unit) =>
    match unit with
    | ['c'] => some (sign, n, 1)
    | ['k'] => some (sign, n, 1024)
    | ['M'] => some (sign, n, 1048576)
    | ['b'] | [] => some (sign, n, 512)
    | _ => none
  | none => none

def argument (predicate : String) : Reader String := do
  match ← get with
  | a :: rest =>
    set rest
    return a
  | [] => throw ("missing argument to \x60" ++ predicate ++ "'")

def primary (predicate : String) : Reader Test := do
  match predicate with
  | "-true" | "-depth" | "-mount" | "-xdev" | "-daystart" | "-follow" | "-noleaf" | "-ignore_readdir_race" =>
    return .always true
  | "-false" => return .always false
  | "-maxdepth" | "-mindepth" =>
    let _ ← argument predicate
    return .always true
  | "-name" => return .name (Glob.ofText (← argument predicate).toList) false false
  | "-iname" =>
    return .name (Glob.ofText ((← argument predicate).toList.map Char.toLower)) true false
  | "-path" | "-wholename" => return .name (Glob.ofText (← argument predicate).toList) false true
  | "-type" =>
    let kind ← argument predicate
    match kind.toList.filter (Octets.isOneOf "fdlbcps") with
    | [c] => return .kind c
    | _ => throw ("Unknown argument to -type: " ++ kind)
  | "-empty" => return .empty
  | "-executable" => return .executable
  | "-readable" | "-writable" => return .always true
  | "-newer" => return .newer (← argument predicate)
  | "-size" =>
    let text ← argument predicate
    match sized? text with
    | some (sign, n, unit) => return .size sign n unit
    | none => throw ("Invalid argument \x60" ++ text ++ "' to -size")
  | "-print" => return .print "\n"
  | "-print0" => return .print "\x00"
  | "-delete" => return .delete
  | "-prune" => return .prune
  | "-exec" | "-ok" =>
    let rest ← get
    let isEnd (a : String) : Bool := a = ";" || a = "+"
    let command := rest.takeWhile fun a => !isEnd a
    match rest.drop command.length with
    | [] => throw ("missing argument to \x60-exec'")
    | stop :: rest =>
      set rest
      return if stop = "+" then .execAll command else .exec command
  | _ =>
    if predicate.startsWith "-" then throw ("unknown predicate \x60" ++ predicate ++ "'")
    else throw ("paths must precede expression: \x60" ++ predicate ++ "'")

inductive Level where
  | either | both | negated

def parse : Nat → Level → Reader Test
  | 0, _ => throw "expression too long"
  | n + 1, .either => do
    let a ← parse n .both
    match (← get).head? with
    | some s =>
      if s = "-o" || s = "-or" then
        modify List.tail
        return .or a (← parse n .either)
      else return a
    | none => return a
  | n + 1, .both => do
    let a ← parse n .negated
    match (← get).head? with
    | some s =>
      if s = "-o" || s = "-or" || s = ")" then return a
      if s = "-a" || s = "-and" then modify List.tail
      return .and a (← parse n .both)
    | none => return a
  | n + 1, .negated => do
    match ← get with
    | [] => throw "invalid expression"
    | s :: rest =>
      set rest
      if s = "!" || s = "-not" then return .not (← parse n .negated)
      else if s = "(" then
        let a ← parse n .either
        match ← get with
        | ")" :: rest =>
          set rest
          return a
        | _ => throw "invalid expression; I was expecting to find a ')' somewhere but did not see one."
      else primary s

/-- What a search has to remember: the files for a command that takes many, and whether to go
below the present directory. -/
structure Search where
  held : List String
  pruned : Bool
  code : Nat

abbrev Searcher := StateT Search Task

def weigh (start : Start) (path : String) (e : Entry) : Test → Searcher Bool
  | .always b => return b
  | .name p foldCase wholePath => do
    let s := if wholePath then path else Names.baseName path
    return Glob.fits p (if foldCase then s.toList.map Char.toLower else s.toList)
  | .kind c =>
    return match e with
      | .file .. => c = 'f'
      | .directory => c = 'd'
      | .device => c = 'c'
  | .empty => do
    match e with
    | .file content _ => return content.isEmpty
    | .directory =>
      match ← Files.entry? path with
      | .ok (l, _) => return (← (Task.ask fun t => t.children l : Task _)).isEmpty
      | .error _ => return false
    | .device => return false
  | .executable =>
    return match e with
      | .file _ executable => executable
      | .directory => true
      | .device => false
  | .size sign n unit => do
    let bytes := match e with
      | .file content _ => content.size
      | .directory => 4096
      | .device => 0
    let k := (bytes + unit - 1) / unit
    return match sign with
      | some '+' => n < k
      | some '-' => k < n
      | _ => k = n
  | .newer other => do
    let t := (← (get : Task Process)).tree
    let age (path : String) : Nat := match t.status (Octets.path path) with
      | .ok (l, _) => t.entries.findIdx fun x => x.1 = l
      | .error _ => t.entries.length
    return age path < age other
  | .print ending => do
    Task.say (path ++ ending)
    return true
  | .delete => do
    let code ← Files.removeAll false 1 path
    if code ≠ 0 then
      match e with
      | .directory =>
        match ← Task.change fun t => (t.removeTree (Octets.path path)).2.map fun _ =>
            (t.removeTree (Octets.path path)).1 with
        | none => return true
        | some _ => return false
      | _ => return false
    return true
  | .prune => do
    modify fun s => { s with pruned := true }
    return true
  | .exec command => do
    match command.map fun a => a.replace "\x7b\x7d" path with
    | [] => return false
    | name :: args =>
      match ← run start name args with
      | .ok status => return status = .exited 0
      | .error e =>
        Task.complain (Quoted.always name ++ ": " ++ e.text)
        return false
  | .execAll _ => do
    modify fun s => { s with held := s.held ++ [path] }
    return true
  | .not t => return !(← weigh start path e t)
  | .and a b => do
    if ← weigh start path e a then weigh start path e b else return false
  | .or a b => do
    if ← weigh start path e a then return true else weigh start path e b

/-- Where the test is to be made. -/
structure Range where
  least : Nat
  most : Nat
  depthFirst : Bool

def visit (start : Start) (t : Test) (r : Range) : Nat → Nat → String → Searcher Unit
  | 0, _, _ => return
  | n + 1, depth, path => do
    match ← Files.entry? path with
    | .error e =>
      Task.complain (Quoted.always path ++ ": " ++ reason e)
      modify fun s => { s with code := 1 }
    | .ok (l, e) =>
      modify fun s => { s with pruned := false }
      if !r.depthFirst && r.least ≤ depth then
        let _ ← weigh start path e t
      let pruned := (← get).pruned
      if e.isDirectory && depth < r.most && !pruned then
        for name in Files.names (← (get : Task Process)).tree l do
          visit start t r n (depth + 1) (Names.inside path name)
      if r.depthFirst && r.least ≤ depth then
        let _ ← weigh start path e t

/-- The commands of a test that take many files at once. -/
def collected : Test → List (List String)
  | .execAll command => [command]
  | .not t => collected t
  | .and a b | .or a b => collected a ++ collected b
  | _ => []

def deepest : Nat := 1000

def find (start : Start) : Program := fun args => do
  let args := args.dropWhile fun a => a = "-L" || a = "-H" || a = "-P"
  let isPath (a : String) : Bool := !(a.startsWith "-" && a ≠ "-") && a ≠ "(" && a ≠ "!" && a ≠ ")"
  let paths := args.takeWhile isPath
  let words := args.drop paths.length
  let number (option : String) : Option Nat :=
    ((words.dropWhile (· ≠ option)).tail.head?).bind Numeral.count?
  let test ← if words.isEmpty then pure (Test.print "\n")
    else match (ExceptT.run (parse (4 * words.length + 8) .either)).run words with
      | (.ok t, []) => pure (if t.acts then t else Test.and t (.print "\n"))
      | (.ok _, extra :: _) =>
        Task.fail 1 (if extra = ")" then "you have too many ')'" else
          "paths must precede expression: \x60" ++ extra ++ "'")
      | (.error message, _) => Task.fail 1 message
  let r : Range := ⟨(number "-mindepth").getD 0, (number "-maxdepth").getD deepest,
    words.contains "-depth" || words.contains "-delete"⟩
  let roots := if paths.isEmpty then ["."] else paths
  let search : Searcher Unit := do
    for root in roots do
      visit start test r (deepest + 2) 0 root
  let (_, s) ← search.run ⟨[], false, 0⟩
  let mut code := s.code
  if !s.held.isEmpty then
    for command in collected test do
      let args := command.flatMap fun a => if a = "\x7b\x7d" then s.held else [a]
      match args with
      | [] => pure ()
      | name :: args =>
        match ← run start name args with
        | .ok (.exited 0) => pure ()
        | .ok _ => code := 1
        | .error e =>
          Task.complain (Quoted.always name ++ ": " ++ e.text)
          code := 1
  return code

/-! ### Who and where -/

def fixed (line : String) : Program := fun _ => do
  Task.sayLine line
  return 0

def tty : Program := fun args => do
  let g ← Task.options { letters := "s", misuse := 2, words := [("silent", 's'), ("quiet", 's')] } args
  if !g.has 's' then Task.sayLine "not a tty"
  return 1

def id : Program := fun args => do
  let g ← Task.options { letters := "unrgGaz" } args
  let numeric := !g.has 'n'
  if g.has 'u' || g.has 'g' || g.has 'G' then
    Task.sayLine (if numeric then "0" else "root")
  else Task.sayLine "uid=0(root) gid=0(root) groups=0(root)"
  return 0

def uname : Program := fun args => do
  let g ← Task.options { letters := "asnrvmpio" } args
  Task.sayLine (if g.has 'm' then "x86_64" else if g.has 'o' then "GNU/Linux" else "Linux")
  return 0

/-- Sends a signal to processes by their numbers. -/
def kill : Program := fun args => do
  let (signal, targets) := match args with
    | "-s" :: s :: rest => (s, rest)
    | a :: rest => if a.startsWith "-" && a ≠ "--" then ((a.drop 1).toString, rest) else ("TERM", a :: rest)
    | [] => ("TERM", [])
  let named : List (String × Nat) := [("HUP", 1), ("INT", 2), ("QUIT", 3), ("ABRT", 6), ("KILL", 9),
    ("USR1", 10), ("SEGV", 11), ("USR2", 12), ("PIPE", 13), ("ALRM", 14), ("TERM", 15)]
  let bare := if signal.startsWith "SIG" then (signal.drop 3).toString else signal
  let number := (Numeral.count? signal).getD ((named.lookup bare).getD 15)
  Task.each (targets.filter (· ≠ "--")) fun t => do
    match Numeral.count? t with
    | some n =>
      if number ≠ 0 then modify fun p => { p with machine := p.machine.send n number }
      return 0
    | none =>
      Task.complain ("failed to parse argument: " ++ Quoted.word t)
      return 1

end PlcModule.Host.Launch
