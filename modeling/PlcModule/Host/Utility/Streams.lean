import PlcModule.Host.Devices
import PlcModule.Host.Numeral

/-! The programs that hand on what they read, or a part of it. -/
namespace PlcModule.Host.Streams

/-- A byte in a form that can be seen. -/
def visible (c : Char) : String :=
  let n := c.toNat
  let low (n : Nat) : String :=
    if n < 32 then "^" ++ String.singleton (Char.ofNat (n + 64))
    else if n = 127 then "^?"
    else String.singleton (Char.ofNat n)
  if n < 128 then low n else "M-" ++ low (n - 128)

structure Looks where
  numbers : Bool
  numbersFull : Bool
  ends : Bool
  tabs : Bool
  hidden : Bool
  squeezes : Bool

/-- A line as it looks. -/
def Looks.show (l : Looks) (line : String) : String :=
  String.join (line.toList.map fun c =>
    if c = '\t' then (if l.tabs then "^I" else "\t")
    else if l.hidden then visible c else String.singleton c)

def rightAligned (width : Nat) (s : String) : String :=
  String.ofList (List.replicate (width - s.length) ' ') ++ s

/-- Numbers lines and makes them look as asked. -/
def Looks.lines (l : Looks) (ended : Bool) : Nat → Bool → List String → List String → List String
  | _, _, done, [] => done.reverse
  | number, afterEmpty, done, line :: rest =>
    let last := rest.isEmpty && !ended
    let full := line ≠ "" || last
    if l.squeezes && !full && afterEmpty then l.lines ended number true done rest
    else
      let counted := if l.numbersFull then full else l.numbers
      let front := if counted then rightAligned 6 (toString number) ++ "\t" else ""
      let tail := if last then "" else (if l.ends then "$" else "") ++ "\n"
      l.lines ended (if counted then number + 1 else number) (!full)
        ((front ++ l.show line ++ tail) :: done) rest

def cat : Program := fun args => do
  let g ← Task.options { letters := "nbsETvAetu", words := [("number", 'n'), ("show-all", 'A'),
    ("number-nonblank", 'b'), ("squeeze-blank", 's'), ("show-ends", 'E'), ("show-tabs", 'T'),
    ("show-nonprinting", 'v')] } args
  let any (cs : String) := cs.toList.any g.has
  let l : Looks := ⟨g.has 'n', g.has 'b', any "EAe", any "TAt", any "vAet", g.has 's'⟩
  let plain := !(any "nbsETvAet")
  if plain then
    Task.each (if g.operands.isEmpty then ["-"] else g.operands) fun path => do
      if ← Task.isEndless path then
        for _ in List.range 4096 do
          Task.say (String.ofList (List.replicate Machine.endless '\x00'))
        return 0
      else match ← Task.readFile path with
        | .ok text =>
          Task.say text
          return 0
        | .error e =>
          Task.complain (Task.cannotRead path e)
          return 1
  else
    let (text, code) ← Task.gather g.operands Task.cannotRead
    let (lines, ended) := Lines.split text
    Task.say (String.join (l.lines ended 1 false [] lines))
    return code

/-- A count, in units that a letter after it may name. -/
def count? (s : String) : Option Nat :=
  match Numeral.decimal? s.toList with
  | some (n, []) => some n
  | some (n, unit) =>
    match String.ofList unit with
    | "b" => some (n * 512)
    | "kB" => some (n * 1000)
    | "k" | "K" | "KiB" => some (n * 1024)
    | "MB" => some (n * 1000000)
    | "m" | "M" | "MiB" => some (n * 1048576)
    | "G" => some (n * 1073741824)
    | _ => none
  | none => none

/-- How much is wanted: so many from the one end or all but so many from the other. -/
structure Amount where
  n : Nat
  bytes : Bool
  /-- A sign stands in front. -/
  signed : Bool

/-- The number of characters up to and with the end of so many lines. -/
def lengthOfLines : Nat → Nat → List Char → Nat
  | 0, taken, _ => taken
  | _, taken, [] => taken
  | n + 1, taken, c :: rest => lengthOfLines (if c = '\n' then n else n + 1) (taken + 1) rest

def lineCount (cs : List Char) : Nat :=
  let ends := cs.count '\n'
  if cs.getLast?.any (· ≠ '\n') then ends + 1 else ends

def Amount.front (a : Amount) (cs : List Char) : Nat :=
  if a.bytes then if a.signed then cs.length - a.n else a.n
  else lengthOfLines (if a.signed then lineCount cs - a.n else a.n) 0 cs

/-- Where the end of a text begins that is wanted. -/
def Amount.back (a : Amount) (cs : List Char) : Nat :=
  if a.bytes then if a.signed then a.n - 1 else cs.length - a.n
  else lengthOfLines (if a.signed then a.n - 1 else lineCount cs - a.n) 0 cs

/-- Options of an older kind, a number after a dash, in the present form. -/
def modernize (args : List String) : List String :=
  match args with
  | a :: rest =>
    match a.toList with
    | '-' :: d :: ds =>
      if d.isDigit then
        let digits := (d :: ds).takeWhile Char.isDigit
        let letters := (d :: ds).dropWhile Char.isDigit
        let unit := if letters.contains 'c' then "-c" else "-n"
        let others := letters.filter fun c => c ≠ 'c' && c ≠ 'l'
        unit :: String.ofList digits ::
          (if others.isEmpty then rest else String.ofList ('-' :: others) :: rest)
      else args
    | _ => args
  | [] => []

/-- The amount that the options ask for. -/
def amount (g : Given) (sign : Char) : Task Amount := do
  let (bytes, text) := match g.options.reverse.find? fun x => x.1 = 'c' || x.1 = 'n' with
    | some (c, text) => (c == 'c', text)
    | none => (false, "10")
  let signed := text.toList.head? = some sign
  let digits := if signed || text.startsWith "+" || text.startsWith "-" then (text.drop 1).toString
    else text
  match count? digits with
  | some n => return ⟨n, bytes, signed⟩
  | none =>
    Task.fail 1 ("invalid number of " ++ (if bytes then "bytes" else "lines") ++ ": " ++
      Quoted.word text)

def header (path : String) : String :=
  "==> " ++ (if path = "-" then "standard input" else path) ++ " <==\n"

/-- Shows a part of each source, with its name if there are several. -/
def parts (g : Given) (wanted : Nat) (part : String → String) : Task Nat := do
  let paths := if g.operands.isEmpty then ["-"] else g.operands
  let named := match g.last? "qv" with
    | some 'q' => false
    | some _ => true
    | none => 1 < paths.length
  let mut code := 0
  let mut first := true
  for path in paths do
    match ← Task.readSource path wanted with
    | .ok text =>
      if named then Task.say ((if first then "" else "\n") ++ header path)
      first := false
      Task.say (part text)
    | .error e =>
      match e with
      | .system .isADirectory =>
        if named then Task.say ((if first then "" else "\n") ++ header path)
        first := false
        Task.complain ("error reading " ++ Quoted.always path ++ ": " ++ reason e)
      | _ =>
        let shown := if path = "-" then "standard input" else path
        Task.complain ("cannot open " ++ Quoted.always shown ++ " for reading: " ++ reason e)
      code := 1
  return code

def isPlainFile (c : Channel) : Bool :=
  match c with
  | .file .. => true
  | _ => false

/-- Takes the front of the input and leaves the rest, where the input is a file. -/
def takeInput (a : Amount) : Task (Option String) := do
  let p ← get
  match p.descriptors.lookup 0 with
  | some n =>
    if isPlainFile (p.machine.channel n) then
      let reader (cs : List Char) : String × List Char :=
        let k := a.front cs
        (String.ofList (cs.take k), cs.drop k)
      match p.machine.read n reader with
      | .ok (text, machine) =>
        set { p with machine }
        return some text
      | .error _ => return none
    else return none
  | none => return none

def partOptions : OptionSet :=
  { letters := "qvf", arguments := "cn", words := [("bytes", 'c'), ("lines", 'n'), ("quiet", 'q'),
    ("silent", 'q'), ("verbose", 'v'), ("follow", 'f')] }

def head : Program := fun args => do
  let g ← Task.options partOptions (modernize args)
  let a ← amount g '-'
  let front (s : String) : String :=
    let cs := s.toList
    String.ofList (cs.take (a.front cs))
  if g.operands.isEmpty && !g.has 'v' then
    if let some text ← takeInput a then
      Task.say text
      return 0
  parts g (if a.bytes && !a.signed then a.n else Machine.endless) front

def tail : Program := fun args => do
  let args := match args with
    | a :: rest =>
      if a.startsWith "+" && (Numeral.count? (a.drop 1).toString).isSome then "-n" :: a :: rest
      else modernize args
    | [] => []
  let g ← Task.options partOptions args
  let a ← amount g '+'
  parts g Machine.endless fun s =>
    let cs := s.toList
    String.ofList (cs.drop (a.back cs))

def tac : Program := fun args => do
  let g ← Task.options { letters := "" } args
  Task.eachSource g.operands (fun path e => "failed to open " ++ Quoted.always path ++
      " for reading: " ++ reason e) fun _ text => do
    let (lines, ended) := Lines.split text
    match lines.reverse, ended with
    | last :: rest, false => Task.say (last ++ Lines.join rest)
    | all, _ => Task.say (Lines.join all)

def tee : Program := fun args => do
  let g ← Task.options { letters := "aip", words := [("append", 'a')] } args
  let mut code := 0
  let mut text := ""
  match ← Task.readDescriptor 0 Machine.endless with
  | .ok s => text := s
  | .error _ => code := 1
  for path in g.operands do
    match ← Task.writeFile path (g.has 'a') text with
    | none => pure ()
    | some e =>
      Task.complain (Task.cannotRead path e)
      code := 1
  Task.say text
  return code

/-- The counts of lines, words and bytes, and the length of the longest line. -/
structure Counts where
  lines : Nat
  words : Nat
  bytes : Nat
  longest : Nat

def countWords (inWord : Bool) (n : Nat) : List Char → Nat
  | [] => n
  | c :: rest =>
    if Numeral.isBlank c then countWords false n rest
    else countWords true (if inWord then n else n + 1) rest

def Counts.of (s : String) : Counts :=
  let cs := s.toList
  ⟨cs.count '\n', countWords false 0 cs, cs.length,
    ((Lines.of s).map String.length).foldl max 0⟩

def Counts.add (a b : Counts) : Counts :=
  ⟨a.lines + b.lines, a.words + b.words, a.bytes + b.bytes, max a.longest b.longest⟩

/-- The width of the counts, which depends on the sizes of the files. -/
def countWidth (g : Given) (one : Bool) : Task Nat := do
  let paths := if g.operands.isEmpty then ["-"] else g.operands
  if one && paths.length = 1 then return 1
  let p ← get
  let size (path : String) : Option Nat :=
    if path = "-" then
      match (p.descriptors.lookup 0).map p.machine.channel with
      | some (.file route ..) => match p.tree.find? route with
        | some (.file content _) => some content.size
        | _ => none
      | _ => none
    else match p.tree.status (Octets.path path) with
      | .ok (_, .file content _) => some content.size
      | .ok _ => none
      | .error _ => some 0
  let known := paths.filterMap size
  let width := (toString (known.foldl (· + ·) 0)).length
  return if known.length < paths.length then max width 7 else width

def wc : Program := fun args => do
  let g ← Task.options { letters := "lwcmL", words := [("lines", 'l'), ("words", 'w'),
    ("bytes", 'c'), ("chars", 'm'), ("max-line-length", 'L')] } args
  let shown := if g.options.isEmpty then "lwc".toList
    else "lwmcL".toList.filter g.has
  let width ← countWidth g (shown.length = 1)
  let line (c : Counts) (name : String) : String :=
    let numbers := shown.map fun o => match o with
      | 'l' => c.lines
      | 'w' => c.words
      | 'L' => c.longest
      | _ => c.bytes
    " ".intercalate (numbers.map fun n => rightAligned width (toString n)) ++
      (if name = "" then "" else " " ++ name) ++ "\n"
  let mut total : Counts := ⟨0, 0, 0, 0⟩
  let mut code := 0
  for path in if g.operands.isEmpty then ["-"] else g.operands do
    match ← Task.readFile path with
    | .ok text =>
      total := total.add (.of text)
      Task.say (line (.of text) (if g.operands.isEmpty then "" else path))
    | .error e =>
      Task.complain (Task.cannotRead path e)
      if e = .system .isADirectory then Task.say (line ⟨0, 0, 0, 0⟩ path)
      code := 1
  if 1 < g.operands.length then Task.say (line total "total")
  return code

/-- How many times `yes` says its line at once. -/
def manyLines : Nat := 4096

def yes : Program := fun args => do
  let line := (if args.isEmpty then "y" else " ".intercalate args) ++ "\n"
  let block := String.join (List.replicate (manyLines / (line.length / 2 + 1) + 1) line)
  for _ in List.range 100000 do
    Task.say block
  return 0

end PlcModule.Host.Streams
