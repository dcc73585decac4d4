import PlcModule.Host.Utility.Streams

/-! The programs that work on lines: sort them, drop repeated ones, cut out columns, and put lines
side by side. -/
namespace PlcModule.Host.Columns

/-! ### Sorting -/

/-- How keys are compared. -/
structure Order where
  numeric : Bool
  general : Bool
  reverse : Bool
  fold : Bool
  skipsBlanks : Bool
  dictionary : Bool

structure Key where
  field : Nat
  char : Nat
  lastField : Option Nat
  lastChar : Nat
  order : Option Order

def isGap (c : Char) : Bool :=
  c = ' ' || c = '\t' || c = '\n'

def orderOf (letters : List Char) : Order :=
  ⟨letters.contains 'n', letters.contains 'g' || letters.contains 'h', letters.contains 'r',
    letters.contains 'f', letters.contains 'b', letters.contains 'd'⟩

/-- What follows so many fields. -/
def afterFields (separator : Option Char) : Nat → List Char → List Char
  | 0, cs => cs
  | n + 1, cs =>
    match separator with
    | some c => afterFields separator n ((cs.dropWhile (· ≠ c)).drop 1)
    | none => afterFields separator n ((cs.dropWhile isGap).dropWhile (!isGap ·))

/-- The end of a field, which begins the text. -/
def throughField (separator : Option Char) (cs : List Char) : List Char :=
  match separator with
  | some c => cs.takeWhile (· ≠ c)
  | none => cs.takeWhile isGap ++ (cs.dropWhile isGap).takeWhile (!isGap ·)

/-- The part of a line that a key names. -/
def Key.cut (separator : Option Char) (skipsBlanks : Bool) (k : Key) (line : String) : List Char :=
  let cs := line.toList
  let field := afterFields separator (k.field - 1) cs
  let field := if skipsBlanks then field.dropWhile isGap else field
  let start := field.drop (k.char - 1)
  match k.lastField with
  | none => start
  | some n =>
    let last := afterFields separator (n - 1) cs
    let stop :=
      if k.lastChar = 0 then
        cs.length - last.length + (throughField separator last).length
      else
        let last' := if skipsBlanks then last.dropWhile isGap else last
        cs.length - last'.length + min k.lastChar last'.length
    start.take (stop - (cs.length - start.length))

/-- A number at the front, in units of a fixed small size. -/
def numericValue (cs : List Char) : Int :=
  let cs := cs.dropWhile isGap
  let (negative, cs) := match cs with
    | '-' :: rest => (true, rest)
    | _ => (false, cs)
  let (whole, _, rest) := Numeral.digits 10 0 0 cs
  let places := match rest with
    | '.' :: ds => (ds.takeWhile Char.isDigit).take 20
    | _ => []
  let scaled := (Numeral.digits 10 whole 0 (places ++ List.replicate (20 - places.length) '0')).1
  if negative then -(scaled : Int) else scaled

def compareChars : List Char → List Char → Ordering
  | [], [] => .eq
  | [], _ => .lt
  | _, [] => .gt
  | a :: as, b :: bs => if a = b then compareChars as bs else if a < b then .lt else .gt

def Order.compare (o : Order) (a b : List Char) : Ordering :=
  let plain := if o.numeric || o.general then Ord.compare (numericValue a) (numericValue b)
    else
      let keep (cs : List Char) := if o.dictionary then cs.filter fun c => c.isAlphanum || isGap c
        else cs
      let case (cs : List Char) := if o.fold then cs.map Char.toUpper else cs
      compareChars (case (keep a)) (case (keep b))
  if o.reverse then plain.swap else plain

/-- How two lines compare by the keys, one after the other. -/
def compareBy (separator : Option Char) (o : Order) (keys : List Key) (a b : String) : Ordering :=
  match keys with
  | [] => .eq
  | k :: rest =>
    let order := k.order.getD o
    match order.compare (k.cut separator order.skipsBlanks a) (k.cut separator order.skipsBlanks b) with
    | .eq => compareBy separator o rest a b
    | other => other

/-- A position in a key, and the letters after it. -/
def position (cs : List Char) : Nat × Nat × List Char :=
  let (field, _, rest) := Numeral.digits 10 0 0 cs
  match rest with
  | '.' :: rest =>
    let (char, _, rest) := Numeral.digits 10 0 0 rest
    (field, char, rest)
  | _ => (field, 0, rest)

def key? (s : String) : Option Key :=
  let (first, last) := match s.splitOn "," with
    | a :: b :: _ => (a, some b)
    | _ => (s, none)
  let (field, char, letters) := position first.toList
  let (lastField, lastChar, more) := match last with
    | some l =>
      let (f, c, more) := position l.toList
      (some f, c, more)
    | none => (none, 0, [])
  let all := letters ++ more
  if field = 0 then none
  else some ⟨field, max char 1, lastField, lastChar, if all.isEmpty then none else some (orderOf all)⟩

/-- Drops a line that compares equal to the one before it. -/
def dropEqual (same : String → String → Bool) (done : List String) : List String → List String
  | [] => done.reverse
  | line :: rest =>
    match done with
    | d :: _ => dropEqual same (if same d line then done else line :: done) rest
    | [] => dropEqual same [line] rest

/-- The first line that should not come after the one before it, with its number. -/
def disorder? (wrong : String → String → Bool) : Nat → List String → Option (Nat × String)
  | n, a :: b :: rest => if wrong a b then some (n + 1, b) else disorder? wrong (n + 1) (b :: rest)
  | _, _ => none

def sortOptions : OptionSet where
  letters := "bcCdfghimMnrRsuVz"
  arguments := "koStT"
  misuse := 2
  words := [("reverse", 'r'), ("numeric-sort", 'n'), ("unique", 'u'), ("key", 'k'),
    ("field-separator", 't'), ("output", 'o'), ("check", 'c'), ("stable", 's'), ("ignore-case", 'f')]

def sort : Program := fun args => do
  let g ← Task.options sortOptions args
  let letters := g.options.map Prod.fst
  let o := orderOf letters
  let separator ← match g.value? 't' with
    | some t =>
      match t.toList with
      | [c] => pure (some c)
      | ['\\', '0'] => pure (some '\x00')
      | [] => Task.fail 2 "empty tab"
      | _ => Task.fail 2 ("multi-character tab " ++ Quoted.word t)
    | none => pure none
  let mut keys : List Key := []
  for (c, text) in g.options do
    if c = 'k' then
      match key? text with
      | some k => keys := keys ++ [k]
      | none =>
        let zero := text.startsWith "0"
        Task.fail 2 ((if zero then "field number is zero" else "invalid number at field start") ++
          ": invalid field specification " ++ Quoted.word text)
  let whole : Key := ⟨1, 1, none, 0, none⟩
  let wanted := if keys.isEmpty then [whole] else keys
  let byKeys := compareBy separator o wanted
  let compare (a b : String) : Ordering :=
    match byKeys a b with
    | .eq =>
      if g.has 's' || g.has 'u' then .eq
      else
        let last := compareChars a.toList b.toList
        if o.reverse then last.swap else last
    | other => other
  let ending := if g.has 'z' then '\x00' else '\n'
  let mut lines : List String := []
  for path in if g.operands.isEmpty then ["-"] else g.operands do
    match ← Task.readFile path with
    | .ok text => lines := lines ++ (Lines.collect ending [] [] text.toList).1
    | .error .notFound | .error (.system .accessDenied) | .error (.system .notADirectory) =>
      Task.fail 2 ("cannot read: " ++ Quoted.ifNeeded path ++ ": No such file or directory")
    | .error e => Task.fail 2 ("read failed: " ++ Quoted.ifNeeded path ++ ": " ++ reason e)
  if g.has 'c' || g.has 'C' then
    let wrong (a b : String) : Bool :=
      compare a b = .gt || (g.has 'u' && compare a b = .eq)
    match disorder? wrong 1 lines with
    | some (n, line) =>
      if g.has 'c' then
        Task.complain (g.operands.headD "-" ++ ":" ++ toString n ++ ": disorder: " ++ line)
      return 1
    | none => return 0
  let sorted := lines.mergeSort fun a b => compare a b ≠ .gt
  let sorted := if g.has 'u' then dropEqual (fun a b => byKeys a b = .eq) [] sorted else sorted
  let text := String.join (sorted.map fun l => l ++ String.singleton ending)
  match g.value? 'o' with
  | none =>
    Task.say text
    return 0
  | some path =>
    match ← Task.writeFile path false text with
    | none => return 0
    | some e => Task.fail 2 ("open failed: " ++ Quoted.ifNeeded path ++ ": " ++ reason e)

/-! ### Repeated lines -/

/-- Lines in runs of equal ones. -/
def runs (same : String → String → Bool) (done : List (String × List String)) :
    List String → List (String × List String)
  | [] => done.reverse.map fun r => (r.1, r.2.reverse)
  | line :: rest =>
    match done with
    | (first, more) :: others =>
      if same first line then runs same ((first, line :: more) :: others) rest
      else runs same ((line, [line]) :: done) rest
    | [] => runs same [(line, [line])] rest

def uniq : Program := fun args => do
  let g ← Task.options { letters := "cdDiuz", arguments := "fsw", words := [("count", 'c'),
    ("repeated", 'd'), ("unique", 'u'), ("ignore-case", 'i')] } args
  match g.operands with
  | _ :: _ :: extra :: _ => Task.misuse 1 ("extra operand " ++ Quoted.word extra)
  | _ => pure ()
  let number (c : Char) : Nat := ((g.value? c).bind Numeral.count?).getD 0
  let part (line : String) : List Char :=
    let cs := (afterFields none (number 'f') line.toList).drop (number 's')
    let cs := if g.has 'w' then cs.take (number 'w') else cs
    if g.has 'i' then cs.map Char.toLower else cs
  let path := g.operands.headD "-"
  match ← Task.readFile path with
  | .error e => Task.fail 1 (Task.cannotRead path e)
  | .ok text =>
    let kept := (runs (fun a b => part a = part b) [] (Lines.of text)).filter fun r =>
      let many := 1 < r.2.length
      (!(g.has 'd' || g.has 'D') || many) && (!g.has 'u' || !many)
    let lines := kept.flatMap fun r =>
      if g.has 'D' then r.2
      else [(if g.has 'c' then Streams.rightAligned 7 (toString r.2.length) ++ " " else "") ++ r.1]
    match g.operands with
    | _ :: goal :: _ =>
      match ← Task.writeFile goal false (Lines.join lines) with
      | none => return 0
      | some e => Task.fail 1 (Task.cannotRead goal e)
    | _ =>
      Task.say (Lines.join lines)
      return 0

/-! ### Columns -/

/-- The numbers that a list names, as ranges. -/
def ranges? (s : String) : Option (List (Nat × Option Nat)) :=
  (s.splitOn ",").mapM fun piece =>
    match piece.splitOn "-" with
    | [a] => (Numeral.count? a).bind fun n => if n = 0 then none else some (n, some n)
    | ["", b] => (Numeral.count? b).map fun n => (1, some n)
    | [a, ""] => (Numeral.count? a).bind fun n => if n = 0 then none else some (n, none)
    | [a, b] => do
      let n ← Numeral.count? a
      let m ← Numeral.count? b
      if n = 0 || m < n then none else some (n, some m)
    | _ => none

def isListed (ranges : List (Nat × Option Nat)) (n : Nat) : Bool :=
  ranges.any fun r => r.1 ≤ n && r.2.all (n ≤ ·)

/-- The members of a list whose numbers are wanted. -/
def pick {α : Type} (wanted : Nat → Bool) (xs : List α) : List α :=
  (xs.zip (List.range xs.length)).filterMap fun x => if wanted (x.2 + 1) then some x.1 else none

def cut : Program := fun args => do
  let g ← Task.options { letters := "snz", arguments := "bcfdoO", words := [("bytes", 'b'),
    ("characters", 'c'), ("fields", 'f'), ("delimiter", 'd'), ("only-delimited", 's'),
    ("output-delimiter", 'O'), ("complement", 'z')] } args
  match g.options.filter fun x => "bcf".contains x.1 with
  | [] => Task.misuse 1 "you must specify a list of bytes, characters, or fields"
  | _ :: _ :: _ => Task.misuse 1 "only one list may be specified"
  | [(kind, list)] =>
    if (g.value? 'd').any fun d => 1 < d.length then
      Task.misuse 1 "the delimiter must be a single character"
    if kind ≠ 'f' && g.has 'd' then
      Task.misuse 1 "an input delimiter may be specified only when operating on fields"
    match ranges? list with
    | none =>
      let zero := (list.splitOn ",").any fun p => p = "0" || p.startsWith "0-"
      let things := if kind = 'f' then "fields" else "byte/character positions"
      let thing := if kind = 'f' then "field" else "byte/character"
      if zero then Task.misuse 1 (things ++ " are numbered from 1")
      else if list = "-" then Task.misuse 1 "invalid range with no endpoint: -"
      else if list.toList.all fun c => c.isDigit || c = ',' || c = '-' then
        Task.misuse 1 "invalid decreasing range"
      else Task.misuse 1 ("invalid " ++ thing ++ " value " ++ Quoted.word list)
    | some ranges =>
      let wanted (n : Nat) : Bool := isListed ranges n != g.has 'z'
      let separator := (((g.value? 'd').getD "\t").toList).headD '\x00'
      let joint := (g.value? 'O').getD (String.singleton separator)
      let (text, code) ← Task.gather g.operands Task.cannotRead
      let lines := (Lines.of text).filterMap fun line =>
        if kind = 'f' then
          let fields := (Text.splitAt separator line.toList).map String.ofList
          if fields.length = 1 then if g.has 's' then none else some line
          else some (joint.intercalate (pick wanted fields))
        else some (String.ofList (pick wanted line.toList))
      Task.say (Lines.join lines)
      return code

/-- Characters with their escapes. -/
def delimiters : List Char → List String
  | '\\' :: 'n' :: rest => "\n" :: delimiters rest
  | '\\' :: 't' :: rest => "\t" :: delimiters rest
  | '\\' :: '0' :: rest => "" :: delimiters rest
  | '\\' :: c :: rest => String.singleton c :: delimiters rest
  | c :: rest => String.singleton c :: delimiters rest
  | [] => []

/-- Texts with delimiters in turn between them. -/
def joinTurn (delimiters : Array String) : Nat → List String → String
  | _, [] => ""
  | _, [s] => s
  | n, s :: rest => s ++ delimiters.getD (n % delimiters.size) "" ++ joinTurn delimiters (n + 1) rest

def paste : Program := fun args => do
  let g ← Task.options { letters := "sz", arguments := "d", words := [("serial", 's'),
    ("delimiters", 'd')] } args
  let between := (delimiters ((g.value? 'd').getD "\t").toList).toArray
  let between := if between.isEmpty then #[""] else between
  let mut columns : List (Array String) := []
  let mut code := 0
  for path in if g.operands.isEmpty then ["-"] else g.operands do
    match ← Task.readFile path with
    | .ok text => columns := columns ++ [(Lines.of text).toArray]
    | .error e =>
      Task.complain (Task.cannotRead path e)
      code := 1
      if !g.has 's' then Task.quit 1
  let inputs := g.operands.count "-"
  if 1 < inputs && inputs = g.operands.length && !g.has 's' then
    let all := columns.headD #[]
    columns := (List.range inputs).map fun i =>
      ((List.range ((all.size + inputs - 1 - i) / inputs)).map fun j =>
        all.getD (j * inputs + i) "").toArray
  if g.has 's' then Task.say (Lines.join (columns.map fun c => joinTurn between 0 c.toList))
  else
    let height := (columns.map Array.size).foldl max 0
    Task.say (Lines.join ((List.range height).map fun i =>
      joinTurn between 0 (columns.map fun c => c.getD i "")))
  return code

def rev : Program := fun args => do
  let g ← Task.options { letters := "" } args
  Task.eachSource g.operands (fun path e => "cannot open " ++ path ++ ": " ++ reason e)
    fun _ text => do
      let (lines, ended) := Lines.split text
      let turned := lines.map fun l => String.ofList l.toList.reverse
      Task.say ("\n".intercalate turned ++ if ended && !lines.isEmpty then "\n" else "")

def nl : Program := fun args => do
  let g ← Task.options { letters := "p", arguments := "bnswvi" } args
  let all := (g.value? 'b').getD "t" = "a"
  let width := ((g.value? 'w').bind Numeral.count?).getD 6
  let separator := (g.value? 's').getD "\t"
  let (text, code) ← Task.gather g.operands Task.cannotRead
  let shift := String.ofList (List.replicate (width + separator.length) ' ')
  let start := ((g.value? 'v').bind Numeral.count?).getD 1
  let (lines, _) := (Lines.of text).foldl (fun (done, n) line =>
    if all || line ≠ "" then
      ((Streams.rightAligned width (toString n) ++ separator ++ line) :: done, n + 1)
    else ((shift ++ line) :: done, n)) ([], start)
  Task.say (Lines.join lines.reverse)
  return code

/-- A line in pieces of a width. -/
def wrap (width : Nat) : Nat → List Char → List String
  | 0, _ => []
  | n + 1, cs =>
    if cs.length ≤ width then [String.ofList cs]
    else String.ofList (cs.take width) :: wrap width n (cs.drop width)

def fold : Program := fun args => do
  let g ← Task.options { letters := "bs", arguments := "w", words := [("width", 'w')] }
    (match Streams.modernize args with
      | "-n" :: n :: rest => "-w" :: n :: rest
      | other => other)
  let width := max 1 (((g.value? 'w').bind Numeral.count?).getD 80)
  Task.eachSource g.operands Task.cannotRead fun _ text => do
    let (lines, ended) := Lines.split text
    let folded := lines.flatMap fun l => wrap width (l.length + 1) l.toList
    Task.say ("\n".intercalate folded ++ if ended && !lines.isEmpty then "\n" else "")

end PlcModule.Host.Columns
