import PlcModule.Digest.Md5
import PlcModule.Host.Fraction
import PlcModule.Host.Utility.Streams

/-! The programs that compare files, sum them up, or write them in another form, and those that
write numbers. -/
namespace PlcModule.Host.Compare

/-! ### Comparing -/

/-- The first place where two texts differ, and the line it is in. -/
def differ? (at_ line : Nat) : List Char → List Char → Option (Nat × Nat)
  | a :: as, b :: bs =>
    if a = b then differ? (at_ + 1) (if a = '\n' then line + 1 else line) as bs
    else some (at_, line)
  | _, _ => none

def cmp : Program := fun args => do
  modify fun p => { p with name := "cmp" }
  let g ← Task.options { letters := "lsb", arguments := "in", misuse := 2,
                         words := [("silent", 's'), ("quiet", 's')] } args
  match g.operands with
  | [] =>
    Task.complain "missing operand after 'cmp'"
    Task.fail 2 "Try 'cmp --help' for more information."
  | left :: others =>
    let right := others.headD "-"
    let read (path : String) : Task String := do
      match ← Task.readFile path with
      | .ok s => return s
      | .error e =>
        if !g.has 's' then Task.complain (path ++ ": " ++ reason e)
        Task.quit 2
    let a ← read left
    let b ← read right
    if a = b then return 0
    if g.has 's' then return 1
    match differ? 1 1 a.toList b.toList with
    | some (at_, line) =>
      Task.sayLine (left ++ " " ++ right ++ " differ: char " ++ toString at_ ++ ", line " ++
        toString line)
      return 1
    | none =>
      let (short, text) := if a.length < b.length then (left, a) else (right, b)
      if text = "" then Task.complain ("EOF on " ++ short ++ " which is empty")
      else
        let lines := text.toList.count '\n'
        let place := if text.endsWith "\n" then ", line " ++ toString lines
          else ", in line " ++ toString (lines + 1)
        Task.complain ("EOF on " ++ short ++ " after byte " ++ toString text.length ++ place)
      return 1

/-- A step from one list of lines to another. -/
inductive Step where
  | same (line : String)
  | gone (line : String)
  | new (line : String)

/-- The lengths of the longest lists that two lists have in common from each place on. -/
def commonTable (a b : Array String) : Array (Array Nat) :=
  let empty : Array Nat := Array.replicate (b.size + 1) 0
  (List.range a.size).foldl (fun table i =>
    let x := a.getD (a.size - 1 - i) ""
    let below := table.getD i empty
    let row := (List.range b.size).foldl (fun (row : Array Nat) j =>
      let k := b.size - 1 - j
      let n := if x = b.getD k "" then below.getD (k + 1) 0 + 1
        else max (below.getD k 0) (row.getD (k + 1) 0)
      row.setIfInBounds k n) empty
    table.push row) #[empty]

def stepsFrom (a b : Array String) (table : Array (Array Nat)) : Nat → Nat → Nat → List Step
  | 0, _, _ => []
  | n + 1, i, j =>
    let length (i j : Nat) : Nat := (table.getD (a.size - i) #[]).getD j 0
    match a[i]?, b[j]? with
    | none, none => []
    | some x, none => .gone x :: stepsFrom a b table n (i + 1) j
    | none, some y => .new y :: stepsFrom a b table n i (j + 1)
    | some x, some y =>
      if x = y then .same x :: stepsFrom a b table n (i + 1) (j + 1)
      else if length i (j + 1) ≤ length (i + 1) j then .gone x :: stepsFrom a b table n (i + 1) j
      else .new y :: stepsFrom a b table n i (j + 1)

/-- Lines that differ, with the number of lines in front of them on each side. -/
structure Hunk where
  left : Nat
  right : Nat
  gone : List String
  new : List String

def hunks : Nat → Nat → Option Hunk → List Step → List Hunk
  | _, _, h, [] => h.toList
  | i, j, h, .same _ :: rest => h.toList ++ hunks (i + 1) (j + 1) none rest
  | i, j, h, .gone x :: rest =>
    let h := h.getD ⟨i, j, [], []⟩
    hunks (i + 1) j (some { h with gone := h.gone ++ [x] }) rest
  | i, j, h, .new y :: rest =>
    let h := h.getD ⟨i, j, [], []⟩
    hunks i (j + 1) (some { h with new := h.new ++ [y] }) rest

/-- The numbers of lines from one on. -/
def span (before count : Nat) : String :=
  if count = 0 then toString before
  else if count = 1 then toString (before + 1)
  else toString (before + 1) ++ "," ++ toString (before + count)

def marked (mark : String) (lines : List String) (last : Bool) (ended : Bool) : String :=
  String.join (lines.map fun l => mark ++ l ++ "\n") ++
    (if last && !ended && !lines.isEmpty then "\\ No newline at end of file\n" else "")

def Hunk.normal (h : Hunk) (leftSize rightSize : Nat) (leftEnded rightEnded : Bool) : String :=
  let sign := if h.gone.isEmpty then "a" else if h.new.isEmpty then "d" else "c"
  span h.left h.gone.length ++ sign ++ span h.right h.new.length ++ "\n" ++
    marked "< " h.gone (h.left + h.gone.length = leftSize) leftEnded ++
    (if sign = "c" then "---\n" else "") ++
    marked "> " h.new (h.right + h.new.length = rightSize) rightEnded

/-- How many lines are shown around those that differ. -/
def around : Nat := 3

/-- Joins hunks that are so near to one another that the lines around them meet. -/
def groupHunks : List (List Hunk) → List Hunk → List (List Hunk)
  | done, [] => (done.map List.reverse).reverse
  | (h :: group) :: done, k :: rest =>
    if k.left ≤ h.left + h.gone.length + 2 * around then groupHunks ((k :: h :: group) :: done) rest
    else groupHunks ([k] :: (h :: group) :: done) rest
  | done, k :: rest => groupHunks ([k] :: done) rest

def unifiedSpan (before count : Nat) : String :=
  if count = 1 then toString (before + 1)
  else toString (if count = 0 then before else before + 1) ++ "," ++ toString count

/-- A group of hunks with the lines around them. -/
def unified (a b : Array String) (leftEnded rightEnded : Bool) (group : List Hunk) : String :=
  match group, group.getLast? with
  | first :: _, some last =>
    let start := first.left - around
    let lead := first.left - start
    let stop := min a.size (last.left + last.gone.length + around)
    let gone := (group.map fun h => h.gone.length).foldl (· + ·) 0
    let new := (group.map fun h => h.new.length).foldl (· + ·) 0
    let common (from_ upTo : Nat) : String :=
      marked " " (a.extract from_ upTo).toList (upTo = a.size) leftEnded
    let (body, at_) := group.foldl (fun (text, at_) h =>
      (text ++ common at_ h.left ++
        marked "-" h.gone (h.left + h.gone.length = a.size) leftEnded ++
        marked "+" h.new (h.right + h.new.length = b.size) rightEnded,
        h.left + h.gone.length)) ("", start)
    "@@ -" ++ unifiedSpan start (stop - start) ++ " +" ++
      unifiedSpan (first.right - lead) (stop - start - gone + new) ++ " @@\n" ++ body ++ common at_ stop
  | _, _ => ""

def diff : Program := fun args => do
  modify fun p => { p with name := "diff" }
  let g ← Task.options { letters := "abBdeEilNnpqrstuwyTZ", arguments := "UCxL", misuse := 2,
                         words := [("brief", 'q'), ("unified", 'u'),
                           ("report-identical-files", 's')] } args
  match g.operands with
  | left :: right :: _ =>
    let read (path : String) : Task (Option String) := do
      match ← Task.readFile path with
      | .ok s => return some s
      | .error e =>
        Task.complain (path ++ ": " ++ reason e)
        return none
    match ← read left, ← read right with
    | some a, some b =>
      let fold (s : String) : String :=
        let s := if g.has 'w' then String.ofList (s.toList.filter fun c => c ≠ ' ' && c ≠ '\t') else s
        if g.has 'i' then s.map Char.toLower else s
      if fold a = fold b then
        if g.has 's' then Task.sayLine ("Files " ++ left ++ " and " ++ right ++ " are identical")
        return 0
      if g.has 'q' then
        Task.sayLine ("Files " ++ left ++ " and " ++ right ++ " differ")
        return 1
      let mark (l : List String × Bool) : Array String :=
        (if l.2 then l.1 else l.1.dropLast ++ l.1.getLast?.toList.map (· ++ "\x00")).toArray
      let (la, ea) := Lines.split a
      let (lb, eb) := Lines.split b
      let x := mark (la, ea)
      let y := mark (lb, eb)
      let clean (s : String) : String := if s.endsWith "\x00" then (s.dropEnd 1).toString else s
      let steps := (stepsFrom x y (commonTable x y) (x.size + y.size + 1) 0 0).map fun s => match s with
        | .same l => .same (clean l)
        | .gone l => .gone (clean l)
        | .new l => .new (clean l)
      let found := hunks 0 0 none steps
      if g.has 'u' || g.has 'U' then
        Task.say ("--- " ++ left ++ "\n+++ " ++ right ++ "\n")
        for group in groupHunks [] found do
          Task.say (unified (x.map clean) (y.map clean) ea eb group)
      else
        for h in found do
          Task.say (h.normal x.size y.size ea eb)
      return 1
    | _, _ => return 2
  | operands =>
    Task.complain ("missing operand after " ++ Quoted.word (operands.getLastD "diff"))
    Task.fail 2 "Try 'diff --help' for more information."

/-! ### Other forms -/

def md5sum : Program := fun args => do
  let g ← Task.options { letters := "bctwz", words := [("check", 'c'), ("quiet", 'q'),
    ("status", 's'), ("binary", 'b')] } args
  if g.has 'c' then
    let mut code := 0
    for path in if g.operands.isEmpty then ["-"] else g.operands do
      match ← Task.readFile path with
      | .error e =>
        Task.complain (Task.cannotRead path e)
        code := 1
      | .ok text =>
        let mut failures := 0
        for line in Lines.of text do
          let sum := (line.take 32).toString
          let name := (line.drop 34).toString
          match ← Task.readFile name with
          | .ok s =>
            if Digest.md5 (Octets.toBytes s).data.toList = sum then Task.sayLine (name ++ ": OK")
            else
              Task.sayLine (name ++ ": FAILED")
              failures := failures + 1
          | .error e =>
            Task.complain (Task.cannotRead name e)
            Task.sayLine (name ++ ": FAILED open or read")
            code := 1
        if failures ≠ 0 then
          Task.complain ("WARNING: " ++ toString failures ++ " computed checksum" ++
            (if failures = 1 then "" else "s") ++ " did NOT match")
          code := 1
    return code
  else
    Task.eachSource g.operands Task.cannotRead fun path text =>
      Task.sayLine (Digest.md5 (Octets.toBytes text).data.toList ++ (if g.has 'b' then " *" else "  ") ++ path)

def padLeft (width : Nat) (c : Char) (s : String) : String :=
  String.ofList (List.replicate (width - s.length) c) ++ s

/-- A list in pieces of a size. -/
def pieces {α : Type} (size : Nat) : Nat → List α → List (List α)
  | 0, _ => []
  | _, [] => []
  | n + 1, xs => xs.take size :: pieces size n (xs.drop size)

/-- How a dump shows what is in a file: how many bytes make a unit, and how it is spelled. -/
structure Dump where
  size : Nat
  width : Nat
  spell : List Char → String

def characterName (c : Char) : String :=
  match c.toNat with
  | 0 => "\\0"
  | 7 => "\\a"
  | 8 => "\\b"
  | 9 => "\\t"
  | 10 => "\\n"
  | 11 => "\\v"
  | 12 => "\\f"
  | 13 => "\\r"
  | n => if 32 ≤ n && n ≤ 126 then String.singleton c else padLeft 3 '0' (Numeral.spell 8 n)

/-- Bytes as a number, the first one the least. -/
def littleEndian (cs : List Char) : Nat :=
  cs.foldr (fun c n => n * 256 + c.toNat) 0

def dumpOf (kind : Char) (size : Nat) : Dump :=
  match kind with
  | 'c' => ⟨1, 3, fun cs => characterName (cs.headD ' ')⟩
  | 'x' => ⟨size, 2 * size, fun cs => padLeft (2 * size) '0' (Numeral.spell 16 (littleEndian cs))⟩
  | 'u' | 'd' =>
    let width := match size with
      | 1 => if kind = 'u' then 3 else 4
      | 2 => if kind = 'u' then 5 else 6
      | 4 => if kind = 'u' then 10 else 11
      | _ => 20
    ⟨size, width, fun cs =>
      let n := littleEndian cs
      let top := 1 <<< (8 * size - 1)
      if kind = 'd' && top ≤ n then "-" ++ toString (2 * top - n) else toString n⟩
  | _ =>
    let width := match size with
      | 1 => 3
      | 2 => 6
      | 4 => 11
      | _ => 22
    ⟨size, width, fun cs => padLeft width '0' (Numeral.spell 8 (littleEndian cs))⟩

def dumpType (s : String) : Dump :=
  match s.toList with
  | kind :: ds =>
    let size := match ds with
      | ['1'] | ['C'] => 1
      | ['2'] | ['S'] => 2
      | ['8'] | ['L'] => 8
      | ['4'] | ['I'] => 4
      | _ => if kind = 'c' || kind = 'a' then 1 else 4
    dumpOf (if kind = 'a' then 'c' else kind) size
  | [] => dumpOf 'o' 2

def dumpLines (d : Dump) (addresses : Option Nat) : Nat → Nat → List Char → List String
  | 0, _, _ => []
  | n + 1, at_, cs =>
    let label (k : Nat) : String := match addresses with
      | some base => padLeft (if base = 10 then 7 else if base = 16 then 6 else 7) '0' (Numeral.spell base k)
      | none => ""
    if cs.isEmpty then if addresses.isSome then [label at_] else []
    else
      let row := cs.take 16
      let units := pieces d.size 17 row
      (label at_ ++ String.join (units.map fun u => " " ++ padLeft d.width ' ' (d.spell u))) ::
        dumpLines d addresses n (at_ + row.length) (cs.drop 16)

/-- Puts an asterisk for lines that repeat the one before them. -/
def elide (body : String → String) (previous : Option String) (elided : Bool) : List String → List String
  | [] => []
  | [last] => [last]
  | line :: rest =>
    if previous = some (body line) then
      (if elided then [] else ["*"]) ++ elide body previous true rest
    else line :: elide body (some (body line)) false rest

def od : Program := fun args => do
  let g ← Task.options { letters := "abcdoxvs", arguments := "AtjNw", words := [("format", 't'),
    ("address-radix", 'A')] } args
  let d := match g.options.reverse.find? fun x => "abcdoxt".contains x.1 with
    | some ('t', kind) => dumpType kind
    | some ('c', _) | some ('a', _) => dumpOf 'c' 1
    | some ('b', _) => dumpOf 'o' 1
    | some ('x', _) => dumpOf 'x' 2
    | some ('d', _) => dumpOf 'u' 2
    | _ => dumpOf 'o' 2
  let addresses := match (g.value? 'A').getD "o" with
    | "n" => none
    | "d" => some 10
    | "x" => some 16
    | _ => some 8
  let (text, code) ← Task.gather g.operands Task.cannotRead
  let skip := ((g.value? 'j').bind Streams.count?).getD 0
  let cs := text.toList.drop skip
  let cs := match (g.value? 'N').bind Streams.count? with
    | some n => cs.take n
    | none => cs
  let lines := dumpLines d addresses (cs.length + 2) skip cs
  let front := if addresses.isSome then 7 else 0
  Task.say (Lines.join (if g.has 'v' then lines
    else elide (fun l => (l.drop front).toString) none false lines))
  return code

def base64Digits : Array Char :=
  "ABCDEFGHIJKLMNOPQRSTUVWXYZabcdefghijklmnopqrstuvwxyz0123456789+/".toList.toArray

def encodeTriple (cs : List Char) : List Char :=
  let n := (cs ++ List.replicate (3 - cs.length) '\x00').foldl (fun n c => n * 256 + c.toNat) 0
  let digits := [n / 262144, n / 4096 % 64, n / 64 % 64, n % 64].map fun k => base64Digits.getD k '='
  digits.take (cs.length + 1) ++ List.replicate (3 - cs.length) '='

def decodeQuad (cs : List Char) : List Char :=
  let digits := cs.filterMap fun c => base64Digits.toList.idxOf? c
  let n := (digits ++ List.replicate (4 - digits.length) 0).foldl (fun n d => n * 64 + d) 0
  ([n / 65536, n / 256 % 256, n % 256].map Char.ofNat).take (digits.length - 1)

def base64 : Program := fun args => do
  let g ← Task.options { letters := "di", arguments := "w", words := [("decode", 'd'), ("wrap", 'w')] } args
  let (text, code) ← Task.gather g.operands Task.cannotRead
  if code ≠ 0 then return code
  let cs := text.toList
  if g.has 'd' then
    let cs := cs.filter fun c => c ≠ '\n'
    Task.say (String.ofList ((pieces 4 (cs.length + 1) cs).flatMap decodeQuad))
  else
    let all := (pieces 3 (cs.length + 1) cs).flatMap encodeTriple
    let width := ((g.value? 'w').bind Numeral.count?).getD 76
    if width = 0 then Task.say (String.ofList all)
    else Task.say (Lines.join ((pieces width (all.length + 1) all).map String.ofList))
  return 0

/-! ### Numbers -/

/-- A decimal number: its digits as a count, and how many of them are places. -/
def decimal? (s : String) : Option (Int × Nat) :=
  let (negative, cs) := match s.toList with
    | '-' :: rest => (true, rest)
    | '+' :: rest => (false, rest)
    | rest => (false, rest)
  let (whole, k, rest) := Numeral.digits 10 0 0 cs
  let signed (n : Nat) : Int := if negative then -(n : Int) else n
  match rest with
  | [] => if k = 0 then none else some (signed whole, 0)
  | '.' :: ds =>
    match Numeral.digits 10 whole 0 ds with
    | (n, places, []) => if k + places = 0 then none else some (signed n, places)
    | _ => none
  | _ => none

def decimalText (places : Nat) (n : Int) : String :=
  (if n < 0 then "-" else "") ++ Fraction.withPoint places n.natAbs false

/-- How many numbers are written at most. -/
def countLimit : Int := 3000000

def seq : Program := fun args => do
  let isNumber (s : String) : Bool := (decimal? s).isSome
  let options := args.filter (!isNumber ·)
  let g ← Task.options { letters := "w", arguments := "sf", strict := true,
                         words := [("equal-width", 'w'), ("separator", 's'), ("format", 'f')] }
    (if options.isEmpty then "--" :: args
      else (args.takeWhile (!isNumber ·)) ++ "--" :: args.dropWhile (!isNumber ·))
  match g.operands with
  | [] => Task.misuse 1 "missing operand"
  | _ :: _ :: _ :: extra :: _ => Task.misuse 1 ("extra operand " ++ Quoted.word extra)
  | operands =>
    let read (s : String) : Task (Int × Nat) := do
      match decimal? s with
      | some d => return d
      | none => Task.misuse 1 ("invalid floating point argument: " ++ Quoted.word s)
    let values ← operands.mapM read
    let (first, step, last) := match values with
      | [last] => ((1, 0), (1, 0), last)
      | [first, last] => (first, (1, 0), last)
      | first :: step :: last :: _ => (first, step, last)
      | [] => ((1, 0), (1, 0), (0, 0))
    let places := max first.2 step.2
    let all := max places last.2
    let scale (x : Int × Nat) : Int := x.1 * (Fraction.tens (all - x.2) : Int)
    let a := scale first
    let d := scale step
    let b := scale last
    if d = 0 then Task.misuse 1 ("invalid Zero increment value: " ++ Quoted.word (operands.getD 1 ""))
    let count : Int := if (0 < d && b < a) || (d < 0 && a < b) then 0 else (b - a).tdiv d + 1
    let cut := (Fraction.tens (all - places) : Int)
    let texts := (List.range (min count countLimit).toNat).map fun (i : Nat) =>
      decimalText places ((a + d * (i : Int)) / cut)
    let texts := if g.has 'w' then
        let width := (texts.map String.length).foldl max 0
        texts.map fun t => if t.startsWith "-" then "-" ++ padLeft (width - 1) '0' (t.drop 1).toString
          else padLeft width '0' t
      else texts
    let texts := match g.value? 'f' with
      | some f =>
        texts.map fun t =>
          let digits := (((f.splitOn "%").getD 1 "").takeWhile fun c => c.isDigit || c = '0').toString
          let front := (f.splitOn "%").headD ""
          let back := (((f.splitOn "%").getD 1 "").dropWhile fun c => c.isDigit || c = '.').toString
          front ++ padLeft (Numeral.digits 10 0 0 digits.toList).1 (if digits.startsWith "0" then '0' else ' ') t ++
            (back.drop 1).toString
      | none => texts
    if !texts.isEmpty then Task.sayLine (((g.value? 's').getD "\n").intercalate texts)
    return 0

def units : List Char := ['s', 'm', 'h', 'd']

def isInterval (s : String) : Bool :=
  let body := match s.toList.getLast? with
    | some c => if units.contains c then (s.dropEnd 1).toString else s
    | none => s
  body = "infinity" || body = "inf" || ((decimal? body).any fun d => 0 ≤ d.1)

def sleep : Program := fun args => do
  let g ← Task.options { letters := "" } args
  if g.operands.isEmpty then Task.misuse 1 "missing operand"
  for a in g.operands do
    if !isInterval a then Task.complain ("invalid time interval " ++ Quoted.word a)
  if g.operands.all isInterval then return 0 else Task.hint 1 ""

end PlcModule.Host.Compare
