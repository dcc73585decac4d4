import PlcModule.Host.Fraction
import PlcModule.Host.Options

/-! The programs that write their arguments, by themselves and as a shell has them. The two kinds
differ in the escapes that they know and in how they complain. -/
namespace PlcModule.Host.Printing

/-- Whether a program stands by itself or belongs to a shell. -/
inductive Kind where
  | alone
  | inShell
  deriving DecidableEq, Repr

/-- What was made of a text with escapes in it. -/
structure Unescaped where
  text : List Char
  /-- Nothing is written any more. -/
  stops : Bool

def octal? (c : Char) : Option Nat :=
  if '0' ≤ c && c ≤ '7' then some (c.toNat - 0x30) else none

/-- The number of up to so many digits of a base at the front, how many there are, and what
follows them. -/
def digitsUpTo (base : Nat) : Nat → Nat → Nat → List Char → Nat × Nat × List Char
  | 0, value, taken, cs => (value, taken, cs)
  | _, value, taken, [] => (value, taken, [])
  | n + 1, value, taken, c :: rest =>
    match Numeral.digit? c with
    | some d =>
      if d < base then digitsUpTo base n (value * base + d) (taken + 1) rest
      else (value, taken, c :: rest)
    | none => (value, taken, c :: rest)

def byte (n : Nat) : Char :=
  Char.ofNat (n % 256)

def letter? : Char → Option Char
  | 'a' => some '\x07'
  | 'b' => some '\x08'
  | 'e' => some '\x1b'
  | 'f' => some '\x0c'
  | 'n' => some '\n'
  | 'r' => some '\x0d'
  | 't' => some '\t'
  | 'v' => some '\x0b'
  | '\\' => some '\\'
  | _ => none

/-- The bytes of the character of a number. -/
def codePoint (n : Nat) : List Char :=
  (Octets.ofBytes (String.singleton (Char.ofNat n)).toUTF8).toList

/-- What an escape stands for, after its backslash, and what follows it. -/
def escape (k : Kind) (cs : List Char) : List Char × List Char :=
  match cs with
  | [] => (['\\'], [])
  | c :: rest =>
    match letter? c with
    | some b => ([b], rest)
    | none =>
      if (octal? c).isSome then
        let (n, _, rest) := digitsUpTo 8 3 0 0 cs
        ([byte n], rest)
      else match k with
        | .inShell => (['\\'], cs)
        | .alone =>
          if c = 'x' then
            match digitsUpTo 16 2 0 0 rest with
            | (_, 0, _) => (['\\', 'x'], rest)
            | (n, _, rest) => ([byte n], rest)
          else if c = 'u' then
            let (n, _, rest) := digitsUpTo 16 4 0 0 rest
            (codePoint n, rest)
          else if c = 'U' then
            let (n, _, rest) := digitsUpTo 16 8 0 0 rest
            (codePoint n, rest)
          else if c = '"' then (['"'], rest)
          else (['\\', c], rest)

/-- A text with its escapes, where a zero may have three more digits and `c` ends all output. -/
def unescape (k : Kind) : Nat → List Char → List Char → Unescaped
  | 0, done, _ => ⟨done.reverse, false⟩
  | _, done, [] => ⟨done.reverse, false⟩
  | _, done, '\\' :: 'c' :: _ => ⟨done.reverse, true⟩
  | n + 1, done, '\\' :: '0' :: rest =>
    if (rest.head?.bind octal?).isSome then
      let (v, _, rest) := digitsUpTo 8 3 0 0 rest
      unescape k n (byte v :: done) rest
    else unescape k n ('\x00' :: done) rest
  | n + 1, done, '\\' :: rest =>
    let (text, rest) := escape k rest
    unescape k n (text.reverse ++ done) rest
  | n + 1, done, c :: rest => unescape k n (c :: done) rest

def unescapeText (k : Kind) (s : String) : Unescaped :=
  unescape k (s.length + 1) [] s.toList

/-- What is to be written, what is complained of before, and the code to exit with. -/
structure Printed where
  output : String
  complaints : List String
  code : Nat

/-- The arguments after the options of `echo`, with what the options ask for. -/
def echoOptions (quiet escapes : Bool) : List String → Bool × Bool × List String
  | a :: rest =>
    match a.toList with
    | '-' :: c :: letters =>
      if (c :: letters).all (Octets.isOneOf "neE") then
        let quiet := quiet || (c :: letters).contains 'n'
        let escapes := match (c :: letters).reverse.find? (· ≠ 'n') with
          | some d => d = 'e'
          | none => escapes
        echoOptions quiet escapes rest
      else (quiet, escapes, a :: rest)
    | _ => (quiet, escapes, a :: rest)
  | [] => (quiet, escapes, [])

/-- The arguments with blanks between them, and a line end unless told otherwise. -/
def echo (k : Kind) (args : List String) : String :=
  let (quiet, escapes, args) := match k with
    | .alone => echoOptions false false args
    | .inShell =>
      match args with
      | "-n" :: rest => (true, true, rest)
      | _ => (false, true, args)
  let line := " ".intercalate args
  if escapes then
    let u := unescapeText k line
    String.ofList u.text ++ (if quiet || u.stops then "" else "\n")
  else line ++ (if quiet then "" else "\n")

/-- How a value is fitted into a field. -/
structure Field where
  left : Bool
  plus : Bool
  blank : Bool
  marked : Bool
  zeros : Bool
  width : Nat
  precision : Option Nat

def Field.pad (f : Field) (s : String) : String :=
  let gap := String.ofList (List.replicate (f.width - s.length) ' ')
  if f.left then s ++ gap else gap ++ s

/-- A number with its sign or mark in front, padded with zeros where that is asked for. -/
def Field.number (f : Field) (zeros : Bool) (front digits : String) : String :=
  if zeros && !f.left then
    front ++ String.ofList (List.replicate (f.width - front.length - digits.length) '0') ++ digits
  else f.pad (front ++ digits)

def Field.sign (f : Field) (negative : Bool) : String :=
  if negative then "-" else if f.plus then "+" else if f.blank then " " else ""

/-- Digits, at least as many as the precision asks for. -/
def Field.digits (f : Field) (base n : Nat) : String :=
  let s := if n = 0 && f.precision = some 0 then "" else Numeral.spell base n
  String.ofList (List.replicate (f.precision.getD 0 - s.length) '0') ++ s

def Field.integer (f : Field) (n : Int) : String :=
  f.number (f.zeros && f.precision.isNone) (f.sign (n < 0)) (f.digits 10 n.natAbs)

def upper (s : String) : String :=
  s.map Char.toUpper

def Field.natural (f : Field) (conversion : Char) (n : Nat) : String :=
  let zeros := f.zeros && f.precision.isNone
  match conversion with
  | 'o' =>
    let s := f.digits 8 n
    f.number zeros "" (if f.marked && !s.startsWith "0" then "0" ++ s else s)
  | 'x' => f.number zeros (if f.marked && n ≠ 0 then "0x" else "") (f.digits 16 n)
  | 'X' => f.number zeros (if f.marked && n ≠ 0 then "0X" else "") (upper (f.digits 16 n))
  | _ => f.number zeros "" (f.digits 10 n)

def Field.real (f : Field) (conversion : Char) (bits : Nat) : Real → String
  | .infinite negative => f.pad (f.sign negative ++ (if conversion.isUpper then "INF" else "inf"))
  | .undefined => f.pad (if conversion.isUpper then "NAN" else "nan")
  | .finite r =>
    let r := r.toBits bits
    let places := f.precision.getD 6
    let digits := match conversion.toLower with
      | 'f' => r.fixed places f.marked
      | 'e' => r.exponential places f.marked
      | _ => r.general places f.marked
    f.number f.zeros (f.sign r.negative) (if conversion.isUpper then upper digits else digits)

/-- A number that an argument stands for, as far as it does, and what there is to complain of. -/
def complaintsOn (k : Kind) (arg : String) (rest : List Char) (begins inRange : Bool) :
    List String :=
  let shown := match k with
    | .alone => Quoted.word arg
    | .inShell => arg
  if !rest.isEmpty then
    if begins then
      [shown ++ match k with
        | .alone => ": value not completely converted"
        | .inShell => ": not completely converted"]
    else
      [shown ++ match k with
        | .alone => ": expected a numeric value"
        | .inShell => ": expected numeric value"]
  else if inRange then []
  else [shown ++ ": Numerical result out of range"]

/-- The number of a character after a quote. -/
def quotedValue? (k : Kind) : List Char → Option (Nat × List String)
  | q :: rest =>
    if q = '"' || q = '\'' then
      match k, rest with
      | .inShell, [] => some (0, [])
      | .inShell, c :: _ => some (c.toNat, [])
      | .alone, [] => none
      | .alone, c :: rest =>
        some (c.toNat, if rest.isEmpty then [] else
          ["warning: " ++ String.ofList rest ++
            ": character(s) following character constant have been ignored"])
    else none
  | [] => none

def integerValue (k : Kind) (signed : Bool) (arg : String) : Int × List String × Bool :=
  match quotedValue? k arg.toList with
  | some (n, warnings) => (n, warnings, false)
  | none =>
    match Numeral.signed? Numeral.prefixed? arg.toList with
    | none =>
      let complaints := complaintsOn k arg arg.toList false true
      (0, complaints, !complaints.isEmpty)
    | some (n, rest) =>
      let inRange :=
        if signed then Numeral.lowest ≤ n && n ≤ Numeral.highest
        else -(Numeral.range : Int) < n && n < Numeral.range
      let value :=
        if signed then Numeral.clamp n
        else if inRange then n % Numeral.range else Numeral.range - 1
      let complaints := complaintsOn k arg rest true inRange
      (value, complaints, !complaints.isEmpty)

def realValue (k : Kind) (arg : String) : Real × List String × Bool :=
  match quotedValue? k arg.toList with
  | some (n, warnings) => (.finite ⟨false, n, 1⟩, warnings, false)
  | none =>
    match Real.read? arg.toList with
    | none =>
      let complaints := complaintsOn k arg arg.toList false true
      (.finite ⟨false, 0, 1⟩, complaints, !complaints.isEmpty)
    | some (r, rest) =>
      let complaints := complaintsOn k arg rest true true
      (r, complaints, !complaints.isEmpty)

/-- Where the writing of a format has got to. -/
structure Progress where
  /-- What has been written, the last first. -/
  written : List String
  args : List String
  complaints : List String
  code : Nat
  /-- How many arguments were asked for. -/
  asked : Nat
  stops : Bool

namespace Progress

def put (p : Progress) (s : String) : Progress :=
  { p with written := s :: p.written }

def next (p : Progress) : Option String × Progress :=
  (p.args.head?, { p with args := p.args.tail, asked := p.asked + 1 })

def complain (p : Progress) (messages : List String) (fails : Bool) : Progress :=
  { p with complaints := p.complaints ++ messages, code := if fails then 1 else p.code }

def integer (k : Kind) (signed : Bool) (p : Progress) : Int × Progress :=
  match p.next with
  | (none, p) => (0, p)
  | (some arg, p) =>
    let (n, complaints, fails) := integerValue k signed arg
    (n, p.complain complaints fails)

end Progress

def significantBits : Kind → Nat
  | .alone => 64
  | .inShell => 53

/-- Writes an argument as a directive asks. -/
def directive (k : Kind) (f : Field) (conversion : Char) (p : Progress) : Progress :=
  let cut (s : String) := match f.precision with
    | some n => String.ofList (s.toList.take n)
    | none => s
  match conversion with
  | 's' =>
    let (arg, p) := p.next
    p.put (f.pad (cut (arg.getD "")))
  | 'b' =>
    let (arg, p) := p.next
    let u := unescapeText k (arg.getD "")
    { p.put (f.pad (cut (String.ofList u.text))) with stops := u.stops }
  | 'c' =>
    let (arg, p) := p.next
    match k, (arg.getD "").toList with
    | _, c :: _ => p.put (f.pad (String.singleton c))
    | .inShell, [] => p.put (f.pad "\x00")
    | .alone, [] => p.put (f.pad (if arg.isSome then "\x00" else ""))
  | 'q' =>
    let (arg, p) := p.next
    p.put (f.pad (Quoted.ifNeeded (arg.getD "")))
  | 'd' | 'i' =>
    let (n, p) := p.integer k true
    p.put (f.integer n)
  | 'o' | 'u' | 'x' | 'X' =>
    let (n, p) := p.integer k false
    p.put (f.natural conversion n.toNat)
  | _ =>
    match p.next with
    | (none, p) => p.put (f.real conversion (significantBits k) (.finite ⟨false, 0, 1⟩))
    | (some arg, p) =>
      let (r, complaints, fails) := realValue k arg
      (p.complain complaints fails).put (f.real conversion (significantBits k) r)

/-- A count in a directive: digits, or an argument where a star stands. -/
def count (k : Kind) (cs : List Char) (p : Progress) : Int × List Char × Progress :=
  match cs with
  | '*' :: rest =>
    let (n, p) := p.integer k true
    (n, rest, p)
  | _ =>
    let (n, _, rest) := Numeral.digits 10 0 0 cs
    (n, rest, p)

/-- The most that a field may be wide. -/
def widthLimit : Nat := 1000000

def flagsOf : Kind → String
  | .alone => "-+ #0'I"
  | .inShell => "#-+ 0"

/-- The field of a directive, and what follows it. -/
def field (k : Kind) (cs : List Char) (p : Progress) : Field × List Char × Progress :=
  let flags := cs.takeWhile (Octets.isOneOf (flagsOf k))
  let (width, rest, p) := count k (cs.dropWhile (Octets.isOneOf (flagsOf k))) p
  let (precision, rest, p) := match rest with
    | '.' :: rest =>
      let (n, rest, p) := count k rest p
      ((if n < 0 then none else some (min n.toNat widthLimit)), rest, p)
    | _ => (none, rest, p)
  (⟨flags.contains '-' || width < 0, flags.contains '+', flags.contains ' ', flags.contains '#',
    flags.contains '0', min width.natAbs widthLimit, precision⟩, rest, p)

def conversions : Kind → String
  | .alone => "bcsqdiouxXeEfFgG"
  | .inShell => "bcsdiouxXeEfFgG"

/-- Goes once through a format. Fails where it makes no sense. -/
def format (k : Kind) : Nat → List Char → Progress → Except (String × Progress) Progress
  | 0, _, p => .ok p
  | _, [], p => .ok p
  | n + 1, c :: rest, p =>
    if p.stops then .ok p
    else match c, rest with
      | '\\', 'c' :: after =>
        match k with
        | .alone => .ok { p with stops := true }
        | .inShell => format k n after ((p.put "\\").put "c")
      | '\\', 'x' :: after =>
        let (text, rest) := escape k rest
        match k, digitsUpTo 16 2 0 0 after with
        | .alone, (_, 0, _) => .error ("missing hexadecimal number in escape", p)
        | _, _ => format k n rest (p.put (String.ofList text))
      | '\\', _ =>
        let (text, rest) := escape k rest
        format k n rest (p.put (String.ofList text))
      | '%', '%' :: after => format k n after (p.put "%")
      | '%', _ =>
        let (f, after, p) := field k rest p
        let after := match k with
          | .alone => after.dropWhile (Octets.isOneOf "hjlLtz")
          | .inShell => after
        match after with
        | [] =>
          .error (match k with
            | .alone => (String.ofList (c :: rest) ++ ": invalid conversion specification", p)
            | .inShell => ("missing format character", p))
        | conversion :: more =>
          if (conversions k).contains conversion then
            format k n more (directive k f conversion p)
          else
            let text := String.ofList ((c :: rest).take (rest.length + 1 - more.length))
            .error (match k with
              | .alone => (text ++ ": invalid conversion specification", p)
              | .inShell => (text ++ ": invalid directive", p))
      | _, _ => format k n rest (p.put (String.singleton c))

def Progress.printed (p : Progress) : Printed :=
  ⟨String.join p.written.reverse, p.complaints, p.code⟩

/-- Goes through a format as often as it takes to use up the arguments. -/
def formatAll (k : Kind) (template : List Char) : Nat → Progress → Printed
  | 0, p => p.printed
  | n + 1, p =>
    match format k (template.length + 1) template { p with asked := 0 } with
    | .error (message, p) =>
      let p := p.complain [message] true
      { p.printed with code := match k with
        | .alone => 1
        | .inShell => 2 }
    | .ok q =>
      if q.stops || q.args.isEmpty then q.printed
      else if q.asked = 0 then
        match k with
        | .inShell => q.printed
        | .alone =>
          (q.complain ["warning: ignoring excess arguments, starting with " ++
            Quoted.word (q.args.headD "")] false).printed
      else formatAll k template n q

/-- What `printf` makes of its arguments, unless there are none. -/
def printf? (k : Kind) (args : List String) : Option Printed :=
  let args := match args with
    | "--" :: rest => rest
    | _ => args
  match args with
  | [] => none
  | template :: args => some (formatAll k template.toList (args.length + 1) ⟨[], args, [], 0, 0, false⟩)

def echoProgram : Program := fun args => do
  Task.say (echo .alone args)
  return 0

def printfProgram : Program := fun args => do
  match printf? .alone args with
  | none =>
    Task.complain "missing operand"
    Task.hint 1 ""
  | some p =>
    p.complaints.forM Task.complain
    Task.say p.output
    return p.code

end PlcModule.Host.Printing
