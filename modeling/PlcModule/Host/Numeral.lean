/-! Whole numbers as programs of a host read them: after blanks and a sign, in base ten or in the
base that a prefix tells, and held in sixty-four bits. -/
namespace PlcModule.Host.Numeral

/-- The largest number, and the least one. -/
def highest : Int := 9223372036854775807
def lowest : Int := -9223372036854775808

/-- How many numbers there are. -/
def range : Nat := 18446744073709551616

/-- A number as it is left when only sixty-four bits of it are kept. -/
def wrap (n : Int) : Int :=
  Int.bmod n range

/-- A number out of range counts as the nearest one in it. -/
def clamp (n : Int) : Int :=
  if highest < n then highest else if n < lowest then lowest else n

def digit? (c : Char) : Option Nat :=
  if c.isDigit then some (c.toNat - 0x30)
  else if 'a' ≤ c && c ≤ 'z' then some (c.toNat - 0x57)
  else if 'A' ≤ c && c ≤ 'Z' then some (c.toNat - 0x37)
  else none

/-- The number at the front in a base, how many digits it has, and what follows. -/
def digits (base value count : Nat) : List Char → Nat × Nat × List Char
  | [] => (value, count, [])
  | c :: rest =>
    match digit? c with
    | some d =>
      if d < base then digits base (value * base + d) (count + 1) rest
      else (value, count, c :: rest)
    | none => (value, count, c :: rest)

/-- A number at the front in the base that its prefix tells, and what follows. A prefix without
a digit is a zero that other characters follow. -/
def prefixed? (cs : List Char) : Option (Nat × List Char) :=
  let based (base : Nat) (rest : List Char) : Option (Nat × List Char) :=
    match digits base 0 0 rest with
    | (_, 0, _) => some (0, cs.tail)
    | (n, _, rest) => some (n, rest)
  match cs with
  | '0' :: 'x' :: rest | '0' :: 'X' :: rest => based 16 rest
  | '0' :: 'b' :: rest | '0' :: 'B' :: rest => based 2 rest
  | '0' :: _ =>
    let (n, _, rest) := digits 8 0 0 cs
    some (n, rest)
  | _ =>
    match digits 10 0 0 cs with
    | (_, 0, _) => none
    | (n, _, rest) => some (n, rest)

def decimal? (cs : List Char) : Option (Nat × List Char) :=
  match digits 10 0 0 cs with
  | (_, 0, _) => none
  | (n, _, rest) => some (n, rest)

def isBlank (c : Char) : Bool :=
  c = ' ' || (9 ≤ c.toNat && c.toNat ≤ 13)

/-- A number at the front, after blanks and a sign, and what follows it. -/
def signed? (read : List Char → Option (Nat × List Char)) (cs : List Char) :
    Option (Int × List Char) :=
  match cs.dropWhile isBlank with
  | '-' :: rest => (read rest).map fun x => (-(x.1 : Int), x.2)
  | '+' :: rest => (read rest).map fun x => ((x.1 : Int), x.2)
  | rest => (read rest).map fun x => ((x.1 : Int), x.2)

/-- The number that a text is, but for blanks around it. -/
def whole? (read : List Char → Option (Nat × List Char)) (s : String) : Option Int := do
  let (n, rest) ← signed? read s.toList
  if rest.all isBlank then some n else none

/-- The number that a text is and that is held exactly. -/
def exactly? (read : List Char → Option (Nat × List Char)) (s : String) : Option Int := do
  let n ← whole? read s
  if n = clamp n then some n else none

/-- The number that decimal digits are and nothing else. -/
def count? (s : String) : Option Nat :=
  match decimal? s.toList with
  | some (n, []) => some n
  | _ => none

/-- A number in a base, with small letters for digits above nine. -/
def spell (base n : Nat) : String :=
  String.ofList (Nat.toDigits base n)

end PlcModule.Host.Numeral
