import PlcModule.Document.Json
import PlcModule.Text.Lines

/-! Scalars of TOML documents that are written without quotes: booleans, numbers, dates and
times. The spelling is checked and kept; an integer has to fit into 128 bits, with a sign or
without, and a float has to lie in the range of double precision. -/
namespace PlcModule.Document.Toml

/-- At least one character of the class, with single underscores between characters. -/
def isRun (p : Char → Bool) (cs : List Char) : Bool :=
  (Text.splitAt '_' cs).all fun piece => !piece.isEmpty && piece.all p

def isHexDigit (c : Char) : Bool :=
  (Json.hexValue? c).isSome

def isSign (c : Char) : Bool :=
  c == '+' || c == '-'

def dropSign : List Char → List Char
  | c :: rest => if isSign c then rest else c :: rest
  | [] => []

/-- A decimal number without sign; a zero in front stands alone. -/
def isWhole (cs : List Char) : Bool :=
  isRun Char.isDigit cs && (cs.head? != some '0' || cs.length == 1)

/-- The number that digits of a base spell, other characters passed over. -/
def valueIn (base : Nat) (cs : List Char) : Nat :=
  (cs.filterMap Json.hexValue?).foldl (fun n d => n * base + d) 0

/-- The number that decimal digits spell, other characters passed over. -/
def digitsValue (cs : List Char) : Nat :=
  valueIn 10 (cs.filter Char.isDigit)

/-- The least number above those of 128 bits, and half of it. -/
def integerBound : Nat := Nat.pow 2 128

def signedBound : Nat := Nat.pow 2 127

/-- Digits of a base that spell a number in range. -/
def isInBase (base : Nat) (p : Char → Bool) (cs : List Char) : Bool :=
  isRun p cs && valueIn base cs < integerBound

def isInteger : List Char → Bool
  | '0' :: 'x' :: rest => isInBase 16 isHexDigit rest
  | '0' :: 'o' :: rest => isInBase 8 (fun c => '0' ≤ c && c ≤ '7') rest
  | '0' :: 'b' :: rest => isInBase 2 (fun c => c == '0' || c == '1') rest
  | '-' :: rest => isWhole rest && digitsValue rest ≤ signedBound
  | cs => isWhole (dropSign cs) && digitsValue cs < integerBound

/-- How many digits a number has when written in base ten. -/
def digitCount (n : Nat) : Nat :=
  (Nat.toDigits 10 n).length

/-- The least number that rounds to no finite double: half a unit above the largest. -/
def doubleBound : Nat := Nat.pow 2 1024 - Nat.pow 2 970

/-- Whether `mantissa · 10^exponent` is too large for a double. The count of its digits tells
unless it is near the bound. -/
def isTooLarge (mantissa : Nat) (exponent : Int) : Bool :=
  let size := digitCount mantissa + exponent
  if mantissa = 0 || size < 300 then false
  else if 312 < size then true
  else if 0 ≤ exponent then doubleBound ≤ mantissa * Nat.pow 10 exponent.toNat
  else doubleBound * Nat.pow 10 (-exponent).toNat ≤ mantissa

/-- A number with a point, an exponent or both. -/
def isDecimal (cs : List Char) : Bool :=
  let cs := dropSign cs
  let mantissa := cs.takeWhile fun c => c != 'e' && c != 'E'
  let power := cs.drop (mantissa.length + 1)
  let whole := mantissa.takeWhile fun c => c != '.'
  let places := mantissa.drop (whole.length + 1)
  let hasPower := mantissa.length < cs.length
  let hasPoint := whole.length < mantissa.length
  let powerValue : Int :=
    if power.head? == some '-' then -(digitsValue power : Int) else digitsValue power
  (hasPower || hasPoint) && isWhole whole && (!hasPoint || isRun Char.isDigit places) &&
    (!hasPower || isRun Char.isDigit (dropSign power)) &&
    !isTooLarge (digitsValue mantissa) (powerValue - (places.filter Char.isDigit).length)

def isFloat (cs : List Char) : Bool :=
  isDecimal cs || dropSign cs == ['i', 'n', 'f'] || dropSign cs == ['n', 'a', 'n']

/-- A number of exactly `count` digits in the range, and what follows it. -/
def field? (count low high : Nat) (cs : List Char) : Option (Nat × List Char) :=
  let digits := cs.take count
  let n := digitsValue digits
  if digits.length = count && digits.all Char.isDigit && low ≤ n && n ≤ high then
    some (n, cs.drop count)
  else none

/-- What follows a given character. -/
def after? (c : Char) : List Char → Option (List Char)
  | d :: rest => if d = c then some rest else none
  | [] => none

def daysIn (year month : Nat) : Nat :=
  if month = 2 then
    if year % 4 = 0 && (year % 100 != 0 || year % 400 = 0) then 29 else 28
  else if month = 4 || month = 6 || month = 9 || month = 11 then 30
  else 31

/-- What follows a date. -/
def afterDate? (cs : List Char) : Option (List Char) := do
  let (year, cs) ← field? 4 0 9999 cs
  let (month, cs) ← field? 2 1 12 (← after? '-' cs)
  let (_, cs) ← field? 2 1 (daysIn year month) (← after? '-' cs)
  some cs

/-- What follows hours and minutes. -/
def afterClock? (cs : List Char) : Option (List Char) := do
  let (_, cs) ← field? 2 0 23 cs
  let (_, cs) ← field? 2 0 59 (← after? ':' cs)
  some cs

/-- What follows a time of day, of which the seconds and their parts may be left out. -/
def afterTime? (cs : List Char) : Option (List Char) := do
  match ← afterClock? cs with
  | ':' :: rest =>
    let (_, cs) ← field? 2 0 60 rest
    match cs with
    | '.' :: rest =>
      let (_, cs) ← Json.digits? rest
      some cs
    | _ => some cs
  | cs => some cs

def isOffset : List Char → Bool
  | [] => true
  | c :: rest =>
    if c == 'Z' || c == 'z' then rest.isEmpty
    else isSign c && (afterClock? rest).any List.isEmpty

/-- A date, a time, or both with an offset that may be left out. -/
def isDate (cs : List Char) : Bool :=
  match afterDate? cs with
  | some [] => true
  | some (c :: rest) =>
    (c == 'T' || c == 't' || c == ' ') && (afterTime? rest).any isOffset
  | none => (afterTime? cs).any List.isEmpty

/-- The value of a spelling. -/
def scalar? (cs : List Char) : Option Value :=
  if cs = ['t', 'r', 'u', 'e'] then some (.boolean true)
  else if cs = ['f', 'a', 'l', 's', 'e'] then some (.boolean false)
  else if isInteger cs || isFloat cs then some (.number (String.ofList cs))
  else if isDate cs then some (.date (String.ofList cs))
  else none

end PlcModule.Document.Toml
