import PlcModule.Host.Numeral

/-! Numbers with a fraction, as programs read and write them: held in binary with a number of
significant bits, and written with a number of decimal places, half going to even. -/
namespace PlcModule.Host

/-- A fraction of counts. -/
structure Fraction where
  negative : Bool
  above : Nat
  below : Nat
  deriving DecidableEq, Repr

inductive Real where
  | finite (f : Fraction)
  | infinite (negative : Bool)
  | undefined
  deriving DecidableEq, Repr

namespace Fraction

def tens (n : Nat) : Nat :=
  Nat.pow 10 n

/-- A quotient rounded to the nearest count, half to even. -/
def nearest (above below : Nat) : Nat :=
  let q := above / below
  let r := above % below
  if 2 * r < below then q
  else if below < 2 * r then q + 1
  else q + q % 2

/-- How many bits a count has. -/
def bitCount (n : Nat) : Nat :=
  if n = 0 then 0 else Nat.log2 n + 1

/-- The nearest fraction with so many significant bits. -/
def toBits (bits : Nat) (f : Fraction) : Fraction :=
  if f.above = 0 then { f with below := 1 }
  else
    let size : Int := (bitCount f.above : Int) - bitCount f.below
    let at_ (shift : Int) : Nat :=
      if 0 ≤ shift then nearest (f.above <<< shift.toNat) f.below
      else nearest f.above (f.below <<< (-shift).toNat)
    let shift : Int := bits - size
    let shift := if bits < bitCount (at_ shift) then shift - 1 else shift
    let m := at_ shift
    if 0 ≤ shift then { f with above := m, below := 1 <<< shift.toNat }
    else { f with above := m <<< (-shift).toNat, below := 1 }

/-- Decimal digits, at least so many. -/
def padded (count n : Nat) : String :=
  let s := toString n
  String.ofList (List.replicate (count - s.length) '0') ++ s

/-- A number in units of the last of its decimal places. -/
def withPoint (places n : Nat) (keepsPoint : Bool) : String :=
  let digits := (padded (places + 1) n).toList
  let front := String.ofList (digits.take (digits.length - places))
  if places = 0 then front ++ (if keepsPoint then "." else "")
  else front ++ "." ++ String.ofList (digits.drop (digits.length - places))

def fixed (places : Nat) (keepsPoint : Bool) (f : Fraction) : String :=
  withPoint places (nearest (f.above * tens places) f.below) keepsPoint

/-- The digits of a number with so many places after the first, and the power of ten of the
first. -/
def significant (places : Nat) (f : Fraction) : Nat × Int :=
  if f.above = 0 then (0, 0)
  else
    let estimate : Int :=
      if f.below ≤ f.above then ((toString (f.above / f.below)).length : Int) - 1
      else -((toString (f.below / f.above)).length : Int)
    let at_ (power : Int) : Nat :=
      let shift : Int := places - power
      if 0 ≤ shift then nearest (f.above * tens shift.toNat) f.below
      else nearest f.above (f.below * tens (-shift).toNat)
    let n := at_ estimate
    if n < tens places then
      let m := at_ (estimate - 1)
      if m < tens (places + 1) then (m, estimate - 1) else (m / 10, estimate)
    else if n < tens (places + 1) then (n, estimate)
    else
      let m := at_ (estimate + 1)
      (m, estimate + 1)

def exponential (places : Nat) (keepsPoint : Bool) (f : Fraction) : String :=
  let (n, power) := significant places f
  withPoint places n keepsPoint ++ (if power < 0 then "e-" else "e+") ++ padded 2 power.natAbs

/-- Drops zeros at the end of the places, and a point without places. -/
def dropZeros (s : String) : String :=
  if s.contains '.' then
    let cs := s.toList.reverse.dropWhile (· = '0')
    String.ofList (if cs.head? = some '.' then cs.tail else cs).reverse
  else s

/-- Written with a power of ten only if it is very small or has more digits than asked for. -/
def general (digits : Nat) (keepsZeros : Bool) (f : Fraction) : String :=
  let digits := max digits 1
  let (_, power) := significant (digits - 1) f
  if -4 ≤ power && power < digits then
    let s := fixed ((digits : Int) - 1 - power).toNat keepsZeros f
    if keepsZeros then s else dropZeros s
  else
    let s := exponential (digits - 1) keepsZeros f
    if keepsZeros then s
    else match s.splitOn "e" with
      | [m, e] => dropZeros m ++ "e" ++ e
      | _ => s

end Fraction

namespace Real

/-- The most that an exponent counts for. -/
def exponentLimit : Nat := 6000

def ofDecimal (negative : Bool) (digits places : Nat) (exponent : Int) : Real :=
  let power : Int := exponent - places
  if 0 ≤ power then
    .finite ⟨negative, digits * Fraction.tens (min power.toNat exponentLimit), 1⟩
  else .finite ⟨negative, digits, Fraction.tens (min (-power).toNat exponentLimit)⟩

/-- The exponent at the front, if there is one. -/
def exponent : List Char → Int × List Char
  | e :: rest =>
    if e = 'e' || e = 'E' then
      match rest with
      | '-' :: ds => match Numeral.decimal? ds with
        | some (n, rest) => (-(n : Int), rest)
        | none => (0, e :: rest)
      | '+' :: ds => match Numeral.decimal? ds with
        | some (n, rest) => ((n : Int), rest)
        | none => (0, e :: rest)
      | ds => match Numeral.decimal? ds with
        | some (n, rest) => ((n : Int), rest)
        | none => (0, e :: rest)
    else (0, e :: rest)
  | [] => (0, [])

def startsWithWord (word : String) (cs : List Char) : Bool :=
  word.toList.isPrefixOf (cs.map Char.toLower)

/-- The number at the front, after blanks, and what follows it. -/
def read? (cs : List Char) : Option (Real × List Char) :=
  let cs := cs.dropWhile Numeral.isBlank
  let (negative, cs) := match cs with
    | '-' :: rest => (true, rest)
    | '+' :: rest => (false, rest)
    | _ => (false, cs)
  if startsWithWord "infinity" cs then some (.infinite negative, cs.drop 8)
  else if startsWithWord "inf" cs then some (.infinite negative, cs.drop 3)
  else if startsWithWord "nan" cs then some (.undefined, cs.drop 3)
  else
    let hexadecimal := match cs with
      | '0' :: x :: d :: _ => (x = 'x' || x = 'X') && (Numeral.digit? d).any (· < 16)
      | _ => false
    if hexadecimal then
      let (n, _, rest) := Numeral.digits 16 0 0 (cs.drop 2)
      some (.finite ⟨negative, n, 1⟩, rest)
    else
      let (whole, count, rest) := Numeral.digits 10 0 0 cs
      let (digits, places, rest) := match rest with
        | '.' :: after =>
          let (n, places, rest') := Numeral.digits 10 whole 0 after
          if count + places = 0 then (whole, 0, rest) else (n, places, rest')
        | _ => (whole, 0, rest)
      if count + places = 0 then none
      else
        let (e, rest) := exponent rest
        some (ofDecimal negative digits places e, rest)

end Real
end PlcModule.Host
