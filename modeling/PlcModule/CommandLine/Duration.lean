/-! How long something took, in the largest unit that it fills and with two places. -/
namespace PlcModule.CommandLine

/-- A quotient with two places, a half going up. -/
def twoPlaces (n divisor : Nat) : String :=
  let hundredths := (n * 200 + divisor) / (divisor * 2)
  let places := toString (hundredths % 100)
  toString (hundredths / 100) ++ "." ++ (if places.length < 2 then "0" else "") ++ places

def durationText (nanoseconds : Nat) : String :=
  if 1000000000 ≤ nanoseconds then twoPlaces nanoseconds 1000000000 ++ "s"
  else if 1000000 ≤ nanoseconds then twoPlaces nanoseconds 1000000 ++ "ms"
  else if 1000 ≤ nanoseconds then twoPlaces nanoseconds 1000 ++ "µs"
  else twoPlaces nanoseconds 1 ++ "ns"

end PlcModule.CommandLine
