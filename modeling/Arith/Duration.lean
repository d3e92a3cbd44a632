/-!
# Durations

Spans of time in the largest unit that leaves a whole part, with as many
decimals as are needed.
-/

namespace Arith.Duration

/-- The decimals of `part`, padded to a number of places, after a point and without
trailing zeros.  A part of zero has none. -/
def decimals (part places : Nat) : String :=
  if part = 0 then ""
  else
    let digits := Nat.toDigits 10 part
    let padded := List.replicate (places - digits.length) '0' ++ digits
    "." ++ String.ofList (padded.reverse.dropWhile (· = '0')).reverse

/-- The text of a span of nanoseconds, in seconds, milliseconds, microseconds or
nanoseconds. -/
def render (nanos : Nat) : String :=
  if 1000000000 ≤ nanos then
    toString (nanos / 1000000000) ++ decimals (nanos % 1000000000) 9 ++ "s"
  else if 1000000 ≤ nanos then
    toString (nanos / 1000000) ++ decimals (nanos % 1000000) 6 ++ "ms"
  else if 1000 ≤ nanos then
    toString (nanos / 1000) ++ decimals (nanos % 1000) 3 ++ "µs"
  else
    toString nanos ++ "ns"

end Arith.Duration
