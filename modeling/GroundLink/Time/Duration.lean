import GroundLink.Power

/-!
# Lengths of time

A length of time is a number of nanoseconds. Its text is in the largest of seconds, milliseconds,
microseconds and nanoseconds of which there is at least one, with as many decimals as it needs.
-/

namespace GroundLink

/-- A length of time. -/
structure Duration where
  nanoseconds : Nat
deriving DecidableEq, Repr

namespace Duration

/-- A number of milliseconds. -/
def ofMilliseconds (n : Nat) : Duration :=
  ⟨n * 1000000⟩

/-- The decimals of `rest` parts of `10 ^ places`, without zeros at the end. -/
def decimals (places rest : Nat) : String :=
  let digits := (toString (10 ^ places + rest)).toList.drop 1
  let digits := (digits.reverse.dropWhile (· = '0')).reverse
  if digits = [] then "" else String.ofList ('.' :: digits)

/-- A length in units of `10 ^ places` nanoseconds. -/
def inUnits (d : Duration) (places : Nat) (unit : String) : String :=
  let size := 10 ^ places
  toString (d.nanoseconds / size) ++ decimals places (d.nanoseconds % size) ++ unit

/-- The text of a length of time. -/
def text (d : Duration) : String :=
  if 1000000000 ≤ d.nanoseconds then d.inUnits 9 "s"
  else if 1000000 ≤ d.nanoseconds then d.inUnits 6 "ms"
  else if 1000 ≤ d.nanoseconds then d.inUnits 3 "µs"
  else d.inUnits 0 "ns"

end Duration

end GroundLink
