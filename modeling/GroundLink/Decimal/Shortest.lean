import GroundLink.Binary.Double

/-!
# Shortest decimals

The shortest decimal that reads back as a given double: of all decimals that round to the double,
one with the fewest significant digits, and of those the nearest. Two of them may be equally near;
which one is taken is a choice of the format that prints the digits.

The decimals that round to a double fill an interval around it, closed when the significand is
even. If a decimal with `n` digits lies in the interval, then one of the two neighbours of the
double on that decimal grid does, so only these two are tried for each `n`.
-/

namespace GroundLink.Decimal

open Binary

/-- A positive decimal: the value is `digits * 10 ^ exponent`. -/
structure Scientific where
  digits : Nat
  exponent : Int
deriving DecidableEq, Repr

/-- Which of two equally near decimals is taken. -/
inductive Tie where
  /-- The one whose last digit is even. -/
  | toEven
  /-- The larger one. -/
  | up
deriving DecidableEq, Repr

/-- The number of decimal digits of a number. -/
def digitCount (n : Nat) : Nat :=
  (Nat.toDigits 10 n).length

/-- The greatest `k` with `10 ^ k ≤ num / den`, for positive arguments. -/
def floorLog10 (num den : Nat) : Int :=
  if den ≤ num then (digitCount (num / den) : Int) - 1
  else
    let size := digitCount (den / num)
    if den ≤ num * 10 ^ (size - 1) then -((size : Int) - 1) else -(size : Int)

/-- A positive ratio between two bounds that are part of the interval or not. -/
structure Interval where
  low : Nat
  value : Nat
  high : Nat
  /-- The common denominator of the three. -/
  den : Nat
  closed : Bool

/-- The decimals that round to the magnitude of a finite double other than zero. Below a power of
two the spacing halves. -/
def Interval.around (d : Double) : Interval :=
  let (m, e) := d.split
  let below := if m = 2 ^ 52 ∧ Format.double.minExponent < e then 1 else 2
  let (unit, den) := scaled 1 (e - 2)
  { low := (4 * m - below) * unit, value := 4 * m * unit, high := (4 * m + 2) * unit
    den := den, closed := m % 2 = 0 }

/-- Whether a ratio lies in the interval. -/
def Interval.holds (i : Interval) (num den : Nat) : Bool :=
  if i.closed then i.low * den ≤ num * i.den && num * i.den ≤ i.high * den
  else i.low * den < num * i.den && num * i.den < i.high * den

/-- The best decimal of the interval on the grid of multiples of `10 ^ k`. -/
def Interval.onGrid (i : Interval) (tie : Tie) (k : Int) : Option Scientific :=
  let (gridNum, gridDen) := if 0 ≤ k then (10 ^ k.toNat, 1) else (1, 10 ^ (-k).toNat)
  let num := i.value * gridDen
  let den := i.den * gridNum
  let lower := num / den
  let upper := lower + 1
  let fits (n : Nat) : Bool := n != 0 && i.holds (n * gridNum) gridDen
  let twice := 2 * (num % den)
  let upperWins : Bool :=
    if twice = den then
      match tie with
      | .toEven => lower % 2 = 1
      | .up => true
    else den < twice
  match fits lower, fits upper with
  | true, true => some ⟨if upperWins then upper else lower, k⟩
  | true, false => some ⟨lower, k⟩
  | false, true => some ⟨upper, k⟩
  | false, false => none

/-- Without the zeros at the end of the digits. -/
def Scientific.strip (fuel : Nat) (s : Scientific) : Scientific :=
  match fuel with
  | 0 => s
  | fuel + 1 =>
    if s.digits % 10 = 0 ∧ s.digits ≠ 0 then strip fuel ⟨s.digits / 10, s.exponent + 1⟩ else s

/-- The shortest decimal of a finite double other than zero. Seventeen digits always suffice. -/
def shortest (tie : Tie) (d : Double) : Scientific :=
  let i := Interval.around d
  let top := floorLog10 i.value i.den
  let grids := (List.range 17).map fun (n : Nat) => top - n
  match grids.findSome? (i.onGrid tie) with
  | some s => s.strip 17
  | none => ⟨0, 0⟩

end GroundLink.Decimal
