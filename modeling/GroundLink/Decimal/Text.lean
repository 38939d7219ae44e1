import GroundLink.Decimal.Shortest

/-!
# Doubles as text

The two written forms of a double. The plain form never uses an exponent. The compact form is a
number of a data document: it always shows a point or an exponent, and it has no text for values
that are no finite number.
-/

namespace GroundLink.Decimal

/-- Digits with the point put `places` digits from the right, or zeros appended. -/
def positional (s : Scientific) : String :=
  let digits := Nat.toDigits 10 s.digits
  if 0 ≤ s.exponent then String.ofList (digits ++ List.replicate s.exponent.toNat '0')
  else
    let places := (-s.exponent).toNat
    let padded := List.replicate (places + 1 - digits.length) '0' ++ digits
    let whole := padded.length - places
    String.ofList (padded.take whole ++ '.' :: padded.drop whole)

/-- The exponent of the leading digit. -/
def Scientific.leading (s : Scientific) : Int :=
  s.exponent + digitCount s.digits - 1

/-- One digit, the others behind a point, and a signed exponent. -/
def exponential (s : Scientific) : String :=
  let digits := Nat.toDigits 10 s.digits
  let mantissa := match digits with
    | [] => ['0']
    | [d] => [d]
    | d :: rest => d :: '.' :: rest
  let sign := if s.leading < 0 then "-" else "+"
  String.ofList mantissa ++ "e" ++ sign ++ toString s.leading.natAbs

/-- The minus sign of a value whose sign bit is set. -/
def signText (d : Double) : String :=
  if d.isNegative then "-" else ""

/-- The plain form: shortest digits, no exponent, no point for whole numbers. Of two equally near
decimals the larger is written. -/
def plain (d : Double) : String :=
  if d.isNaN then "NaN"
  else if d.isInfinite then signText d ++ "inf"
  else if d.magnitude = 0 then signText d ++ "0"
  else signText d ++ positional (shortest .up d)

/-- The compact form: positional from `1e-5` up to below `1e16`, otherwise with an exponent. Of two
equally near decimals the even one is written. -/
def compact? (d : Double) : Option String :=
  if !d.isFinite then none
  else if d.magnitude = 0 then some (signText d ++ "0.0")
  else
    let s := shortest .toEven d
    let text :=
      if -5 ≤ s.leading ∧ s.leading < 16 then
        if 0 ≤ s.exponent then positional s ++ ".0" else positional s
      else exponential s
    some (signText d ++ text)

end GroundLink.Decimal
