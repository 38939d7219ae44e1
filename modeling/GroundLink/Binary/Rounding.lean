import GroundLink.Power

/-!
# Rounding to a binary format

A format of the IEEE 754 interchange family is fixed by two widths. Its non-negative numbers, in
order, are numbered `0, 1, 2, …` by their bit patterns, and infinity follows the largest of them.
Rounding takes an exact ratio to the pattern of the nearest number, a tie to the even pattern.
-/

namespace GroundLink.Binary

/-- The widths of a binary interchange format. -/
structure Format where
  /-- Bits of significance, the leading one included. -/
  precision : Nat
  /-- Bits of the exponent field. -/
  exponentBits : Nat

/-- The 64-bit format. -/
def Format.double : Format := ⟨53, 11⟩

/-- The 32-bit format. -/
def Format.single : Format := ⟨24, 8⟩

namespace Format

variable (format : Format)

/-- The exponent of the smallest positive number. -/
def minExponent : Int :=
  3 - 2 ^ (format.exponentBits - 1) - format.precision

/-- The pattern of infinity. -/
def infinity : Nat :=
  (2 ^ format.exponentBits - 1) * 2 ^ (format.precision - 1)

/-- The significand and the exponent of a finite pattern: the number is `m * 2 ^ e`. -/
def split (pattern : Nat) : Nat × Int :=
  let unit := 2 ^ (format.precision - 1)
  let field := pattern / unit
  let fraction := pattern % unit
  if field = 0 then (fraction, format.minExponent)
  else (unit + fraction, format.minExponent + field - 1)

end Format

/-- The ratio `m * 2 ^ e` as a numerator and a denominator. -/
def scaled (m : Nat) (e : Int) : Nat × Nat :=
  if 0 ≤ e then (m * 2 ^ e.toNat, 1) else (m, 2 ^ (-e).toNat)

/-- The integer nearest to a ratio, a tie going to the even one. -/
def roundHalfEven (num den : Nat) : Nat :=
  let q := num / den
  let r := num % den
  if 2 * r < den then q
  else if den < 2 * r then q + 1
  else q + q % 2

/-- The greatest `k` with `2 ^ k ≤ num / den`, for positive arguments. -/
def floorLog2 (num den : Nat) : Int :=
  let guess : Int := (num.log2 : Int) - den.log2
  let (a, b) := scaled den guess
  if a ≤ num * b then guess else guess - 1

/-- The pattern of the number nearest to a ratio with a positive denominator. -/
def roundRatio (format : Format) (num den : Nat) : Nat :=
  if num = 0 then 0
  else
    let e := max (floorLog2 num den - (format.precision - 1)) format.minExponent
    let (a, b) := scaled den e
    let m := roundHalfEven (num * b) a
    let pattern := (e - format.minExponent).toNat * 2 ^ (format.precision - 1) + m
    min pattern format.infinity

end GroundLink.Binary
