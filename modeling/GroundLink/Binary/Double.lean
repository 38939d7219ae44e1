import GroundLink.Binary.Rounding

/-!
# Doubles

A double is held as its 64 bits, so that values with the same sign, exponent and fraction are the
same value and every operation is exact integer arithmetic followed by one rounding.
-/

namespace GroundLink

/-- A floating-point number of 64 bits, most significant bit the sign. -/
structure Double where
  bits : UInt64
deriving DecidableEq, Repr

namespace Double

open Binary

/-- A magnitude pattern with a sign. -/
def ofMagnitude (negative : Bool) (pattern : Nat) : Double :=
  ⟨UInt64.ofNat (if negative then 2 ^ 63 + pattern else pattern)⟩

/-- Whether the sign bit is set. -/
def isNegative (d : Double) : Bool :=
  2 ^ 63 ≤ d.bits.toNat

/-- The bits below the sign. -/
def magnitude (d : Double) : Nat :=
  d.bits.toNat % 2 ^ 63

/-- Whether the value is no number. -/
def isNaN (d : Double) : Bool :=
  Format.double.infinity < d.magnitude

/-- Whether the value is an infinity. -/
def isInfinite (d : Double) : Bool :=
  d.magnitude = Format.double.infinity

/-- Whether the value is a number other than the infinities. -/
def isFinite (d : Double) : Bool :=
  d.magnitude < Format.double.infinity

/-- The value that is no number, with the sign clear and the quiet bit alone set. -/
def nan : Double := ⟨0x7FF8000000000000⟩

/-- An infinity. -/
def infinity (negative : Bool) : Double :=
  ofMagnitude negative Format.double.infinity

/-- A zero. -/
def zero (negative : Bool) : Double :=
  ofMagnitude negative 0

/-- The same value with the other sign. -/
def neg (d : Double) : Double :=
  ⟨d.bits ^^^ 0x8000000000000000⟩

/-- The significand and the exponent of a finite value's magnitude. -/
def split (d : Double) : Nat × Int :=
  Format.double.split d.magnitude

/-- The double nearest to a ratio with a sign. -/
def ofRatio (negative : Bool) (num den : Nat) : Double :=
  ofMagnitude negative (roundRatio Format.double num den)

/-- The double nearest to an integer. -/
def ofInt (n : Int) : Double :=
  ofRatio (n < 0) n.natAbs 1

/-- The double nearest to `significand * 10 ^ exponent`. Exponents far outside the range of the
format are decided without computing the power. -/
def ofDecimal (negative : Bool) (significand : Nat) (exponent : Int) : Double :=
  if significand = 0 then zero negative
  else if 400 < exponent then infinity negative
  else if exponent + (Nat.toDigits 10 significand).length < -400 then zero negative
  else if 0 ≤ exponent then ofRatio negative (significand * 10 ^ exponent.toNat) 1
  else ofRatio negative significand (10 ^ (-exponent).toNat)

/-- The magnitude of a finite value as a ratio. -/
def ratio (d : Double) : Nat × Nat :=
  let (m, e) := d.split
  scaled m e

/-- The rounded product of two finite values. -/
def mul (a b : Double) : Double :=
  let (an, ad) := a.ratio
  let (bn, bd) := b.ratio
  ofRatio (a.isNegative != b.isNegative) (an * bn) (ad * bd)

/-- The rounded quotient of two finite values, the divisor not zero. -/
def div (a b : Double) : Double :=
  let (an, ad) := a.ratio
  let (bn, bd) := b.ratio
  ofRatio (a.isNegative != b.isNegative) (an * bd) (ad * bn)

/-- The value of 32 bits in the single format. A value that is no number keeps the leading bits of
its payload and becomes quiet. -/
def ofSingleBits (bits : UInt32) : Double :=
  let negative := decide (2 ^ 31 ≤ bits.toNat)
  let pattern := bits.toNat % 2 ^ 31
  if Format.single.infinity < pattern then
    let payload := (pattern - Format.single.infinity) * 2 ^ 29
    ofMagnitude negative (Format.double.infinity + payload ||| 2 ^ 51)
  else if pattern = Format.single.infinity then infinity negative
  else
    let (m, e) := Format.single.split pattern
    let (num, den) := scaled m e
    ofRatio negative num den

/-- The 32 bits of the nearest value of the single format. A value that is no number keeps the
leading bits of its payload and becomes quiet. -/
def toSingleBits (d : Double) : UInt32 :=
  let pattern :=
    if d.isNaN then
      (Format.single.infinity + (d.magnitude - Format.double.infinity) / 2 ^ 29) ||| 2 ^ 22
    else if d.isInfinite then Format.single.infinity
    else
      let (num, den) := d.ratio
      roundRatio Format.single num den
  UInt32.ofNat (if d.isNegative then 2 ^ 31 + pattern else pattern)

end Double

end GroundLink
