import GroundLink.Power

/-!
# Integer numerals

A numeral is an optional sign and at least one digit of a given base, and nothing else. Reading
one checks it against the range of a target type from left to right, so the first offence decides
the cause.
-/

namespace GroundLink

/-- Why a text is not a numeral of the wanted range. -/
inductive NumeralError where
  | empty
  | badDigit
  | tooLarge
  | tooSmall
deriving DecidableEq, Repr

/-- The cause in words. -/
def NumeralError.message : NumeralError → String
  | .empty => "cannot parse integer from empty string"
  | .badDigit => "invalid digit found in string"
  | .tooLarge => "number too large to fit in target type"
  | .tooSmall => "number too small to fit in target type"

namespace Numeral

/-- The value of a digit: the ten decimal digits, then the Latin letters of either case. -/
def digitValue? (base : Nat) (c : Char) : Option Nat :=
  let value :=
    if '0' ≤ c ∧ c ≤ '9' then c.toNat - 48
    else if 'a' ≤ c ∧ c ≤ 'z' then c.toNat - 87
    else if 'A' ≤ c ∧ c ≤ 'Z' then c.toNat - 55
    else base
  if value < base then some value else none

/-- Read digits upwards from `acc`, staying at or below `limit`. -/
def readUp (base : Nat) (limit : Int) : (acc : Nat) → List Char → Except NumeralError Nat
  | acc, [] => .ok acc
  | acc, c :: rest =>
    match digitValue? base c with
    | none => .error .badDigit
    | some d =>
      let next := acc * base + d
      if (next : Int) ≤ limit then readUp base limit next rest else .error .tooLarge

/-- Read a numeral whose value lies between `low` and `high`. A minus sign is a sign only where
negative numbers are wanted. -/
def read (base : Nat) (low high : Int) (text : List Char) : Except NumeralError Int :=
  match text with
  | [] => .error .empty
  | ['+'] => .error .badDigit
  | ['-'] => .error .badDigit
  | '+' :: digits => (readUp base high 0 digits).map Int.ofNat
  | '-' :: digits =>
    if low < 0 then
      match readUp base (-low) 0 digits with
      | .ok n => .ok (-(n : Int))
      | .error .tooLarge => .error .tooSmall
      | .error cause => .error cause
    else .error .badDigit
  | digits => (readUp base high 0 digits).map Int.ofNat

/-- Read an unsigned number below `2 ^ bits`. -/
def readUnsigned (base bits : Nat) (text : List Char) : Except NumeralError Nat :=
  (read base 0 (2 ^ bits - 1) text).map Int.toNat

/-- Read a signed number of `bits` bits. -/
def readSigned (base bits : Nat) (text : List Char) : Except NumeralError Int :=
  read base (-(2 ^ (bits - 1))) (2 ^ (bits - 1) - 1) text

end Numeral

end GroundLink
