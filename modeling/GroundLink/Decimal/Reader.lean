import GroundLink.Binary.Double

/-!
# Reading doubles

A decimal is an optional sign, digits with at most one point among or around them, and an optional
exponent; the names of infinity and of the value that is no number are read in any letter case.
The result is the nearest double.
-/

namespace GroundLink.Decimal

/-- Why a text is not a double. -/
inductive ReadError where
  | empty
  | invalid
deriving DecidableEq, Repr

/-- The cause in words. -/
def ReadError.message : ReadError → String
  | .empty => "cannot parse float from empty string"
  | .invalid => "invalid float literal"

/-- The number written by decimal digits. -/
def digitsValue (digits : List Char) : Nat :=
  digits.foldl (fun acc c => acc * 10 + (c.toNat - 48)) 0

/-- An exponent part up to the end of the text; nothing at all stands for zero. -/
def readExponent? (text : List Char) : Option Int :=
  match text with
  | [] => some 0
  | mark :: rest =>
    if mark = 'e' ∨ mark = 'E' then
      let (negative, digits) := match rest with
        | '-' :: digits => (true, digits)
        | '+' :: digits => (false, digits)
        | digits => (false, digits)
      if digits.isEmpty || !digits.all Char.isDigit then none
      else some (if negative then -(digitsValue digits : Int) else digitsValue digits)
    else none

/-- An unsigned decimal or name. -/
def readMagnitude? (negative : Bool) (text : List Char) : Option Double :=
  let name := String.ofList (text.map Char.toLower)
  if name = "inf" ∨ name = "infinity" then some (Double.infinity negative)
  else if name = "nan" then some (if negative then Double.nan.neg else Double.nan)
  else
    let whole := text.takeWhile Char.isDigit
    let rest := text.dropWhile Char.isDigit
    let (fraction, tail) := match rest with
      | '.' :: rest => (rest.takeWhile Char.isDigit, rest.dropWhile Char.isDigit)
      | rest => ([], rest)
    if whole.isEmpty && fraction.isEmpty then none
    else
      (readExponent? tail).map fun exponent =>
        Double.ofDecimal negative (digitsValue (whole ++ fraction)) (exponent - fraction.length)

/-- Read a double. -/
def read (text : List Char) : Except ReadError Double :=
  let result := match text with
    | '-' :: rest => readMagnitude? true rest
    | '+' :: rest => readMagnitude? false rest
    | rest => readMagnitude? false rest
  match result with
  | some d => .ok d
  | none => .error (if text.isEmpty then .empty else .invalid)

end GroundLink.Decimal
