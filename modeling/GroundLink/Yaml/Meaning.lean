import GroundLink.Decimal.Reader
import GroundLink.Numeral
import GroundLink.Yaml.Node

/-!
# What scalars mean

A plain scalar that spells null, a truth value or a number means that; any other scalar is a text.
Whole numbers are decimal, or marked as hexadecimal, octal or binary. Digits behind a leading zero
are no number.
-/

namespace GroundLink.Yaml

/-- Whether a text spells null. -/
def isNullText (text : String) : Bool :=
  text = "null" || text = "Null" || text = "NULL" || text = "~"

/-- The truth value that a text spells. -/
def boolOf? (text : String) : Option Bool :=
  match text with
  | "true" | "True" | "TRUE" => some true
  | "false" | "False" | "FALSE" => some false
  | _ => none

/-- Whether a text starts with a sign. -/
def isSigned (text : List Char) : Bool :=
  text.head?.any fun c => c = '+' || c = '-'

/-- Whether a text is a leading zero with more digits behind it. -/
def isPadded (text : List Char) : Bool :=
  match if isSigned text then text.drop 1 else text with
  | '0' :: c :: rest => (c :: rest).all Char.isDigit
  | _ => false

/-- The base that a mark in front of digits names, and the digits. -/
def marked? (text : List Char) : Option (Nat × List Char) :=
  match text with
  | '0' :: 'x' :: digits => some (16, digits)
  | '0' :: 'o' :: digits => some (8, digits)
  | '0' :: 'b' :: digits => some (2, digits)
  | _ => none

/-- The number of at most `bits` bits that a text spells without a minus sign. -/
def naturalOf? (bits : Nat) (text : List Char) : Option Nat :=
  let unsigned := if text.head? = some '+' then text.drop 1 else text
  match marked? unsigned with
  | some (base, digits) =>
    if isSigned digits then none else (Numeral.readUnsigned base bits digits).toOption
  | none =>
    if isSigned unsigned || isPadded text then none
    else (Numeral.readUnsigned 10 bits unsigned).toOption

/-- The number of at most `bits` bits, with its sign, that a text spells behind a minus sign. -/
def negativeOf? (bits : Nat) (text : List Char) : Option Int :=
  match text with
  | '-' :: rest =>
    match marked? rest with
    | some (base, digits) => (Numeral.readSigned base bits ('-' :: digits)).toOption
    | none => if isPadded text then none else (Numeral.readSigned 10 bits text).toOption
  | _ => none

/-- Whether a text spells a number with a fraction, an exponent, or without a finite value. -/
def isFloatText (text : List Char) : Bool :=
  let unsigned := if text.head? = some '+' then text.drop 1 else text
  if text.head? = some '+' && isSigned unsigned then false
  else
    [".inf", ".Inf", ".INF"].contains (String.ofList unsigned) ||
      ["-.inf", "-.Inf", "-.INF", ".nan", ".NaN", ".NAN"].contains (String.ofList text) ||
      (match Decimal.read unsigned with
        | .ok d => d.isFinite
        | .error _ => false)

/-- What a scalar means where any sort of value may stand. -/
inductive Meaning where
  | text (text : String)
  /-- A whole number of 64 bits, with or without a sign. -/
  | whole (n : Int)
  /-- Null, a truth value, or any other number. -/
  | other
deriving DecidableEq, Repr

/-- A number as the meaning of a scalar. -/
def Meaning.ofInt (n : Int) : Meaning :=
  if -(2 ^ 63) ≤ n ∧ n < 2 ^ 64 then .whole n else .other

/-- The whole number that a text spells. -/
def wholeOf? (text : List Char) : Option Int :=
  match naturalOf? 128 text with
  | some n => some n
  | none => negativeOf? 128 text

/-- What a plain scalar means. -/
def Meaning.ofPlain (text : String) : Meaning :=
  if text = "" || isNullText text || (boolOf? text).isSome then .other
  else
    match wholeOf? text.toList with
    | some n => .ofInt n
    | none => if !isPadded text.toList && isFloatText text.toList then .other else .text text

/-- What a scalar means by its tag and its style. Private tags name no sort of value. -/
def Meaning.ofScalar? (tag : Option Tag) (style : Style) (text : String) : Option Meaning :=
  let untagged := if style = .plain then .ofPlain text else .text text
  match tag with
  | none => some untagged
  | some tag =>
    if tag.word?.isSome then none
    else if tag = .core "int" then (wholeOf? text.toList).map .ofInt
    else if tag = .core "bool" ∨ tag = .core "float" ∨ tag = .core "null" then some .other
    else if tag.isMarked then some untagged
    else some (.text text)

/-- Whether a scalar may be read as a number or truth value: it is plain, or has the tag and stands
in a literal block. -/
def isLiteral (sort : String) (tag : Option Tag) (style : Style) : Bool :=
  style = .plain || (style = .literal && tag = some (.core sort))

/-- Whether a node stands for nothing where a value is optional: it is plain, has no tag, and is
empty or spells null. A null tag on another text is refused, and any other tag says that there is a
value. -/
def Node.isNothing? : Node → Option Bool
  | .absent => some true
  | .scalar tag style text =>
    if style ≠ .plain then some false
    else
      match tag with
      | none => some (text = "" || isNullText text)
      | some tag =>
        if tag = .core "null" then (if isNullText text then some true else none) else some false
  | _ => some false

end GroundLink.Yaml
