import GroundLink.Field.Basic
import GroundLink.Field.Value

/-!
# Values into bytes

A scalar takes the bytes of its kind in the byte order of the field; an array takes those of its
items, one after another, rows first. The first value that does not conform, in that order, decides
the error.
-/

namespace GroundLink

/-- Why a value cannot be encoded, or a text is no value. -/
inductive EncodeError where
  | typeMismatch (field type actual : String)
  | outOfRange (field value : String) (kind : Kind)
  /-- A value where an array is due. -/
  | notAnArray (field : String) (shape : List UInt64) (actual : String)
  /-- An array of the wrong length. -/
  | wrongLength (field : String) (shape : List UInt64) (expected : UInt64) (actual : Nat)
  | valueCount (expected actual : Nat)
  | malformed (field input reason : String)
  /-- A size or a number is out of the range in which the program counts. This is no answer: the
  program stops. -/
  | overflow
deriving DecidableEq, Repr

/-- The cause in words. -/
def EncodeError.message : EncodeError → String
  | typeMismatch field type actual => s!"field '{field}': expected {type}, got {actual}"
  | outOfRange field value kind => s!"field '{field}': value {value} out of range for {kind.name}"
  | notAnArray field shape actual =>
    s!"field '{field}': expected array shape {shapeText shape}, got {actual}"
  | wrongLength field shape expected actual =>
    s!"field '{field}': expected array shape {shapeText shape}, " ++
      s!"dimension of length {expected.toNat} got {actual} elements"
  | valueCount expected actual => s!"expected {expected} values, got {actual}"
  | malformed field input reason => s!"field '{field}': cannot parse '{input}': {reason}"
  | overflow => overflowText

/-- Reserve a buffer. There is none of 2⁶³ bytes or more: asking for it stops the program. For a
smaller one there is always memory. -/
def reserve (size : UInt64) : Except EncodeError Unit :=
  if size.toNat < 2 ^ 63 then .ok () else .error .overflow

namespace Field

/-- The lowest `width` bytes of a number in the byte order of the field. -/
def wordBytes (field : Field) (width n : Nat) : Bytes :=
  match field.order with
  | .big => Bytes.ofNat width n
  | .little => (Bytes.ofNat width n).reverse

/-- A value of another sort than the field holds. -/
def mismatch (field : Field) (value : Value) : EncodeError :=
  .typeMismatch field.name field.typeText value.typeName

/-- An integer of `width` bytes between two bounds, negative numbers in two's complement. -/
def encodeInt (field : Field) (width : Nat) (low high : Int) (n : Int) :
    Except EncodeError Bytes :=
  if low ≤ n ∧ n ≤ high then .ok (field.wordBytes width (n % 2 ^ (8 * width)).toNat)
  else .error (.outOfRange field.name (toString n) field.kind)

/-- A scalar. Number fields take any number, timestamp fields also take a count of seconds. -/
def encodeScalar (field : Field) (value : Value) : Except EncodeError Bytes :=
  match field.kind with
  | .unsigned w =>
    match value.int? with
    | some n => field.encodeInt w.bytes 0 (2 ^ w.bits - 1) n
    | none => .error (field.mismatch value)
  | .signed w =>
    match value.int? with
    | some n => field.encodeInt w.bytes (-(2 ^ (w.bits - 1))) (2 ^ (w.bits - 1) - 1) n
    | none => .error (field.mismatch value)
  | .float32 =>
    match value.double? with
    | some d => .ok (field.wordBytes 4 d.toSingleBits.toNat)
    | none => .error (field.mismatch value)
  | .float64 =>
    match value.double? with
    | some d => .ok (field.wordBytes 8 d.bits.toNat)
    | none => .error (field.mismatch value)
  | .bool =>
    match value with
    | .bool b => .ok [if b then 1 else 0]
    | _ => .error (field.mismatch value)
  | .timestamp =>
    match value with
    | .timestamp t => .ok (field.wordBytes 4 t.seconds.toNat)
    | _ =>
      match value.int? with
      | some n => field.encodeInt 4 0 (2 ^ 32 - 1) n
      | none => .error (field.mismatch value)
  | .bytes =>
    match value with
    | .bytes data => .ok data
    | _ => .error (field.mismatch value)
  | .text =>
    match value with
    | .text s => .ok (utf8 s)
    | _ => .error (field.mismatch value)

/-- A value nested as the remaining dimensions say. -/
def encodeShape (field : Field) : List UInt64 → Value → Except EncodeError Bytes
  | [], value => field.encodeScalar value
  | dimension :: rest, .array items =>
    if items.length = dimension.toNat then do
      let parts ← items.mapM (encodeShape field rest)
      pure parts.flatten
    else .error (.wrongLength field.name field.shape dimension items.length)
  | _ :: _, value => .error (.notAnArray field.name field.shape value.typeName)

/-- The bytes of a value, to be appended to those of other fields. -/
def encodeInto (field : Field) (value : Value) : Except EncodeError Bytes :=
  field.encodeShape field.shape value

/-- The bytes of a value. The buffer for them is reserved before the value is looked at. -/
def encode (field : Field) (value : Value) : Except EncodeError Bytes :=
  match field.byteSize with
  | none => .error .overflow
  | some size => do
    reserve size
    field.encodeInto value

end Field

end GroundLink
