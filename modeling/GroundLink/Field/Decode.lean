import GroundLink.Field.Basic
import GroundLink.Field.Value

/-!
# Bytes into values

A field of fixed size takes exactly its bytes. A field of variable length takes all it is given; a
text loses the zero bytes at its end first.
-/

namespace GroundLink

/-- Why bytes cannot be decoded. -/
inductive DecodeError where
  /-- A field is given the wrong number of bytes. -/
  | length (field : String) (expected : UInt64) (actual : Nat)
  /-- A body is shorter than its fields of fixed size. -/
  | tooShort (expected : UInt64) (actual : Nat)
  /-- A body of fixed size has another size. -/
  | lengthMismatch (expected : UInt64) (actual : Nat)
  | invalidText (field : String)
  /-- A size does not fit its word. This is no answer: the program stops. -/
  | overflow
deriving DecidableEq, Repr

/-- The cause in words. -/
def DecodeError.message : DecodeError → String
  | length field expected actual =>
    s!"field '{field}': expected {expected.toNat} bytes, got {actual}"
  | tooShort expected actual =>
    s!"message too short: expected at least {expected.toNat} bytes, got {actual}"
  | lengthMismatch expected actual =>
    s!"message length mismatch: expected {expected.toNat} bytes, got {actual}"
  | invalidText field => s!"field '{field}': invalid UTF-8"
  | overflow => overflowText

namespace Field

/-- The number that bytes write in the byte order of the field. -/
def word (field : Field) (data : Bytes) : Nat :=
  match field.order with
  | .big => Bytes.toNat data
  | .little => Bytes.toNat data.reverse

/-- A number of `bits` bits in two's complement. -/
def twosComplement (bits n : Nat) : Int :=
  if n < 2 ^ (bits - 1) then n else (n : Int) - 2 ^ bits

/-- A scalar from its bytes. -/
def decodeScalar (field : Field) (data : Bytes) : Value :=
  let n := field.word data
  match field.kind with
  | .unsigned _ => .unsigned (UInt64.ofNat n)
  | .signed w => .signed (Int64.ofInt (twosComplement w.bits n))
  | .float32 => .float (Double.ofSingleBits (UInt32.ofNat n))
  | .float64 => .float ⟨UInt64.ofNat n⟩
  | .bool => .bool (n != 0)
  | .timestamp => .timestamp ⟨UInt32.ofNat n⟩
  | .bytes | .text => .bytes data

/-- A value nested as the remaining dimensions say. -/
def decodeShape (field : Field) : List UInt64 → Bytes → Value
  | [], data => field.decodeScalar data
  | dimension :: rest, data =>
    .array ((Bytes.pieces (data.length / dimension.toNat) data).map (decodeShape field rest))

/-- The value of a field from its bytes. -/
def decode (field : Field) (data : Bytes) : Except DecodeError Value :=
  match field.kind with
  | .bytes => .ok (.bytes data)
  | .text =>
    match ofUtf8? (Bytes.trimZeros data) with
    | some s => .ok (.text s)
    | none => .error (.invalidText field.name)
  | _ =>
    match field.byteSize with
    | none => .error .overflow
    | some size =>
      if data.length = size.toNat then .ok (field.decodeShape field.shape data)
      else .error (.length field.name size data.length)

/-- How many of the bytes that are left a field takes: its size, or all of them. -/
def span (field : Field) (left : Nat) : Except DecodeError Nat :=
  if field.isVariable then .ok left
  else
    match field.byteSize with
    | none => .error .overflow
    | some size => .ok size.toNat

end Field

end GroundLink
