import GroundLink.Decimal.Reader
import GroundLink.Field.Encode
import GroundLink.Json.Reader

/-!
# Text into values

What a person types for a field, or writes for it in a data document. Scalars have a notation of
their kind; arrays are written as in a JSON document.
-/

namespace GroundLink.Field

/-- A text that is no value of the field. -/
def malformed (field : Field) (input reason : String) : EncodeError :=
  .malformed field.name input reason

/-- The magnitude of an integer: hexadecimal behind a mark, decimal otherwise. -/
def readMagnitude (digits : List Char) : Except NumeralError Int :=
  match digits with
  | '0' :: 'x' :: hex => Numeral.readSigned 16 128 hex
  | '0' :: 'X' :: hex => Numeral.readSigned 16 128 hex
  | decimal => Numeral.readSigned 10 128 decimal

/-- A number of 128 bits as a value. Numbers that fit 64 bits without a sign are unsigned values. -/
def narrow (field : Field) (text : String) (n : Int) : Except EncodeError Value :=
  if 0 ≤ n ∧ n < 2 ^ 64 then .ok (.unsigned (UInt64.ofNat n.toNat))
  else if -(2 ^ 63) ≤ n ∧ n < 2 ^ 63 then .ok (.signed (Int64.ofInt n))
  else .error (.outOfRange field.name text field.kind)

/-- An integer behind at most one leading minus sign. The lowest number of 128 bits has no opposite:
behind a minus sign it stops the program. -/
def readInt (field : Field) (text : String) : Except EncodeError Value :=
  let magnitude (digits : List Char) :=
    (readMagnitude digits).mapError fun cause => field.malformed text cause.message
  match text.toList with
  | '-' :: digits => do
    let n ← magnitude digits
    if n = -(2 ^ 127) then .error .overflow else field.narrow text (-n)
  | digits => do
    let n ← magnitude digits
    field.narrow text n

/-- A scalar in the notation of the field's kind, without blanks around it. -/
def readScalar (field : Field) (text : String) : Except EncodeError Value :=
  match field.kind with
  | .unsigned _ | .signed _ => field.readInt text
  | .float32 | .float64 =>
    match Decimal.read text.toList with
    | .ok d => .ok (.float d)
    | .error cause => .error (field.malformed text cause.message)
  | .bool =>
    match text.toLower with
    | "true" | "1" | "yes" | "on" => .ok (.bool true)
    | "false" | "0" | "no" | "off" => .ok (.bool false)
    | _ => .error (field.malformed text "expected true or false")
  | .timestamp =>
    match Timestamp.read text with
    | .ok t => .ok (.timestamp t)
    | .error cause => .error (field.malformed text cause.message)
  | .bytes =>
    let digits := match text.toList with
      | '0' :: 'x' :: rest => String.ofList rest
      | _ => text
    match Text.readHex digits with
    | .ok data => .ok (.bytes data)
    | .error cause => .error (field.malformed text cause.message)
  | .text => .ok (.text text)

/-- A value from a data document. Numbers keep their own sort unless the field holds floats, and
texts are read in the notation of the field's kind. -/
def ofJson (field : Field) : Json → Except EncodeError Value
  | .array items => do
    let values ← ofJsonItems items
    pure (.array values)
  | .bool b => .ok (.bool b)
  | .int n =>
    if field.kind.isFloat then .ok (.float (Double.ofInt n))
    else if 0 ≤ n then .ok (.unsigned (UInt64.ofNat n.toNat))
    else .ok (.signed (Int64.ofInt n))
  | .double d => .ok (.float d)
  | .string s => field.readScalar s
  | .null => .error (field.malformed Json.null.text "unsupported JSON value")
  | .object members =>
    .error (field.malformed (Json.object members).sorted.text "unsupported JSON value")
where
  /-- The items of an array, up to the first that is no value. -/
  ofJsonItems : List Json → Except EncodeError (List Value)
    | [] => .ok []
    | item :: rest => do
      let value ← ofJson field item
      let values ← ofJsonItems rest
      pure (value :: values)

/-- A value from what a person types: a document for an array, otherwise a scalar with blanks
around it. -/
def read (field : Field) (text : String) : Except EncodeError Value :=
  if field.isArray then
    match Json.read text with
    | .ok document => field.ofJson document
    | .error reason => .error (field.malformed text reason)
  else field.readScalar (Text.trimmed text)

end GroundLink.Field
