import GroundLink.Json.Basic
import GroundLink.Text.Hex
import GroundLink.Text.Quoted
import GroundLink.Time.Timestamp

/-!
# Values

What fields hold: scalars, bytes, texts, and arrays of values. A record gives each field of a body
its value, in field order.
-/

namespace GroundLink

/-- What a field holds. -/
inductive Value where
  | unsigned (n : UInt64)
  | signed (n : Int64)
  | float (d : Double)
  | bool (b : Bool)
  | timestamp (t : Timestamp)
  | bytes (data : Bytes)
  | text (s : String)
  | array (items : List Value)
deriving Repr, Inhabited

namespace Value

/-- The sort of a value in words. -/
def typeName : Value → String
  | unsigned _ => "unsigned integer"
  | signed _ => "signed integer"
  | float _ => "float"
  | bool _ => "bool"
  | timestamp _ => "datetime"
  | bytes _ => "bytes"
  | text _ => "string"
  | array _ => "array"

/-- The number an integer value stands for. -/
def int? : Value → Option Int
  | unsigned n => some n.toNat
  | signed n => some n.toInt
  | _ => none

/-- The number an integer value stands for, if it fits 64 bits without a sign. -/
def natural? (v : Value) : Option Nat :=
  v.int?.bind fun n => if 0 ≤ n then some n.toNat else none

/-- The double nearest to a number. -/
def double? : Value → Option Double
  | unsigned n => some (Double.ofInt n.toNat)
  | signed n => some (Double.ofInt n.toInt)
  | float d => some d
  | _ => none

/-- The truth value. -/
def bool? : Value → Option Bool
  | bool b => some b
  | _ => none

/-- The text. -/
def text? : Value → Option String
  | text s => some s
  | _ => none

/-- The bytes. -/
def bytes? : Value → Option Bytes
  | bytes data => some data
  | _ => none

/-- The items of an array. -/
def array? : Value → Option (List Value)
  | array items => some items
  | _ => none

/-- A value in words. -/
def display : Value → String
  | unsigned n => toString n.toNat
  | signed n => toString n.toInt
  | float d => Decimal.plain d
  | bool b => if b then "true" else "false"
  | timestamp t => t.text
  | bytes data => "0x" ++ Text.hex data
  | text s => Text.quoted s
  | array items => "[" ++ ", ".intercalate (displayAll items) ++ "]"
where
  /-- The items of an array in words. -/
  displayAll : List Value → List String
    | [] => []
    | v :: rest => display v :: displayAll rest

/-- A value in a data document: bytes are an array of numbers, a timestamp is its text. -/
def toJson : Value → Json
  | unsigned n => .int n.toNat
  | signed n => .int n.toInt
  | float d => .double d
  | bool b => .bool b
  | timestamp t => .string t.text
  | bytes data => .array (data.map fun byte => .int byte.toNat)
  | text s => .string s
  | array items => .array (toJsonAll items)
where
  /-- The items of an array in a data document. -/
  toJsonAll : List Value → List Json
    | [] => []
    | v :: rest => toJson v :: toJsonAll rest

end Value

/-- The values of a body by field name, in field order. -/
structure Record where
  entries : List (String × Value)
deriving Repr

namespace Record

/-- The value of a field. -/
def get? (r : Record) (name : String) : Option Value :=
  (r.entries.find? fun entry => entry.1 == name).map Prod.snd

/-- The values in field order. -/
def values (r : Record) : List Value :=
  r.entries.map Prod.snd

/-- A record in words. -/
def display (r : Record) : String :=
  let entries := r.entries.map fun (name, value) => name ++ ": " ++ value.display
  "\x7b" ++ ", ".intercalate entries ++ "\x7d"

/-- A record in a data document. -/
def toJson (r : Record) : Json :=
  let entries := r.entries.map fun (name, value) => Json.array [.string name, value.toJson]
  .object [("entries", .array entries)]

end Record

end GroundLink
