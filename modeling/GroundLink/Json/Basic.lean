import GroundLink.Decimal.Text
import GroundLink.Dictionary
import GroundLink.Text.Unprintable

/-!
# Data documents in braces

The value tree of a JSON document and its compact text. Whole numbers and doubles are kept apart,
and the members of an object stay in their written order.
-/

namespace GroundLink

/-- A JSON value. -/
inductive Json where
  | null
  | bool (b : Bool)
  /-- A number without point and exponent. -/
  | int (n : Int)
  /-- Any other number. -/
  | double (d : Double)
  | string (text : String)
  | array (items : List Json)
  | object (members : List (String × Json))
deriving Repr, Inhabited

namespace Json

/-- One character inside a string. Only the closing mark, the backslash and controls are
escaped. -/
def escapedChar (c : Char) : String :=
  if c = '"' then "\\\""
  else if c = '\\' then "\\\\"
  else if c = '\n' then "\\n"
  else if c = '\r' then "\\r"
  else if c = '\t' then "\\t"
  else if c = '\x08' then "\\b"
  else if c = '\x0c' then "\\f"
  else if c.toNat < 0x20 then
    let digits := Nat.toDigits 16 c.toNat
    "\\u" ++ String.ofList (List.replicate (4 - digits.length) '0' ++ digits)
  else String.singleton c

/-- A string with its quotation marks. -/
def stringText (text : String) : String :=
  "\"" ++ text.foldl (fun acc c => acc ++ escapedChar c) "" ++ "\""

/-- The compact text of a value. A double without a finite value is written as null. -/
def text : Json → String
  | .null => "null"
  | .bool b => if b then "true" else "false"
  | .int n => toString n
  | .double d => (Decimal.compact? d).getD "null"
  | .string s => stringText s
  | .array items => "[" ++ ",".intercalate (itemTexts items) ++ "]"
  | .object members => "\x7b" ++ ",".intercalate (memberTexts members) ++ "\x7d"
where
  /-- The texts of array items. -/
  itemTexts : List Json → List String
    | [] => []
    | item :: rest => text item :: itemTexts rest
  /-- The texts of object members. -/
  memberTexts : List (String × Json) → List String
    | [] => []
    | (name, value) :: rest => (stringText name ++ ":" ++ text value) :: memberTexts rest

/-- The same value with the members of every object sorted by name, the last one of a name
standing. -/
def sorted : Json → Json
  | .array items => .array (sortedItems items)
  | .object members => .object (sortedMembers members [])
  | value => value
where
  /-- Sort inside array items. -/
  sortedItems : List Json → List Json
    | [] => []
    | item :: rest => sorted item :: sortedItems rest
  /-- Sort members into `acc`. -/
  sortedMembers : List (String × Json) → List (String × Json) → List (String × Json)
    | [], acc => acc
    | (name, value) :: rest, acc => sortedMembers rest (Dictionary.insert name (sorted value) acc)

/-- The member of an object with a name; the last one of several. -/
def member? (name : String) : Json → Option Json
  | .object members => (members.reverse.find? fun (other, _) => other == name).map Prod.snd
  | _ => none

end Json

end GroundLink
