import GroundLink.Json.Reader
import GroundLink.Text.Blank
import GroundLink.Yaml.Meaning

/-!
# Documents

A document is written as YAML or as JSON. The functions here look at one value of a document and say
what it is, by the rules of its format, when a certain sort of value is due; none of them gives
anything for a value of another sort.
-/

namespace GroundLink

/-- A value of a document. -/
inductive Document where
  | yaml (node : Yaml.Node)
  | json (value : Json)
deriving Inhabited

namespace Document

open Yaml (Meaning Node)

/-- Read a YAML text. A blank text is an empty mapping. -/
def ofYaml? (text : String) : Option Document :=
  if Text.trim text.toList = [] then some (.yaml (.mapping none []))
  else (Node.ofText? text).map yaml

/-- Read a JSON text. -/
def ofJson? (text : String) : Option Document :=
  match Json.read text with
  | .ok value => some (json value)
  | .error _ => none

/-- A text. Any YAML scalar is one. -/
def text? : Document → Option String
  | yaml (.scalar _ _ text) => some text
  | json (.string text) => some text
  | _ => none

/-- A whole number without a sign, up to a limit. -/
def natural? (limit : Nat) (d : Document) : Option Nat :=
  let n := match d with
    | yaml (.scalar tag style text) =>
      if Yaml.isLiteral "int" tag style then Yaml.naturalOf? 64 text.toList else none
    | json (.int n) => if 0 ≤ n then some n.toNat else none
    | _ => none
  n.filter (· ≤ limit)

/-- Whether a YAML node has no content and so stands for an empty collection. -/
def isBare : Node → Bool
  | .absent => true
  | .scalar _ .plain "" => true
  | _ => false

/-- A list of values. -/
def items? : Document → Option (List Document)
  | yaml (.sequence _ items) => some (items.map yaml)
  | yaml node => if isBare node then some [] else none
  | json (.array items) => some (items.map json)
  | _ => none

/-- Named values in written order. -/
def entries? : Document → Option (List (String × Document))
  | yaml (.mapping _ entries) =>
    entries.mapM fun (key, value) => (yaml key).text?.map fun name => (name, yaml value)
  | yaml node => if isBare node then some [] else none
  | json (.object members) => some (members.map fun (name, value) => (name, json value))
  | _ => none

/-- The named values of a definition whose parts are known. A part may not occur twice. In JSON the
values may also be listed without names. -/
def parts? (names : List String) (d : Document) : Option (List (String × Document)) :=
  match d with
  | json (.array items) =>
    if items.length ≤ names.length then some (names.zip (items.map json)) else none
  | _ => do
    let entries ← d.entries?
    let used := entries.map Prod.fst
    if used.all names.contains && decide used.Nodup then some entries else none

/-- The word of a choice. A private tag or a single member may name it, with nothing behind. -/
def word? : Document → Option String
  | yaml (.scalar tag style text) =>
    match tag.bind Yaml.Tag.word? with
    | none => some text
    | some word =>
      if style = .plain && (text = "" || Yaml.isNullText text) then some word else none
  | json (.string text) => some text
  | json (.object [(name, .null)]) => some name
  | _ => none

/-- The value itself, unless it stands for nothing. -/
def given? : Document → Option (Option Document)
  | yaml node => node.isNothing?.map fun nothing => if nothing then none else some (yaml node)
  | json .null => some none
  | json value => some (some (json value))

/-- What a scalar means where any sort of value may stand. -/
def meaning? : Document → Option Meaning
  | yaml (.scalar tag style text) => Meaning.ofScalar? tag style text
  | json (.string text) => some (.text text)
  | json (.int n) => some (.ofInt n)
  | json _ => some .other
  | _ => none

/-- A text where any sort of value may stand. -/
def plainText? (d : Document) : Option String :=
  match d.meaning? with
  | some (.text text) => some text
  | _ => none

/-- Whether a tag is private and so names a sort of value. -/
def isPrivate (tag : Option Yaml.Tag) : Bool :=
  (tag.bind Yaml.Tag.word?).isSome

/-- A list where any sort of value may stand. -/
def plainItems? : Document → Option (List Document)
  | yaml (.sequence tag items) => if isPrivate tag then none else some (items.map yaml)
  | json (.array items) => some (items.map json)
  | _ => none

/-- Named texts where any sort of value may stand. -/
def plainTexts? : Document → Option (List (String × String))
  | yaml (.mapping tag entries) =>
    if isPrivate tag then none
    else
      entries.mapM fun (key, value) => do
        let name ← (yaml key).plainText?
        let text ← (yaml value).plainText?
        some (name, text)
  | json (.object members) =>
    members.mapM fun (name, value) => (json value).plainText?.map fun text => (name, text)
  | _ => none

/-- The value of a part, or a default where the part is left out. -/
def part {α : Type} (parts : List (String × Document)) (name : String) (default : α)
    (read : Document → Option α) : Option α :=
  match parts.lookup name with
  | some d => read d
  | none => some default

/-- Every value of a dictionary; the last of several with one name stands, but all are read. -/
def dictionary? {α : Type} (read : Document → Option α) (d : Document) :
    Option (List (String × α)) := do
  let entries ← d.entries?
  let values ← entries.mapM fun (name, value) => (read value).map fun v => (name, v)
  some (Dictionary.ofList values)

end Document

end GroundLink
