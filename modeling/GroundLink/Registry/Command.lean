import GroundLink.Field.Input
import GroundLink.Registry.Error

/-!
# Definitions of commands

A command has a name, an id, a body of arguments, and a form of response. Values and texts become a
body, and the body of a response becomes what the command answers.
-/

namespace GroundLink

/-- The form in which a command answers. -/
inductive ResponseForm where
  | none
  /-- Bytes without a meaning of their own. -/
  | raw
  | fields (list : FieldList)
deriving DecidableEq

/-- The form in words. -/
def ResponseForm.text : ResponseForm → String
  | none => "none"
  | raw => "raw"
  | fields list => list.text

/-- What a command answered. -/
inductive Response where
  | fields (record : Record)
  | raw (data : Bytes)
  /-- No response is declared and none came. -/
  | none
deriving Repr

namespace Response

/-- The values of a response with fields. -/
def record? : Response → Option Record
  | fields record => some record
  | _ => Option.none

/-- The bytes of a raw response. -/
def raw? : Response → Option Bytes
  | raw data => some data
  | _ => Option.none

/-- A response in words. -/
def display : Response → String
  | fields record => record.display
  | raw data => "0x" ++ Text.hex data
  | none => "(no response)"

/-- A response in a data document. -/
def toJson : Response → Json
  | fields record => record.toJson
  | raw data => (Value.bytes data).toJson
  | none => .null

end Response

/-- The definition of a command. -/
structure CommandSpec where
  name : String
  id : UInt16
  description : String
  args : FieldList
  response : ResponseForm
deriving DecidableEq

instance : Entry CommandSpec where
  name := CommandSpec.name
  id spec := spec.id.toNat

namespace CommandSpec

/-- A command as it is declared. -/
def text (spec : CommandSpec) : String :=
  spec.name ++ " (0x" ++ Text.hexUpper 4 spec.id.toNat ++ s!") args {spec.args.text} -> " ++
    spec.response.text

/-- Arguments that do not fit. -/
def refused (spec : CommandSpec) (error : EncodeError) : CommandError :=
  .encode spec.name spec.id error

/-- The body of a command with some arguments. -/
def encode (spec : CommandSpec) (values : List Value) : Except CommandError Bytes :=
  (spec.args.encode values).mapError spec.refused

/-- The values that a person typed, one text for each argument. -/
def read (spec : CommandSpec) (texts : List String) : Except CommandError (List Value) :=
  if texts.length ≠ spec.args.fields.length then
    .error (spec.refused (.valueCount spec.args.fields.length texts.length))
  else
    (spec.args.fields.zip texts).mapM fun (field, text) => (field.read text).mapError spec.refused

/-- The body of a command with arguments that a person typed. -/
def encodeTexts (spec : CommandSpec) (texts : List String) : Except CommandError Bytes := do
  let values ← spec.read texts
  spec.encode values

/-- The response in a body. -/
def decode (spec : CommandSpec) (body : Bytes) : Except CommandError Response :=
  match spec.response with
  | .none => .error (.noResponse spec.name)
  | .raw => .ok (.raw body)
  | .fields list =>
    ((list.decode body).map Response.fields).mapError (.decode spec.name spec.id)

/-- The response in the body of a command that succeeded: none is declared and none came, or one as
declared. -/
def decodeSuccess (spec : CommandSpec) (body : Bytes) : Except CommandError Response :=
  if spec.response = .none ∧ body = [] then .ok .none else spec.decode body

end CommandSpec

/-- The commands that the on-board computer knows. -/
abbrev Commands := Registry CommandSpec

/-- The commands of a list. -/
def Commands.ofList (specs : List CommandSpec) : Except SpecError Commands :=
  (Registry.ofList .command specs).mapError .clash

/-- The command that a key names. -/
def Registry.command (commands : Commands) (key : Key) : Except SpecError CommandSpec :=
  match commands.find? key with
  | some spec => .ok spec
  | none => .error (.notFound .command key)

end GroundLink
