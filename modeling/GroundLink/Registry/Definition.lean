import GroundLink.Document.Basic
import GroundLink.Registry.Command
import GroundLink.Registry.Log
import GroundLink.Registry.Task

/-!
# Definitions in documents

A document is a dictionary of definitions by name. A definition is first read as it is written; this
fails where a part is missing, unknown or of the wrong sort. Then it is built, which may still find
an id, a field or a word at fault.
-/

namespace GroundLink

/-- An id as it is written: a number, or a text that spells one. -/
inductive WrittenId where
  | number (n : Nat)
  | text (written : String)
deriving DecidableEq, Repr

namespace WrittenId

/-- An id in a document. -/
def ofDocument? (d : Document) : Option WrittenId :=
  match d.meaning? with
  | some (.whole n) => if 0 ≤ n then some (number n.toNat) else none
  | some (.text written) => some (text written)
  | _ => none

/-- The id as it is written. -/
def display : WrittenId → String
  | number n => toString n
  | text written => written

/-- The number a text spells, decimal or marked as hexadecimal, in 64 bits. -/
def numberOf? (written : String) : Option Nat :=
  match Text.trim written.toList with
  | '0' :: 'x' :: digits => (Numeral.readUnsigned 16 64 digits).toOption
  | '0' :: 'X' :: digits => (Numeral.readUnsigned 16 64 digits).toOption
  | digits => (Numeral.readUnsigned 10 64 digits).toOption

/-- The number of an id that may be at most `limit`, for the definition of a name. -/
def resolve (written : WrittenId) (name : String) (limit : Nat) : Except SpecError Nat :=
  let n := match written with
    | number n => some n
    | text t => numberOf? t
  match n with
  | some n => if n ≤ limit then .ok n else .error (.invalidId name written.display)
  | none => .error (.invalidId name written.display)

end WrittenId

/-- Fields as they are written: each entry should name one field and its type. -/
abbrev WrittenFields := List (List (String × String))

/-- Fields in a document. -/
def WrittenFields.ofDocument? (d : Document) : Option WrittenFields := do
  let items ← d.items?
  items.mapM (Document.dictionary? Document.text?)

/-- The body of some written fields. -/
def WrittenFields.build (fields : WrittenFields) (name : String) (order : ByteOrder) :
    Except SpecError FieldList := do
  let fields ← fields.mapM fun entry =>
    match entry with
    | [(field, type)] => (Field.ofType field type order).mapError (SpecError.field name)
    | _ => .error (.definition name .fieldEntry)
  (FieldList.ofFields fields).mapError (SpecError.field name)

/-- A form of response as it is written. -/
inductive WrittenResponse where
  | fields (fields : WrittenFields)
  | word (word : String)

namespace WrittenResponse

/-- A form of response in a document. -/
def ofDocument? (d : Document) : Option WrittenResponse :=
  match d.plainItems? with
  | some items =>
    (items.mapM fun (item : Document) => item.plainTexts?.map Dictionary.ofList).map fields
  | none => d.plainText?.map word

/-- A written form of response, if any. -/
def build (written : Option WrittenResponse) (name : String) (order : ByteOrder) :
    Except SpecError ResponseForm :=
  match written with
  | none => .ok .none
  | some (fields list) => (WrittenFields.build list name order).map .fields
  | some (word w) =>
    if w.toLower = "raw" then .ok .raw else .error (.definition name (.responseWord w))

end WrittenResponse

/-- The definition of a command as it is written. -/
structure WrittenCommand where
  id : WrittenId
  description : String
  args : WrittenFields
  response : Option WrittenResponse

namespace WrittenCommand

/-- A command in a document. -/
def ofDocument? (d : Document) : Option WrittenCommand := do
  let parts ← d.parts? ["id", "description", "args", "resp"]
  let id ← (parts.lookup "id").bind WrittenId.ofDocument?
  let description ← Document.part parts "description" "" Document.text?
  let args ← Document.part parts "args" [] WrittenFields.ofDocument?
  let response ← Document.part parts "resp" none fun d => do
    match ← d.given? with
    | some d => (WrittenResponse.ofDocument? d).map some
    | none => some none
  some ⟨id, description, args, response⟩

/-- The definition of a command. -/
def build (written : WrittenCommand) (name : String) (order : ByteOrder) :
    Except SpecError CommandSpec := do
  let id ← written.id.resolve name 65535
  let args ← written.args.build name order
  let response ← WrittenResponse.build written.response name order
  pure ⟨name, UInt16.ofNat id, Text.trimmed written.description, args, response⟩

end WrittenCommand

/-- The definition of a signal as it is written. -/
structure WrittenSignal where
  id : WrittenId
  level : Level
  data : WrittenFields

namespace WrittenSignal

/-- A signal in a document. -/
def ofDocument? (d : Document) : Option WrittenSignal := do
  let parts ← d.parts? ["id", "level", "data"]
  let id ← (parts.lookup "id").bind WrittenId.ofDocument?
  let level ← Document.part parts "level" .info fun d => d.word?.bind Level.ofName?
  let data ← Document.part parts "data" [] WrittenFields.ofDocument?
  some ⟨id, level, data⟩

/-- The definition of a signal of a group. -/
def build (written : WrittenSignal) (group name : String) (order : ByteOrder) :
    Except SpecError SignalSpec := do
  let qualified := group ++ "." ++ name
  let id ← written.id.resolve qualified 255
  let data ← written.data.build qualified order
  pure ⟨name, UInt8.ofNat id, written.level, data⟩

end WrittenSignal

/-- The definition of a group as it is written. -/
structure WrittenGroup where
  id : WrittenId
  description : String
  signals : List (String × WrittenSignal)

namespace WrittenGroup

/-- A group in a document. -/
def ofDocument? (d : Document) : Option WrittenGroup := do
  let parts ← d.parts? ["id", "description", "signals"]
  let id ← (parts.lookup "id").bind WrittenId.ofDocument?
  let description ← Document.part parts "description" "" Document.text?
  let signals ← Document.part parts "signals" [] (Document.dictionary? WrittenSignal.ofDocument?)
  some ⟨id, description, signals⟩

/-- The definition of a group. -/
def build (written : WrittenGroup) (name : String) (order : ByteOrder) :
    Except SpecError LogGroup := do
  let id ← written.id.resolve name 255
  let signals ← written.signals.mapM fun (signal, definition) =>
    definition.build name signal order
  LogGroup.make name (UInt8.ofNat id) (Text.trimmed written.description) signals

end WrittenGroup

/-- The definition of a task as it is written. -/
structure WrittenTask where
  id : WrittenId
  stackSize : UInt32
  priority : UInt8

namespace WrittenTask

/-- A task in a document. -/
def ofDocument? (d : Document) : Option WrittenTask := do
  let parts ← d.parts? ["id", "stack_size", "priority"]
  let id ← (parts.lookup "id").bind WrittenId.ofDocument?
  let stackSize ← Document.part parts "stack_size" 0 (Document.natural? 4294967295)
  let priority ← Document.part parts "priority" 0 (Document.natural? 255)
  some ⟨id, UInt32.ofNat stackSize, UInt8.ofNat priority⟩

/-- The definition of a task. -/
def build (written : WrittenTask) (name : String) : Except LoadError TaskSpec := do
  let id ← (written.id.resolve name (2 ^ 64 - 1)).mapError .spec
  (TaskSpec.make name id written.stackSize written.priority).mapError .task

end WrittenTask

end GroundLink
