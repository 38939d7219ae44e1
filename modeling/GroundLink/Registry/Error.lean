import GroundLink.Field.List
import GroundLink.Registry.Basic

/-!
# Faults of definitions and look-ups

Why a registry cannot be built or finds nothing, and why the body of a command, a response or a log
entry disagrees with its definition.
-/

namespace GroundLink

/-- What is wrong with the form of a definition. -/
inductive DefinitionFault where
  /-- An entry of a list of fields is not one name with one type. -/
  | fieldEntry
  | responseWord (word : String)
  /-- Two signals of one group clash. -/
  | signals (clash : Clash)
deriving DecidableEq, Repr

/-- The fault in words. -/
def DefinitionFault.message : DefinitionFault → String
  | fieldEntry => "each field entry must be a single 'name: type' pair"
  | responseWord word => s!"unknown response keyword '{word}'"
  | signals c => c.message

/-- Why a registry cannot be built, or a look-up fails. -/
inductive SpecError where
  | clash (clash : Clash)
  | notFound (kind : EntryKind) (key : Key)
  /-- A known group has no such signal. -/
  | noSignal (key : Key) (group : String)
  /-- An id that is no number or too large. -/
  | invalidId (name value : String)
  | field (name : String) (error : FieldError)
  | definition (name : String) (fault : DefinitionFault)
  /-- Log data that does not fit the fields of its signal. -/
  | decode (name : String) (error : DecodeError)
  /-- A file that cannot be read. -/
  | unreadable (path reason : String)
  /-- A document that is malformed or has another form than is due. -/
  | malformed (source : String)
deriving DecidableEq, Repr

/-- The cause in words. -/
def SpecError.message : SpecError → String
  | clash c => c.message
  | notFound kind key => s!"{kind.text} {key.text} not found"
  | noSignal key group => s!"{EntryKind.logSignal.text} {key.text} in group '{group}' not found"
  | invalidId name value => s!"'{name}': invalid id '{value}'"
  | field name error => s!"'{name}': {error.message}"
  | definition name fault => s!"'{name}': {fault.message}"
  | decode name error => s!"'{name}': {error.message}"
  | unreadable path reason => s!"failed to read {path}: {reason}"
  | malformed source =>
    s!"failed to parse {source}: the document does not have the form that is due"

/-- Why a body does not fit the definition of its command. -/
inductive CommandError where
  | encode (command : String) (id : UInt16) (error : EncodeError)
  | decode (command : String) (id : UInt16) (error : DecodeError)
  | noResponse (command : String)
deriving DecidableEq, Repr

/-- The cause in words. -/
def CommandError.message : CommandError → String
  | encode command id error => s!"command '{command}' (id {id.toNat}): {error.message}"
  | decode command id error => s!"command '{command}' (id {id.toNat}) response: {error.message}"
  | noResponse command => s!"command '{command}' declares no response"

/-- Why a set of tasks is refused. -/
inductive TaskError where
  | idOutOfRange (name : String) (id limit : Nat)
  | nameTooLong (name : String) (length limit : Nat)
  | clash (clash : Clash)
deriving DecidableEq, Repr

/-- The cause in words. -/
def TaskError.message : TaskError → String
  | idOutOfRange name id limit => s!"task '{name}': id {id} out of range 0..={limit}"
  | nameTooLong name length limit =>
    s!"task '{name}': name is {length} characters, limit is {limit}"
  | clash c => c.message

/-- Why definitions cannot be loaded. -/
inductive LoadError where
  | spec (error : SpecError)
  | task (error : TaskError)
deriving DecidableEq, Repr

/-- The cause in words. -/
def LoadError.message : LoadError → String
  | spec cause => cause.message
  | task cause => cause.message

end GroundLink
