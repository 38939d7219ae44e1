import GroundLink.Registry.Error

/-!
# Definitions of log signals

The on-board computer logs signals, which belong to groups. A signal has a level and a body; a group
and a signal in it are each found by name or id.
-/

namespace GroundLink

/-- How serious a signal is. -/
inductive Level where
  | debug
  | info
  | warning
  | error
  | critical
deriving DecidableEq, Repr

namespace Level

/-- The name of a level. -/
def name : Level → String
  | debug => "debug"
  | info => "info"
  | warning => "warning"
  | error => "error"
  | critical => "critical"

/-- The level of a name. A warning has a short name as well. -/
def ofName? : String → Option Level
  | "debug" => some debug
  | "info" => some info
  | "warning" | "warn" => some warning
  | "error" => some error
  | "critical" => some critical
  | _ => none

end Level

/-- The definition of a signal. -/
structure SignalSpec where
  name : String
  id : UInt8
  level : Level
  data : FieldList

instance : Entry SignalSpec where
  name := SignalSpec.name
  id spec := spec.id.toNat

/-- The values in the data of a signal. -/
def SignalSpec.decode (spec : SignalSpec) (data : Bytes) : Except SpecError Record :=
  (spec.data.decode data).mapError (.decode spec.name)

/-- A group of signals. -/
structure LogGroup where
  name : String
  id : UInt8
  description : String
  signals : Registry SignalSpec

instance : Entry LogGroup where
  name := LogGroup.name
  id group := group.id.toNat

namespace LogGroup

/-- The group of some signals. -/
def make (name : String) (id : UInt8) (description : String) (signals : List SignalSpec) :
    Except SpecError LogGroup :=
  match Registry.ofList .logSignal signals with
  | .ok signals => .ok ⟨name, id, description, signals⟩
  | .error clash => .error (.definition name (.signals clash))

/-- The signal that a key names. -/
def signal (group : LogGroup) (key : Key) : Except SpecError SignalSpec :=
  match group.signals.find? key with
  | some spec => .ok spec
  | none => .error (.noSignal key group.name)

end LogGroup

/-- The log groups of the on-board computer. -/
abbrev Logs := Registry LogGroup

/-- The log groups of a list. -/
def Logs.ofList (groups : List LogGroup) : Except SpecError Logs :=
  (Registry.ofList .logGroup groups).mapError .clash

/-- The group that a key names. -/
def Registry.group (logs : Logs) (key : Key) : Except SpecError LogGroup :=
  match logs.find? key with
  | some group => .ok group
  | none => .error (.notFound .logGroup key)

/-- The group and the signal that two keys name. -/
def Registry.signal (logs : Logs) (group signal : Key) :
    Except SpecError (LogGroup × SignalSpec) := do
  let group ← logs.group group
  let spec ← group.signal signal
  pure (group, spec)

/-- The values in the data of a log entry. -/
def Registry.decodeLog (logs : Logs) (group signal : UInt8) (data : Bytes) :
    Except SpecError Record := do
  let (_, spec) ← logs.signal (.id group.toUInt32) (.id signal.toUInt32)
  spec.decode data

/-- The number of signals in all groups. -/
def Registry.signalCount (logs : Logs) : Nat :=
  logs.entries.foldl (fun total group => total + group.signals.size) 0

end GroundLink
