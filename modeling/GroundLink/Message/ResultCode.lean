/-!
# Result codes

The first byte of a response body says how the command fared.
-/

namespace GroundLink

/-- How a command fared. -/
inductive ResultCode where
  | success
  | scheduled
  | invalidArguments
  | unknownCommand
  | scheduleFull
  | failed
  | busy
deriving DecidableEq, Repr

namespace ResultCode

/-- Every code, in the order of its byte. -/
def all : List ResultCode :=
  [success, scheduled, invalidArguments, unknownCommand, scheduleFull, failed, busy]

/-- The byte of a code. -/
def byte : ResultCode → UInt8
  | success => 0
  | scheduled => 1
  | invalidArguments => 2
  | unknownCommand => 3
  | scheduleFull => 4
  | failed => 5
  | busy => 6

/-- The code of a byte. -/
def ofByte? (byte : UInt8) : Option ResultCode :=
  all.find? fun code => code.byte = byte

/-- The code in words. -/
def text : ResultCode → String
  | success => "success"
  | scheduled => "scheduled"
  | invalidArguments => "invalid arguments"
  | unknownCommand => "unknown command"
  | scheduleFull => "schedule full"
  | failed => "execution failed"
  | busy => "busy"

end ResultCode

end GroundLink
