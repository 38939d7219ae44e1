import GroundLink.Frame.Error
import GroundLink.Link.Queue
import GroundLink.Message.ResultCode
import GroundLink.Time.Duration
import GroundLink.Registry.Error
import GroundLink.Trace

/-!
# Faults of a link

Why a link cannot be opened or used, and why a command gives no response.
-/

namespace GroundLink

/-- Why a link cannot be opened or used. -/
inductive LinkError where
  | alreadyConnected (device : String)
  | connect (device reason : String)
  | closed
  /-- The queue of what is to be sent is closed. -/
  | queue
  /-- A message that does not fit a frame. -/
  | framing (error : WireError)
  | settings (source reason : String)
  | specs (error : LoadError)
deriving DecidableEq, Repr

/-- The cause in words. -/
def LinkError.message : LinkError → String
  | alreadyConnected device => s!"device {device} is already connected"
  | connect device reason => s!"failed to connect to {device}: {reason}"
  | closed => "link closed"
  | queue => s!"outbound queue: {Queue.refusal}"
  | framing error => s!"framing: {error.message}"
  | settings source reason => s!"config {source}: {reason}"
  | specs error => error.message

/-- Why a command gives no response. -/
inductive ResponseError where
  /-- The command is not defined. -/
  | spec (error : SpecError)
  /-- A body that does not fit the definition. -/
  | body (error : CommandError)
  | link (command : String) (error : LinkError)
  /-- A response without a result. -/
  | short (command : String)
  | unknownResult (command : String) (code : UInt8)
  | rejected (command : String) (result : ResultCode)
  /-- A command that was to be scheduled was run. -/
  | notScheduled (command : String) (result : ResultCode)
  | timeout (command : String) (limit : Duration)
  | duplicateUuid (uuid : UInt32)
  /-- A scheduled command failed on board. -/
  | executionFailed (command : String) (uuid : UInt32) (code : Option UInt8)
  /-- The outcome of a scheduled command names another command. -/
  | commandMismatch (uuid : UInt32) (expected actual : UInt16)
  | unexpected (command reason : String)
  | trace (error : TraceError)
  | cancelled
deriving DecidableEq, Repr

namespace ResponseError

/-- The cause in words. -/
def message : ResponseError → String
  | spec error => error.message
  | body error => error.message
  | link command error => s!"command '{command}': {error.message}"
  | short command => s!"command '{command}': empty response body"
  | unknownResult command code =>
    s!"command '{command}': unknown result code 0x{Text.hexUpper 2 code.toNat}"
  | rejected command result => s!"command '{command}' rejected: {result.text}"
  | notScheduled command result =>
    s!"command '{command}': expected a scheduled acknowledgement, got {result.text}"
  | timeout command limit => s!"command '{command}': no response within {limit.text}"
  | duplicateUuid uuid => s!"scheduled uuid {uuid.toNat} is already pending"
  | executionFailed command uuid code =>
    let reason := match code with
      | some code => " with code 0x" ++ Text.hexUpper 2 code.toNat
      | none => ""
    s!"command '{command}' (uuid {uuid.toNat}) failed on board{reason}"
  | commandMismatch uuid expected actual =>
    s!"uuid {uuid.toNat}: response is for command id 0x{Text.hexUpper 4 actual.toNat}, expected " ++
      s!"0x{Text.hexUpper 4 expected.toNat}"
  | unexpected command reason => s!"command '{command}': unexpected response: {reason}"
  | trace error => error.message
  | cancelled => "client closed before the response arrived"

/-- The label under which a cause is counted. -/
def label : ResponseError → String
  | spec _ => "spec"
  | body _ => "codec"
  | link .. => "link"
  | short _ => "short"
  | unknownResult .. => "unknown_result"
  | rejected .. => "rejected"
  | notScheduled .. => "not_scheduled"
  | timeout .. => "timeout"
  | duplicateUuid _ => "duplicate_uuid"
  | executionFailed .. => "execution_failed"
  | commandMismatch .. => "command_mismatch"
  | unexpected .. => "unexpected_response"
  | trace _ => "trace"
  | cancelled => "cancelled"

end ResponseError

end GroundLink
