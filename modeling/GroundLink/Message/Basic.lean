import GroundLink.Frame.Error
import GroundLink.Message.ResultCode
import GroundLink.Time.Timestamp

/-!
# Messages

The payload of a serial frame is a command, a response or a log entry. Its first byte says which;
a fixed header follows, then a body that runs to the end of the payload.
-/

namespace GroundLink

/-- A command to the on-board computer. -/
structure Command where
  /-- Repeated by the response. -/
  seq : UInt8
  id : UInt16
  /-- When to execute. -/
  time : Timestamp
  args : Bytes
deriving DecidableEq, Repr

/-- The answer to a command. -/
structure ResponseMessage where
  seq : UInt8
  /-- A result byte and what it brings with it. -/
  body : Bytes
deriving DecidableEq, Repr

/-- An entry of the on-board log. -/
structure LogEntry where
  group : UInt8
  signal : UInt8
  timestamp : Timestamp
  data : Bytes
deriving DecidableEq, Repr

/-- A message of either direction. -/
inductive Message where
  | command (command : Command)
  | response (response : ResponseMessage)
  | log (entry : LogEntry)
deriving DecidableEq, Repr

namespace Command

/-- The bytes before the arguments. -/
def headerSize : Nat := 8

/-- The payload of a command. -/
def encode (c : Command) : Bytes :=
  1 :: c.seq :: (Bytes.ofUInt16 c.id ++ c.time.bytes ++ c.args)

/-- Read a payload as a command, whatever its type byte. -/
def decode (payload : Bytes) : Except WireError Command :=
  match payload with
  | _ :: seq :: id1 :: id0 :: t3 :: t2 :: t1 :: t0 :: args =>
    .ok ⟨seq, Bytes.toUInt16 [id1, id0], Timestamp.ofBytes [t3, t2, t1, t0], args⟩
  | _ => .error (.tooShort .command headerSize payload.length)

end Command

namespace ResponseMessage

/-- The bytes before the body. -/
def headerSize : Nat := 2

/-- The payload of a response. -/
def encode (r : ResponseMessage) : Bytes :=
  2 :: r.seq :: r.body

/-- Read a payload as a response, whatever its type byte. -/
def decode (payload : Bytes) : Except WireError ResponseMessage :=
  match payload with
  | _ :: seq :: body => .ok ⟨seq, body⟩
  | _ => .error (.tooShort .response headerSize payload.length)

/-- A response with a known result. -/
def ofResult (seq : UInt8) (result : ResultCode) (data : Bytes) : ResponseMessage :=
  ⟨seq, result.byte :: data⟩

/-- The acknowledgement of a command that was put on the schedule. -/
def ofSchedule (seq : UInt8) (uuid : UInt32) : ResponseMessage :=
  ofResult seq .scheduled (Bytes.ofUInt32 uuid)

/-- The result byte. -/
def resultByte? (r : ResponseMessage) : Option UInt8 :=
  r.body.head?

/-- What follows the result byte. -/
def data (r : ResponseMessage) : Bytes :=
  r.body.drop 1

/-- The number under which a command was put on the schedule. -/
def scheduledUuid? (r : ResponseMessage) : Option UInt32 :=
  if r.resultByte? = some ResultCode.scheduled.byte ∧ 4 ≤ r.data.length then
    some (Bytes.toUInt32 r.data)
  else none

end ResponseMessage

namespace LogEntry

/-- The bytes before the data. -/
def headerSize : Nat := 7

/-- The payload of a log entry. -/
def encode (e : LogEntry) : Bytes :=
  3 :: e.group :: e.signal :: (e.timestamp.bytes ++ e.data)

/-- Read a payload as a log entry, whatever its type byte. -/
def decode (payload : Bytes) : Except WireError LogEntry :=
  match payload with
  | _ :: group :: signal :: t3 :: t2 :: t1 :: t0 :: data =>
    .ok ⟨group, signal, Timestamp.ofBytes [t3, t2, t1, t0], data⟩
  | _ => .error (.tooShort .logEntry headerSize payload.length)

end LogEntry

namespace Message

/-- The payload of a message. -/
def encode : Message → Bytes
  | command c => c.encode
  | response r => r.encode
  | log e => e.encode

/-- Read a payload by its type byte. -/
def decode (payload : Bytes) : Except WireError Message :=
  match payload with
  | [] => .error .emptyPayload
  | tag :: _ =>
    if tag = 1 then (Command.decode payload).map command
    else if tag = 2 then (ResponseMessage.decode payload).map response
    else if tag = 3 then (LogEntry.decode payload).map log
    else .error (.unknownType tag)

end Message

/-- What the on-board computer puts before the response of a scheduled command, in the data of a
log entry. -/
structure ScheduledHeader where
  uuid : UInt32
  commandId : UInt16
  time : Timestamp
  flags : UInt8
deriving DecidableEq, Repr

namespace ScheduledHeader

/-- The bytes of a header. -/
def size : Nat := 11

/-- Whether the command failed on board: the lowest flag. -/
def failed (h : ScheduledHeader) : Bool :=
  h.flags &&& 1 != 0

/-- The bytes of a header. -/
def encode (h : ScheduledHeader) : Bytes :=
  Bytes.ofUInt32 h.uuid ++ Bytes.ofUInt16 h.commandId ++ h.time.bytes ++ [h.flags]

/-- Split data into its header and what follows it. -/
def decode (data : Bytes) : Except WireError (ScheduledHeader × Bytes) :=
  match data with
  | u3 :: u2 :: u1 :: u0 :: id1 :: id0 :: t3 :: t2 :: t1 :: t0 :: flags :: rest =>
    .ok (⟨Bytes.toUInt32 [u3, u2, u1, u0], Bytes.toUInt16 [id1, id0],
      Timestamp.ofBytes [t3, t2, t1, t0], flags⟩, rest)
  | _ => .error (.tooShort .scheduledHeader size data.length)

end ScheduledHeader

end GroundLink
