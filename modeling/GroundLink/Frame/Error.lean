import GroundLink.Text.Hex

/-!
# Faults of frames and messages

Why a byte string is not a frame, or a payload not a message. The wording of each cause is fixed,
and `WireError.reason` sorts the causes into the classes that are counted.
-/

namespace GroundLink

/-- What a byte string is read as. -/
inductive WirePart where
  | serialFrame
  | relayFrame
  | command
  | response
  | logEntry
  | scheduledHeader
deriving DecidableEq, Repr

/-- The name of a part. -/
def WirePart.name : WirePart → String
  | .serialFrame => "serial frame"
  | .relayFrame => "relay frame"
  | .command => "command"
  | .response => "response"
  | .logEntry => "log entry"
  | .scheduledHeader => "command message header"

/-- Why a byte string is not a frame, or a payload not a message. -/
inductive WireError where
  /-- Fewer bytes than the fixed part takes. -/
  | tooShort (part : WirePart) (expected actual : Nat)
  /-- The first two bytes are not the mark of the framing. -/
  | badSync (expected actual : UInt8 × UInt8)
  /-- More payload than the framing or the link carries. -/
  | payloadTooLong (limit actual : Nat)
  /-- The length byte disagrees with the bytes that follow. -/
  | lengthMismatch (declared actual : Nat)
  /-- The checksum disagrees with the payload. -/
  | checksumMismatch (computed received : UInt16)
  /-- The first payload byte names no message type. -/
  | unknownType (tag : UInt8)
  /-- A payload without a type byte. -/
  | emptyPayload
deriving DecidableEq, Repr

namespace WireError

open Text in
/-- The two bytes of a mark. -/
private def markText (mark : UInt8 × UInt8) : String :=
  "[" ++ hexUpper 2 mark.1.toNat ++ ", " ++ hexUpper 2 mark.2.toNat ++ "]"

open Text in
/-- The cause in words. -/
def message : WireError → String
  | tooShort part expected actual =>
    s!"{part.name} too short: expected at least {expected} bytes, got {actual}"
  | badSync expected actual => s!"bad sync: expected {markText expected}, got {markText actual}"
  | payloadTooLong limit actual => s!"payload too long: maximum {limit} bytes, got {actual}"
  | lengthMismatch declared actual =>
    s!"length mismatch: header declares {declared} bytes, frame carries {actual}"
  | checksumMismatch computed received =>
    "CRC mismatch: computed 0x" ++ hexUpper 4 computed.toNat ++
      ", received 0x" ++ hexUpper 4 received.toNat
  | unknownType tag => "unknown packet type: 0x" ++ hexUpper 2 tag.toNat
  | emptyPayload => "empty payload"

/-- The class under which a cause is counted. -/
def reason : WireError → String
  | checksumMismatch .. => "crc"
  | payloadTooLong .. | lengthMismatch .. | tooShort .. => "length"
  | badSync .. => "sync"
  | unknownType _ | emptyPayload => "invalid"

end WireError

end GroundLink
