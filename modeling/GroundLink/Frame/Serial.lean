import GroundLink.Checksum
import GroundLink.Frame.Error

/-!
# Serial frames

On a direct line a payload travels between the mark `AB CD`, its length in one byte, and the
checksum of the payload, high byte first. A frame carries at most 237 payload bytes.
-/

namespace GroundLink

/-- A payload that fits a serial frame. -/
structure SerialFrame where
  payload : Bytes
  fits : payload.length ≤ 237
deriving DecidableEq

namespace SerialFrame

/-- The mark before the length byte. -/
def mark : UInt8 × UInt8 := (0xAB, 0xCD)

/-- The bytes around a payload: mark, length, checksum. -/
def overhead : Nat := 5

/-- The most payload bytes of a frame. -/
def capacity : Nat := 237

/-- The most payload bytes of a frame that itself travels inside a relay frame. -/
def relayedCapacity : Nat := 233

/-- A frame for a payload on a link that carries at most `limit` payload bytes. -/
def ofPayload (payload : Bytes) (limit : Nat) : Except WireError SerialFrame :=
  let limit := min limit capacity
  if h : payload.length ≤ limit then
    .ok ⟨payload, Nat.le_trans h (Nat.min_le_right _ _)⟩
  else .error (.payloadTooLong limit payload.length)

/-- The checksum of the payload. -/
def checksum (frame : SerialFrame) : UInt16 :=
  Checksum.ofBytes frame.payload

/-- The bytes of a frame on the line. -/
def bytes (frame : SerialFrame) : Bytes :=
  mark.1 :: mark.2 :: UInt8.ofNat frame.payload.length ::
    (frame.payload ++ Bytes.ofUInt16 frame.checksum)

/-- Read a byte string as one whole frame. The mark is judged first, then the length, then the
checksum. -/
def parse (bytes : Bytes) : Except WireError SerialFrame :=
  match bytes with
  | sync0 :: sync1 :: length :: rest =>
    if rest.length < 2 then .error (.tooShort .serialFrame overhead bytes.length)
    else if (sync0, sync1) ≠ mark then .error (.badSync mark (sync0, sync1))
    else if rest.length ≠ length.toNat + 2 then
      .error (.lengthMismatch length.toNat (rest.length - 2))
    else
      let payload := rest.take length.toNat
      let received := Bytes.toUInt16 (rest.drop length.toNat)
      let computed := Checksum.ofBytes payload
      if computed ≠ received then .error (.checksumMismatch computed received)
      else ofPayload payload capacity
  | _ => .error (.tooShort .serialFrame overhead bytes.length)

end SerialFrame

end GroundLink
