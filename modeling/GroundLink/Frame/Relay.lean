import GroundLink.Frame.Serial

/-!
# Relay frames

The radio relay carries bytes between the mark `22 69` and a length byte, without a checksum. What
it carries on a link is the bytes of serial frames.
-/

namespace GroundLink

/-- A payload that fits a relay frame. -/
structure RelayFrame where
  payload : Bytes
  fits : payload.length ≤ 255
deriving DecidableEq

namespace RelayFrame

/-- The mark before the length byte. -/
def mark : UInt8 × UInt8 := (0x22, 0x69)

/-- The bytes before a payload: mark and length. -/
def overhead : Nat := 3

/-- The most payload bytes of a frame. -/
def capacity : Nat := 255

/-- A frame for a payload. -/
def ofPayload (payload : Bytes) : Except WireError RelayFrame :=
  if h : payload.length ≤ capacity then .ok ⟨payload, h⟩
  else .error (.payloadTooLong capacity payload.length)

/-- The bytes of a frame on the line. -/
def bytes (frame : RelayFrame) : Bytes :=
  mark.1 :: mark.2 :: UInt8.ofNat frame.payload.length :: frame.payload

/-- A serial frame adds its overhead to the payload. -/
theorem length_serial_bytes (frame : SerialFrame) :
    frame.bytes.length = frame.payload.length + 5 := by
  simp [SerialFrame.bytes, Bytes.ofUInt16]

/-- The relay frame that carries a serial frame. Every serial frame fits. -/
def ofSerial (frame : SerialFrame) : RelayFrame :=
  ⟨frame.bytes, by
    have := frame.fits
    rw [length_serial_bytes]
    omega⟩

/-- The relay frame that carries a serial frame of the size agreed for relayed links. -/
def wrap (frame : SerialFrame) : Except WireError RelayFrame :=
  if frame.payload.length ≤ SerialFrame.relayedCapacity then ofPayload frame.bytes
  else .error (.payloadTooLong SerialFrame.relayedCapacity frame.payload.length)

/-- Read a byte string as one whole frame. -/
def parse (bytes : Bytes) : Except WireError RelayFrame :=
  match bytes with
  | sync0 :: sync1 :: length :: payload =>
    if (sync0, sync1) ≠ mark then .error (.badSync mark (sync0, sync1))
    else if payload.length ≠ length.toNat then
      .error (.lengthMismatch length.toNat payload.length)
    else ofPayload payload
  | _ => .error (.tooShort .relayFrame overhead bytes.length)

end RelayFrame

end GroundLink
