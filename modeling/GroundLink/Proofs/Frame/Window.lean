import GroundLink.Link.Kind
import GroundLink.Proofs.Frame.Scan

/-!
# Reading windows

A window that a scan cuts out of a stream, read as one whole frame. A serial window is refused for
its checksum alone (`SerialFrame.payload_of_window`), a relay window never
(`RelayFrame.parse_window`), and a deframer judges both as they read.
-/

namespace GroundLink

open Scan

/-- The framing of the serial frames on a link. -/
def LinkKind.framing : LinkKind → Framing
  | .serial => .direct
  | .comms => .relayed

/-- Links carry serial frames within a limit of their own. -/
theorem LinkKind.framing_eq (kind : LinkKind) : kind.framing = .serial kind.maxPayload := by
  cases kind <;> rfl

/-- The limit of a link is within that of serial frames. -/
theorem LinkKind.max_payload_le (kind : LinkKind) : kind.maxPayload ≤ SerialFrame.capacity := by
  cases kind <;> decide

/-- The number of bytes behind the payload of a frame. -/
def Framing.trailerLength : Framing → Nat
  | .serial _ => 2
  | .relay => 0

/-- The two bytes of a mark differ. -/
theorem Framing.mark_ne (framing : Framing) : framing.mark.1 ≠ framing.mark.2 := by
  have hserial : SerialFrame.mark.1 ≠ SerialFrame.mark.2 := by decide
  have hrelay : RelayFrame.mark.1 ≠ RelayFrame.mark.2 := by decide
  cases framing with
  | serial limit => exact hserial
  | relay => exact hrelay

/-- A payload has a frame if both the limit and the capacity of serial frames allow it. -/
theorem SerialFrame.ofPayload_eq_ok_iff {payload : Bytes} {limit : Nat} {frame : SerialFrame} :
    ofPayload payload limit = .ok frame ↔
      frame.payload = payload ∧ payload.length ≤ min limit capacity := by
  rw [ofPayload]
  constructor
  · intro h
    split at h
    case isTrue hfits =>
      obtain rfl := Except.ok.inj h
      exact ⟨rfl, hfits⟩
    case isFalse => cases h
  · rintro ⟨rfl, hfits⟩
    rw [dif_pos hfits]

/-- The payload of a byte string that is one whole serial frame. -/
def SerialFrame.payloadOf (bytes : Bytes) : Except WireError Bytes :=
  (parse bytes).map payload

/-- The payload of a byte string that is one whole relay frame. -/
def RelayFrame.payloadOf (bytes : Bytes) : Except WireError Bytes :=
  (parse bytes).map payload

section Windows

variable {length : UInt8} {body : Bytes} (hbody : body.length = length.toNat)

include hbody

/-- A window is judged by its checksum, and then by its size. -/
theorem SerialFrame.parse_window (high low : UInt8) :
    parse (mark.1 :: mark.2 :: length :: (body ++ [high, low])) =
      if Checksum.ofBytes body = Bytes.toUInt16 [high, low] then ofPayload body capacity
      else
        .error (.checksumMismatch (Checksum.ofBytes body) (Bytes.toUInt16 [high, low])) := by
  have hlong : ¬ body.length + 2 < 2 := by omega
  simp [parse, ← hbody, hlong]

/-- A window within the capacity is accepted exactly when its checksum is that of its body. -/
theorem SerialFrame.payload_of_window (hlimit : length.toNat ≤ capacity) (high low : UInt8) :
    payloadOf (mark.1 :: mark.2 :: length :: (body ++ [high, low])) =
      if Checksum.ofBytes body = Bytes.toUInt16 [high, low] then .ok body
      else
        .error (.checksumMismatch (Checksum.ofBytes body) (Bytes.toUInt16 [high, low])) := by
  have hfits : body.length ≤ min capacity capacity := by omega
  rw [payloadOf, parse_window hbody]
  split
  · rw [ofPayload, dif_pos hfits]
    rfl
  · rfl

/-- A limit within the capacity of serial frames refuses no window that is within the limit. -/
theorem Framing.serial_payload_window {limit : Nat} (hcapacity : limit ≤ SerialFrame.capacity)
    (hlimit : length.toNat ≤ limit) (high low : UInt8) :
    (Framing.serial limit).payload
        (SerialFrame.mark.1 :: SerialFrame.mark.2 :: length :: (body ++ [high, low])) =
      SerialFrame.payloadOf
        (SerialFrame.mark.1 :: SerialFrame.mark.2 :: length :: (body ++ [high, low])) := by
  have hfits : body.length ≤ min SerialFrame.capacity SerialFrame.capacity := by omega
  have hmin : body.length ≤ min limit SerialFrame.capacity := by omega
  rw [payload, SerialFrame.payloadOf, SerialFrame.parse_window hbody]
  split
  · rw [SerialFrame.ofPayload, dif_pos hfits]
    show (do
      let frame ← SerialFrame.ofPayload body limit
      pure frame.payload) = Except.ok body
    rw [SerialFrame.ofPayload, dif_pos hmin]
    rfl
  · rfl

/-- Every window of a relay frame is accepted. -/
theorem RelayFrame.parse_window :
    ∃ frame, frame.payload = body ∧ parse (mark.1 :: mark.2 :: length :: body) = .ok frame := by
  have hfits : body.length ≤ 255 := by
    have := length.toNat_lt
    omega
  refine ⟨⟨body, hfits⟩, rfl, ?_⟩
  simp [parse, ofPayload, capacity, hbody ▸ hfits, hbody]

end Windows

/-- The payload of a relay frame is what its reader gives. -/
theorem Framing.relay_payload (bytes : Bytes) :
    Framing.relay.payload bytes = RelayFrame.payloadOf bytes := by
  rw [payload, RelayFrame.payloadOf]
  cases RelayFrame.parse bytes <;> rfl

/-- How a deframer judges what a scan comes upon. -/
def Framing.judge (framing : Framing) : Finding → Except WireError Bytes
  | .oversized length => .error (.payloadTooLong framing.limit length.toNat)
  | .window bytes => framing.payload bytes

namespace Scan.Finding

variable (read : Bytes → Except WireError Bytes)

/-- The payload of a window that is accepted. -/
def payload? : Finding → Option Bytes
  | .oversized _ => none
  | .window bytes => (read bytes).toOption

/-- Whether this is a window that is not accepted. -/
def isRefused : Finding → Bool
  | .oversized _ => false
  | .window bytes => (read bytes).toOption.isNone

/-- Whether this is a length above the limit. -/
def isOversized : Finding → Bool
  | .oversized _ => true
  | .window _ => false

end Scan.Finding

end GroundLink
