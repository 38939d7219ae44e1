import GroundLink.Proofs.Bytes
import GroundLink.Proofs.Except
import GroundLink.Proofs.Frame.Window

/-!
# Frames are read from what they write

The checks of a reader leave the bytes of a frame and nothing else: what passes them is a window
with the checksum of its body, and the length byte of such a window is the one that the frame writes
(`SerialFrame.parse_eq_ok_iff`, `RelayFrame.parse_eq_ok_iff`). A payload above the limit can be put
between a mark and a checksum, but is never read back from there (`payloadOf_eq_ok_iff`).
`frames_are_exact` also says which relay frames carry serial frames.
-/

namespace GroundLink

namespace SerialFrame

/-- The bytes around a payload of any size: mark, length, and checksum. -/
def envelope (payload : Bytes) : Bytes :=
  mark.1 :: mark.2 :: UInt8.ofNat payload.length ::
    (payload ++ Bytes.ofUInt16 (Checksum.ofBytes payload))

variable {bytes payload : Bytes} {frame : SerialFrame}

/-- What is read as a frame is a window: its length byte counts the bytes between it and the
checksum. -/
theorem window_of_parse (h : parse bytes = .ok frame) :
    ∃ (length : UInt8) (body : Bytes) (high low : UInt8), body.length = length.toNat ∧
      bytes = mark.1 :: mark.2 :: length :: (body ++ [high, low]) := by
  unfold parse at h
  split at h
  case h_2 => cases h
  case h_1 sync0 sync1 length rest =>
    split at h
    case isTrue => cases h
    case isFalse =>
      split at h
      case isTrue => cases h
      case isFalse hmark =>
        split at h
        case isTrue => cases h
        case isFalse hlength =>
          obtain ⟨rfl, rfl⟩ := Prod.mk.inj (not_not.mp hmark)
          rw [not_not] at hlength
          have hle : length.toNat ≤ rest.length := by omega
          obtain ⟨body, tail, rfl, hbody⟩ := Bytes.exists_front hle
          have htail : tail.length = 2 := by
            rw [List.length_append] at hlength
            omega
          obtain ⟨high, low, rfl⟩ := List.length_eq_two.mp htail
          exact ⟨length, body, high, low, hbody, rfl⟩

/-- A frame is read from the bytes that it writes, and from no others. -/
theorem parse_eq_ok_iff : parse bytes = .ok frame ↔ bytes = frame.bytes := by
  constructor
  · intro h
    obtain ⟨length, body, high, low, hbody, rfl⟩ := window_of_parse h
    rw [parse_window hbody] at h
    split at h
    case isFalse => cases h
    case isTrue hsum =>
      obtain ⟨hpayload, -⟩ := ofPayload_eq_ok_iff.mp h
      have hword : Bytes.ofUInt16 (Bytes.toUInt16 [high, low]) = [high, low] :=
        Bytes.ofUInt16_toUInt16 rfl
      rw [SerialFrame.bytes, checksum, hpayload, hsum, hword, hbody, UInt8.ofNat_toNat]
  · rintro rfl
    have hfits := frame.fits
    have hlength := (UInt8.toNat_ofNat_of_lt' (Nat.lt_of_le_of_lt hfits (by decide))).symm
    have hsum : Checksum.ofBytes frame.payload = Bytes.toUInt16 (Bytes.ofUInt16 frame.checksum) :=
      (Bytes.toUInt16_ofUInt16 _).symm
    have htwo : (Bytes.ofUInt16 frame.checksum).length = 2 := Bytes.length_ofNat ..
    obtain ⟨high, low, hword⟩ := List.length_eq_two.mp htwo
    rw [SerialFrame.bytes, hword, parse_window hlength, if_pos (hword ▸ hsum),
      ofPayload_eq_ok_iff]
    exact ⟨rfl, Nat.le_min.mpr ⟨hfits, hfits⟩⟩

/-- A payload is read from the bytes around it if it is within the capacity. -/
theorem payloadOf_eq_ok_iff :
    payloadOf bytes = .ok payload ↔ payload.length ≤ capacity ∧ bytes = envelope payload := by
  rw [payloadOf, map_eq_ok]
  constructor
  · rintro ⟨frame, hread, rfl⟩
    exact ⟨frame.fits, parse_eq_ok_iff.mp hread⟩
  · rintro ⟨hfits, rfl⟩
    exact ⟨⟨payload, hfits⟩, parse_eq_ok_iff.mpr rfl, rfl⟩

end SerialFrame

namespace RelayFrame

/-- The bytes before a payload of any size, and the payload. -/
def envelope (payload : Bytes) : Bytes :=
  mark.1 :: mark.2 :: UInt8.ofNat payload.length :: payload

variable {bytes payload : Bytes} {frame : RelayFrame}

/-- A frame is that of its payload. -/
theorem ofPayload_eq_ok_iff : ofPayload payload = .ok frame ↔ frame.payload = payload := by
  rw [ofPayload]
  constructor
  · intro h
    split at h
    case isTrue =>
      obtain rfl := Except.ok.inj h
      rfl
    case isFalse => cases h
  · rintro rfl
    exact dif_pos frame.fits

/-- A frame is read from the bytes that it writes, and from no others. -/
theorem parse_eq_ok_iff : parse bytes = .ok frame ↔ bytes = frame.bytes := by
  constructor
  · intro h
    unfold parse at h
    split at h
    case h_2 => cases h
    case h_1 sync0 sync1 length rest =>
      split at h
      case isTrue => cases h
      case isFalse hmark =>
        split at h
        case isTrue => cases h
        case isFalse hlength =>
          obtain ⟨rfl, rfl⟩ := Prod.mk.inj (not_not.mp hmark)
          obtain rfl := ofPayload_eq_ok_iff.mp h
          rw [RelayFrame.bytes, not_not.mp hlength, UInt8.ofNat_toNat]
          rfl
  · rintro rfl
    have hlength := (UInt8.toNat_ofNat_of_lt' (Nat.lt_succ_of_le frame.fits)).symm
    obtain ⟨read, hpayload, hread⟩ := parse_window hlength
    obtain rfl : read = frame := by
      cases read
      cases frame
      simpa using hpayload
    exact hread

/-- A payload is read from the bytes around it if it is within the capacity. -/
theorem payloadOf_eq_ok_iff :
    payloadOf bytes = .ok payload ↔ payload.length ≤ capacity ∧ bytes = envelope payload := by
  rw [payloadOf, map_eq_ok]
  constructor
  · rintro ⟨frame, hread, rfl⟩
    exact ⟨frame.fits, parse_eq_ok_iff.mp hread⟩
  · rintro ⟨hfits, rfl⟩
    exact ⟨⟨payload, hfits⟩, parse_eq_ok_iff.mpr rfl, rfl⟩

/-! ## Carrying serial frames -/

/-- Every serial frame passes the size check of relay frames. -/
theorem ofPayload_serial (frame : SerialFrame) : ofPayload frame.bytes = .ok (ofSerial frame) :=
  ofPayload_eq_ok_iff.mpr rfl

/-- A frame within the limit is wrapped. -/
theorem wrap_of_le {frame : SerialFrame} (h : frame.payload.length ≤ SerialFrame.relayedCapacity) :
    wrap frame = .ok (ofSerial frame) := by
  rw [wrap, if_pos h, ofPayload_serial]

/-- A longer one is refused. -/
theorem wrap_of_lt {frame : SerialFrame} (h : SerialFrame.relayedCapacity < frame.payload.length) :
    wrap frame =
      .error (.payloadTooLong SerialFrame.relayedCapacity frame.payload.length) := by
  rw [wrap, if_neg (Nat.not_le.mpr h)]

/-- Up to the size agreed for relayed links a serial frame is wrapped as it is carried. -/
theorem wrap_eq_ok_iff {frame : SerialFrame} :
    wrap frame = .ok (ofSerial frame) ↔ frame.payload.length ≤ SerialFrame.relayedCapacity := by
  refine ⟨fun h => ?_, wrap_of_le⟩
  by_contra hlong
  rw [wrap_of_lt (Nat.not_le.mp hlong)] at h
  cases h

/-- Nothing else is refused. -/
theorem wrap_eq_error_iff {frame : SerialFrame} {e : WireError} :
    wrap frame = .error e ↔ SerialFrame.relayedCapacity < frame.payload.length ∧
      e = .payloadTooLong SerialFrame.relayedCapacity frame.payload.length := by
  constructor
  · intro h
    have hlong : SerialFrame.relayedCapacity < frame.payload.length := by
      by_contra hshort
      rw [wrap_of_le (Nat.not_lt.mp hshort)] at h
      cases h
    exact ⟨hlong, Except.error.inj (h.symm.trans (wrap_of_lt hlong))⟩
  · rintro ⟨hlong, rfl⟩
    exact wrap_of_lt hlong

end RelayFrame

/-- Frames are read from exactly the bytes that frames write: those of a mark, the length byte, a
payload of at most 237 bytes and its checksum, or those of a mark, the length byte and a payload of
at most 255 bytes. Every serial frame passes the check of relay frames, which then carries its
bytes; this is how it is wrapped if its payload has at most 233 bytes, and with more it is refused
as too long. -/
theorem frames_are_exact :
    (∀ bytes frame, SerialFrame.parse bytes = .ok frame ↔ bytes = frame.bytes) ∧
    (∀ bytes payload, SerialFrame.payloadOf bytes = .ok payload ↔
      payload.length ≤ 237 ∧ bytes = SerialFrame.envelope payload) ∧
    (∀ bytes frame, RelayFrame.parse bytes = .ok frame ↔ bytes = frame.bytes) ∧
    (∀ bytes payload, RelayFrame.payloadOf bytes = .ok payload ↔
      payload.length ≤ 255 ∧ bytes = RelayFrame.envelope payload) ∧
    (∀ frame, RelayFrame.ofPayload (SerialFrame.bytes frame) = .ok (RelayFrame.ofSerial frame)) ∧
    (∀ frame, (RelayFrame.ofSerial frame).payload = frame.bytes) ∧
    (∀ frame, RelayFrame.wrap frame = .ok (RelayFrame.ofSerial frame) ↔
      frame.payload.length ≤ 233) ∧
    (∀ frame e, RelayFrame.wrap frame = .error e ↔
      233 < frame.payload.length ∧ e = .payloadTooLong 233 frame.payload.length) :=
  ⟨fun _ _ => SerialFrame.parse_eq_ok_iff, fun _ _ => SerialFrame.payloadOf_eq_ok_iff,
    fun _ _ => RelayFrame.parse_eq_ok_iff, fun _ _ => RelayFrame.payloadOf_eq_ok_iff,
    RelayFrame.ofPayload_serial, fun _ => rfl, fun _ => RelayFrame.wrap_eq_ok_iff,
    fun _ _ => RelayFrame.wrap_eq_error_iff⟩

end GroundLink
