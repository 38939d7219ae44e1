import GroundLink.Proofs.Bytes
import GroundLink.Proofs.Frame.Reception

/-!
# Damage stays local

A stream of serial frames, some of them damaged, with noise between them. As long as no mark and no
length byte is hit, a frame whose checksum disagrees costs that frame alone: `damage_stays_local`
says so of streams that are written out byte by byte (`Stretch`), and of frames whose payload or
checksum was overwritten on the way (`Transfer`).
-/

namespace GroundLink

namespace Scan

namespace Stretch

variable {limit : Nat} (s : Stretch (0xAB, 0xCD) limit 2)

/-- Whether the trailer is the checksum of the body. -/
def isIntact : Bool :=
  Checksum.ofBytes s.body = Bytes.toUInt16 s.trailer

/-- An intact stretch reads as its body, and any other is refused for its checksum. -/
theorem payload_of_window (hlimit : limit ≤ SerialFrame.capacity) :
    SerialFrame.payloadOf s.window =
      if s.isIntact then .ok s.body
      else .error (.checksumMismatch (Checksum.ofBytes s.body) (Bytes.toUInt16 s.trailer)) := by
  obtain ⟨high, low, htrailer⟩ := List.length_eq_two.mp s.trailed
  simp only [window, isIntact, htrailer, decide_eq_true_eq]
  exact SerialFrame.payload_of_window s.filled (Nat.le_trans s.within hlimit) high low

/-- The bodies of the intact stretches, in order. -/
theorem filter_map_body (stretches : List (Stretch (0xAB, 0xCD) limit 2)) :
    stretches.filterMap (fun s => if s.isIntact then some s.body else none) =
      (stretches.filter isIntact).map body := by
  induction stretches with
  | nil => rfl
  | cons s stretches ih => cases h : s.isIntact <;> simp [h, ih]

end Stretch

/-- A serial frame within the limit behind noise without a mark, and what arrives of it: payload
and checksum bytes may have been overwritten. -/
structure Transfer (limit : Nat) where
  noise : Bytes
  frame : SerialFrame
  arrived : Bytes
  quiet : ¬ [0xAB, 0xCD] <:+: noise
  within : frame.payload.length ≤ limit
  opened : arrived.take 3 = frame.bytes.take 3
  sized : arrived.length = frame.bytes.length

namespace Transfer

variable {limit : Nat} (t : Transfer limit)

/-- All bytes of a transfer. -/
def bytes : Bytes :=
  t.noise ++ t.arrived

/-- What arrives in the place of the payload. -/
def body : Bytes :=
  (t.arrived.drop 3).take t.frame.payload.length

/-- What arrives in the place of the checksum. -/
def trailer : Bytes :=
  (t.arrived.drop 3).drop t.frame.payload.length

/-- What a transfer gives: an untouched frame its payload, and an overwritten one what stands in the
place of its payload if the checksum that arrives still matches. -/
def given? : Option Bytes :=
  if t.arrived = t.frame.bytes then some t.frame.payload
  else if Checksum.ofBytes t.body = Bytes.toUInt16 t.trailer then some t.body
  else none

/-- A frame has five bytes around its payload. -/
theorem length_frame_bytes : t.frame.bytes.length = t.frame.payload.length + 5 :=
  RelayFrame.length_serial_bytes t.frame

/-- What arrives of a frame has its mark and its length byte. -/
theorem arrived_eq : t.arrived =
    0xAB :: 0xCD :: UInt8.ofNat t.frame.payload.length :: (t.body ++ t.trailer) := by
  have hopened : t.arrived.take 3 = [0xAB, 0xCD, UInt8.ofNat t.frame.payload.length] := t.opened
  rw [body, trailer, List.take_append_drop]
  calc t.arrived = t.arrived.take 3 ++ t.arrived.drop 3 := (List.take_append_drop 3 _).symm
    _ = _ := by rw [hopened]; rfl

/-- What arrives of a frame is a stretch with the length byte of the frame. -/
def stretch : Stretch (0xAB, 0xCD) limit 2 where
  noise := t.noise
  length := UInt8.ofNat t.frame.payload.length
  body := t.body
  trailer := t.trailer
  quiet := t.quiet
  within := by
    have := t.within
    have := t.frame.fits
    rw [UInt8.toNat_ofNat']
    omega
  filled := by
    have := t.frame.fits
    have hsized := t.sized
    rw [length_frame_bytes] at hsized
    rw [UInt8.toNat_ofNat', body, List.length_take, List.length_drop]
    omega
  trailed := by
    have hsized := t.sized
    rw [length_frame_bytes] at hsized
    rw [trailer, List.length_drop, List.length_drop]
    omega

/-- The bytes of the stretch are those of the transfer. -/
theorem stretch_bytes : t.stretch.bytes = t.bytes := by
  rw [bytes, t.arrived_eq]
  rfl

/-- An untouched frame is intact. -/
theorem untouched (h : t.arrived = t.frame.bytes) :
    t.body = t.frame.payload ∧ Checksum.ofBytes t.body = Bytes.toUInt16 t.trailer := by
  have hrest : t.arrived.drop 3 = t.frame.payload ++ Bytes.ofUInt16 t.frame.checksum := by
    rw [h]
    rfl
  have hbody : t.body = t.frame.payload := by
    rw [body, hrest, List.take_left]
  refine ⟨hbody, ?_⟩
  rw [hbody, trailer, hrest, List.drop_left, Bytes.toUInt16_ofUInt16]
  rfl

/-- A transfer gives its payload if the stretch is intact. -/
theorem given?_eq : t.given? = if t.stretch.isIntact then some t.stretch.body else none := by
  by_cases hsum : Checksum.ofBytes t.body = Bytes.toUInt16 t.trailer
  · have hintact : t.stretch.isIntact = true := decide_eq_true hsum
    rw [hintact, if_pos rfl, given?, if_pos hsum]
    split
    case isTrue h => exact congrArg some (t.untouched h).1.symm
    case isFalse h => rfl
  · have hintact : t.stretch.isIntact = false := decide_eq_false hsum
    have htouched : t.arrived ≠ t.frame.bytes := fun h => hsum (t.untouched h).2
    rw [hintact, given?, if_neg htouched, if_neg hsum]
    rfl

end Transfer

end Scan

namespace Deframer

open Scan

/-- A new deframer gives the bodies of the intact stretches, and drops the others. -/
theorem push_stretches {limit : Nat} (hlimit : limit ≤ SerialFrame.capacity)
    (stretches : List (Stretch (0xAB, 0xCD) limit 2)) {tail : Bytes}
    (htail : ¬ [0xAB, 0xCD] <:+: tail) :
    let given := (new (.serial limit)).push ((stretches.map Stretch.bytes).flatten ++ tail)
    given.2.frames = (stretches.filter Stretch.isIntact).map Stretch.body ∧
      given.1.tally.checksumErrors = stretches.countP (fun s => !s.isIntact) ∧
      given.1.tally.otherErrors = 0 := by
  obtain ⟨hframes, hchecksum, hother⟩ :=
    serial_agrees hlimit ((stretches.map Stretch.bytes).flatten ++ tail)
  have hne : SerialFrame.mark.1 ≠ SerialFrame.mark.2 := by decide
  have hfound : findings SerialFrame.mark limit 2 ((stretches.map Stretch.bytes).flatten ++ tail) =
      stretches.map (fun s => .window s.window) :=
    Stretch.findings_bytes hne stretches htail
  have hpayload (s : Stretch (0xAB, 0xCD) limit 2) :
      (Finding.window s.window).payload? SerialFrame.payloadOf =
        if s.isIntact then some s.body else none := by
    rw [Finding.payload?, s.payload_of_window hlimit]
    split <;> rfl
  have hrefused (s : Stretch (0xAB, 0xCD) limit 2) :
      (Finding.window s.window).isRefused SerialFrame.payloadOf = !s.isIntact := by
    rw [Finding.isRefused, s.payload_of_window hlimit]
    cases s.isIntact <;> rfl
  rw [hfound] at hframes hchecksum hother
  refine ⟨?_, ?_, ?_⟩
  · rw [hframes, List.filterMap_map, ← Stretch.filter_map_body]
    exact congrArg (fun f => stretches.filterMap f) (funext hpayload)
  · rw [hchecksum, List.countP_map]
    exact congrArg (fun f => stretches.countP f) (funext hrefused)
  · rw [hother, List.countP_map]
    exact List.countP_eq_zero.mpr (fun _ _ => Bool.false_ne_true)

/-- A damaged body or checksum costs its own frame and no other. Whatever the pieces that a new
deframer of a link is fed, it gives the bodies whose checksum matches and counts the others; of
frames that were overwritten on the way it loses only those whose checksum does not match any
more. -/
theorem damage_stays_local (kind : LinkKind) (pieces : List Bytes) (tail : Bytes)
    (htail : ¬ [0xAB, 0xCD] <:+: tail) :
    let given := (new kind.framing).pushAll pieces
    (∀ stretches : List (Stretch (0xAB, 0xCD) kind.maxPayload 2),
      pieces.flatten = (stretches.map Stretch.bytes).flatten ++ tail →
        given.2.frames = (stretches.filter Stretch.isIntact).map Stretch.body ∧
          given.1.tally.checksumErrors = stretches.countP (fun s => !s.isIntact) ∧
          given.1.tally.otherErrors = 0) ∧
    (∀ transfers : List (Transfer kind.maxPayload),
      pieces.flatten = (transfers.map Transfer.bytes).flatten ++ tail →
        given.2.frames = transfers.filterMap Transfer.given? ∧
          given.1.tally.checksumErrors = transfers.countP (fun t => t.given?.isNone) ∧
          given.1.tally.otherErrors = 0) := by
  intro given
  have hgiven : given = (new (.serial kind.maxPayload)).push pieces.flatten := by
    rw [← kind.framing_eq]
    exact push_all_of_settled (new_settled _) pieces
  refine ⟨?_, ?_⟩
  · intro stretches hpieces
    rw [hgiven, hpieces]
    exact push_stretches kind.max_payload_le stretches htail
  · intro transfers hpieces
    have hbytes : transfers.map Transfer.bytes =
        (transfers.map Transfer.stretch).map Stretch.bytes := by
      simp [Transfer.stretch_bytes]
    obtain ⟨hframes, hchecksum, hother⟩ :=
      push_stretches kind.max_payload_le (transfers.map Transfer.stretch) htail
    rw [hgiven, hpieces, hbytes]
    refine ⟨?_, ?_, hother⟩
    · rw [hframes, ← Stretch.filter_map_body, List.filterMap_map]
      exact congrArg (fun f => transfers.filterMap f) (funext fun t => t.given?_eq.symm)
    · rw [hchecksum, List.countP_map]
      refine congrArg (fun f => transfers.countP f) (funext fun t => ?_)
      rw [t.given?_eq, Function.comp_apply]
      cases t.stretch.isIntact <;> rfl

/-- A frame with a damaged checksum, behind noise that ends in the first byte of a mark, and an
empty frame right behind it. The stream is cut inside both marks. -/
theorem damage_stays_local_at_cuts :
    let damaged : Stretch (0xAB, 0xCD) LinkKind.serial.maxPayload 2 :=
      ⟨[0x00, 0xAB], 1, [0x41], [0x00, 0x00], by decide, by decide, rfl, rfl⟩
    let whole : Stretch (0xAB, 0xCD) LinkKind.serial.maxPayload 2 :=
      ⟨[], 0, [], [0xFF, 0xFF], by decide, by decide, rfl, rfl⟩
    let overwritten : Transfer LinkKind.serial.maxPayload :=
      ⟨[0x00, 0xAB], ⟨[0x42], by decide⟩, [0xAB, 0xCD, 0x01, 0x41, 0x00, 0x00], by decide,
        by decide, by decide, by decide⟩
    let untouched : Transfer LinkKind.serial.maxPayload :=
      ⟨[], ⟨[], by decide⟩, [0xAB, 0xCD, 0x00, 0xFF, 0xFF], by decide, by decide, by decide,
        by decide⟩
    let pieces : List Bytes :=
      [[0x00, 0xAB, 0xAB], [0xCD, 0x01, 0x41, 0x00, 0x00, 0xAB], [0xCD, 0x00, 0xFF, 0xFF, 0xAB]]
    let given := (new LinkKind.serial.framing).pushAll pieces
    ¬ [0xAB, 0xCD] <:+: ([0xAB] : Bytes) ∧
      pieces.flatten = ([damaged, whole].map Stretch.bytes).flatten ++ [0xAB] ∧
      pieces.flatten = ([overwritten, untouched].map Transfer.bytes).flatten ++ [0xAB] ∧
      given.2.frames = [[]] ∧
      [overwritten, untouched].filterMap Transfer.given? = given.2.frames ∧
      given.1.tally.checksumErrors = 1 ∧ given.1.tally.otherErrors = 0 := by
  intro damaged whole overwritten untouched pieces given
  have htail : ¬ [0xAB, 0xCD] <:+: ([0xAB] : Bytes) := by decide
  have hpieces : pieces.flatten = ([damaged, whole].map Stretch.bytes).flatten ++ [0xAB] := by
    decide
  have hsame : pieces.flatten =
      ([overwritten, untouched].map Transfer.bytes).flatten ++ [0xAB] := by
    decide
  have hbodies : ([damaged, whole].filter Stretch.isIntact).map Stretch.body = [[]] := by
    decide +kernel
  have hcount : [damaged, whole].countP (fun s => !s.isIntact) = 1 := by decide +kernel
  obtain ⟨hstretches, htransfers⟩ := damage_stays_local .serial pieces [0xAB] htail
  obtain ⟨hframes, hchecksum, hother⟩ := hstretches [damaged, whole] hpieces
  obtain ⟨hgiven, _, _⟩ := htransfers [overwritten, untouched] hsame
  exact ⟨htail, hpieces, hsame, hframes.trans hbodies, hgiven.symm, hchecksum.trans hcount,
    hother⟩

end Deframer

end GroundLink
