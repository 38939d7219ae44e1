import GroundLink.Proofs.Frame.Flips

/-!
# Bursts

Damage to one byte, or to two bytes side by side, always changes the checksum, whatever the register
was before it and whatever follows (`burst_is_detected`). Two bytes enter the register as one word
(`fold_pair`), so a burst changes the register, and a register that was changed never becomes the
same again (`Checksum.fold_injective`). A frame whose payload arrives with a burst is therefore
refused.
-/

namespace GroundLink

/-- What arrives is what was sent, but for one byte or for two bytes side by side. -/
inductive Bytes.Burst : Bytes → Bytes → Prop
  | one {byte byte' : UInt8} (h : byte' ≠ byte) (rest : Bytes) :
      Burst (byte :: rest) (byte' :: rest)
  | two {first second first' second' : UInt8} (h : (first', second') ≠ (first, second))
      (rest : Bytes) : Burst (first :: second :: rest) (first' :: second' :: rest)
  | behind (byte : UInt8) {sent arrived : Bytes} (h : Burst sent arrived) :
      Burst (byte :: sent) (byte :: arrived)

/-- A burst neither adds bytes nor takes them away. -/
theorem Bytes.Burst.length_eq {sent arrived : Bytes} (h : Burst sent arrived) :
    arrived.length = sent.length := by
  induction h with
  | one _ rest => rfl
  | two _ rest => rfl
  | behind byte _ ih => rw [List.length_cons, List.length_cons, ih]

namespace Checksum

open Bytes (Burst)

/-- Two bytes enter the register as one word, the second above the first. -/
theorem fold_pair (register : UInt16) (first second : UInt8) (rest : Bytes) :
    fold register (first :: second :: rest) =
      fold (shift^[16] (register ^^^ Bytes.toUInt16 [second, first])) rest := by
  have hpair : shift^[8] (shift^[8] (register ^^^ first.toUInt16) ^^^ second.toUInt16) =
      shift^[16] (register ^^^ Bytes.toUInt16 [second, first]) := by
    calc shift^[8] (shift^[8] (register ^^^ first.toUInt16) ^^^ second.toUInt16)
      -- eight shifts bring the second byte down to where it enters
      _ = shift^[8] (shift^[8] (register ^^^ first.toUInt16) ^^^
            shift^[8] (second.toUInt16 <<< 8)) := by rw [iterate_high]
      _ = shift^[16] (register ^^^ first.toUInt16 ^^^ (second.toUInt16 <<< 8)) := by
            rw [← iterate_xor, ← Function.iterate_add_apply]
      _ = shift^[16] (register ^^^ Bytes.toUInt16 [second, first]) := by
            rw [Bytes.toUInt16_eq_xor, UInt16.xor_assoc, UInt16.xor_comm first.toUInt16]
  rw [fold_cons, fold_cons, hpair]

/-- A burst leaves another register, whatever stands in front of it and behind it. -/
theorem fold_ne_of_burst {sent arrived : Bytes} (h : Burst sent arrived) (register : UInt16) :
    fold register arrived ≠ fold register sent := by
  induction h generalizing register with
  | one h rest =>
      intro hsame
      rw [fold_cons, fold_cons] at hsame
      have hword := (UInt16.xor_right_inj _).mp (iterate_injective 8 (fold_injective rest hsame))
      exact h (UInt8.toUInt16_inj.mp hword)
  | @two first second first' second' h rest =>
      intro hsame
      rw [fold_pair, fold_pair] at hsame
      have hword := (UInt16.xor_right_inj _).mp (iterate_injective 16 (fold_injective rest hsame))
      -- the word tells the bytes that it is made of
      have hbytes := congrArg Bytes.ofUInt16 hword
      rw [Bytes.ofUInt16_toUInt16 rfl, Bytes.ofUInt16_toUInt16 rfl] at hbytes
      obtain ⟨rfl, hfirst⟩ := List.cons.inj hbytes
      obtain ⟨rfl, -⟩ := List.cons.inj hfirst
      exact h rfl
  | behind byte _ ih =>
      rw [fold_cons, fold_cons]
      exact ih _

end Checksum

namespace SerialFrame

/-- The bytes of a frame with others in the place of its payload. -/
def carrying (frame : SerialFrame) (body : Bytes) : Bytes :=
  mark.1 :: mark.2 :: UInt8.ofNat frame.payload.length :: (body ++ Bytes.ofUInt16 frame.checksum)

/-- As many other bytes in the place of the payload are judged by the checksum of the payload. -/
theorem parse_carrying (frame : SerialFrame) {body : Bytes}
    (hlength : body.length = frame.payload.length) :
    parse (frame.carrying body) =
      if Checksum.ofBytes body = frame.checksum then ofPayload body capacity
      else .error (.checksumMismatch (Checksum.ofBytes body) frame.checksum) := by
  have hfits := frame.fits
  have hbody : body.length = (UInt8.ofNat frame.payload.length).toNat := by
    rw [hlength, UInt8.toNat_ofNat']
    omega
  have htwo : (Bytes.ofUInt16 frame.checksum).length = 2 := Bytes.length_ofNat ..
  obtain ⟨high, low, hword⟩ := List.length_eq_two.mp htwo
  rw [carrying, hword, parse_window hbody, ← hword, Bytes.toUInt16_ofUInt16]

/-- Bytes that arrive with a burst leave another register than was sent, from whatever register. A
frame with a burst in its payload is refused for its checksum. -/
theorem burst_is_detected {sent arrived : Bytes} (h : sent.Burst arrived) :
    (∀ register, Checksum.fold register arrived ≠ Checksum.fold register sent) ∧
      ∀ frame : SerialFrame, frame.payload = sent → frame.bytes = frame.carrying sent ∧
        parse (frame.carrying arrived) =
          .error (.checksumMismatch (Checksum.ofBytes arrived) (Checksum.ofBytes sent)) := by
  refine ⟨Checksum.fold_ne_of_burst h, ?_⟩
  rintro frame rfl
  have hsum : Checksum.ofBytes arrived ≠ frame.checksum := Checksum.fold_ne_of_burst h _
  refine ⟨rfl, ?_⟩
  rw [frame.parse_carrying h.length_eq, if_neg hsum]
  rfl

/-- The two bytes behind the first one are exchanged. -/
theorem burst_is_detected_when_exchanged :
    let frame : SerialFrame := ⟨[0x41, 0x42, 0x43, 0x44], by decide⟩
    let arrived : Bytes := [0x41, 0x43, 0x42, 0x44]
    frame.payload.Burst arrived ∧
      (∀ register, Checksum.fold register arrived ≠ Checksum.fold register frame.payload) ∧
      frame.bytes = frame.carrying frame.payload ∧
      parse (frame.carrying arrived) = .error (.checksumMismatch (Checksum.ofBytes arrived)
        (Checksum.ofBytes frame.payload)) := by
  intro frame arrived
  have hburst : frame.payload.Burst arrived := .behind 0x41 (.two (by decide) [0x44])
  obtain ⟨hregister, hframe⟩ := burst_is_detected hburst
  exact ⟨hburst, hregister, hframe frame rfl⟩

end SerialFrame

end GroundLink
