import GroundLink.Proofs.Checksum
import GroundLink.Proofs.Frame.Damage
import Mathlib.Data.List.Nodup

/-!
# Flipped bits

A frame that arrives with one, two or three flipped bits behind its length byte is always refused
for its checksum (`parse_flipped`). What the checksum and the payload disagree by is the sum of what
each flipped bit leaves in the register (`residue_flips`). An odd number of such summands is odd,
and two of them differ because no frame is long enough for a bit to come back.
-/

namespace GroundLink

namespace Bytes

/-- A byte with a single bit set. -/
def bit (i : Nat) : UInt8 :=
  1 <<< UInt8.ofNat i

/-- Flip one bit. Bits are counted through all bytes, from the lowest bit of each. -/
def flipBit (bytes : Bytes) (position : Nat) : Bytes :=
  bytes.modify (position / 8) (· ^^^ bit (position % 8))

/-- A change in the front part leaves the back alone. -/
theorem modify_append_left {front back : Bytes} {i : Nat} (f : UInt8 → UInt8)
    (hi : i < front.length) : (front ++ back).modify i f = front.modify i f ++ back := by
  induction front generalizing i with
  | nil => exact absurd hi (Nat.not_lt_zero i)
  | cons byte front ih =>
      cases i with
      | zero => rfl
      | succ i => exact congrArg (byte :: ·) (ih (Nat.lt_of_succ_lt_succ hi))

/-- A change in the back part leaves the front alone. -/
theorem modify_append_right (front back : Bytes) (i : Nat) (f : UInt8 → UInt8) :
    (front ++ back).modify (front.length + i) f = front ++ back.modify i f := by
  induction front with
  | nil => rw [List.length_nil, Nat.zero_add]; rfl
  | cons byte front ih =>
      rw [List.length_cons, Nat.succ_add]
      exact congrArg (byte :: ·) ih

/-- Two bytes of a word, one above the other. -/
theorem toUInt16_eq_xor (high low : UInt8) :
    toUInt16 [high, low] = (high.toUInt16 <<< 8) ^^^ low.toUInt16 := by
  have hhigh := high.toNat_lt
  have hlow := low.toNat_lt
  have hword : (toUInt16 [high, low]).toNat = high.toNat * 256 + low.toNat := by
    simp only [toUInt16, toNat, List.take, List.foldl_cons, List.foldl_nil, UInt16.toNat_ofNat']
    omega
  have hhighest : (toUInt16 [high, low] >>> 8).toUInt8 = high := by
    apply UInt8.toNat_inj.mp
    rw [UInt16.toNat_toUInt8, UInt16.toNat_shiftRight, hword]
    show (high.toNat * 256 + low.toNat) >>> 8 % 2 ^ 8 = high.toNat
    rw [Nat.shiftRight_eq_div_pow]
    omega
  have hlowest : (toUInt16 [high, low]).toUInt8 = low := by
    apply UInt8.toNat_inj.mp
    rw [UInt16.toNat_toUInt8, hword]
    omega
  rw [Checksum.split_bytes (toUInt16 [high, low]), hhighest, hlowest]

/-- A mask on the high byte of a word. -/
theorem toUInt16_high (high low mask : UInt8) :
    toUInt16 [high ^^^ mask, low] = toUInt16 [high, low] ^^^ (mask.toUInt16 <<< 8) := by
  rw [toUInt16_eq_xor, toUInt16_eq_xor, UInt8.toUInt16_xor, UInt16.shiftLeft_xor]
  ac_rfl

/-- A mask on the low byte of a word. -/
theorem toUInt16_low (high low mask : UInt8) :
    toUInt16 [high, low ^^^ mask] = toUInt16 [high, low] ^^^ mask.toUInt16 := by
  rw [toUInt16_eq_xor, toUInt16_eq_xor, UInt8.toUInt16_xor, UInt16.xor_assoc]

end Bytes

namespace Checksum

open Bytes (bit)

/-- A bit is a one that was shifted the other way. -/
theorem iterate_bit {i count : Nat} (hi : i < 8) (hcount : i ≤ count) :
    shift^[count] (bit i).toUInt16 = shift^[count - i] 1 := by
  have hbits : ∀ i < 8, shift^[i] (bit i).toUInt16 = 1 := by decide
  obtain ⟨rest, rfl⟩ := Nat.exists_eq_add_of_le' hcount
  rw [Function.iterate_add_apply, hbits i hi, Nat.add_sub_cancel]

end Checksum

namespace SerialFrame

open Bytes (bit flipBit)
open Checksum (shift)

/-- What a payload and the checksum that came with it disagree by. -/
def residue (body : Bytes) (high low : UInt8) : UInt16 :=
  Checksum.ofBytes body ^^^ Bytes.toUInt16 [high, low]

/-- How far a bit of a frame is shifted, if the highest bit of the checksum is not shifted at all:
the payload is ahead of the checksum, whose high byte comes first. -/
def depth (size position : Nat) : Nat :=
  if position / 8 < size + 3 then 15 + 8 * (size + 3 - position / 8) - position % 8
  else if position / 8 = size + 3 then 7 - position % 8
  else 15 - position % 8

/-- No two bits of a frame are at the same depth. -/
theorem depth_inj {size first second : Nat} (hfirst : first < 8 * (size + 5))
    (hsecond : second < 8 * (size + 5)) (h : depth size first = depth size second) :
    first = second := by
  unfold depth at h
  split at h <;> split at h <;> (try split at h) <;> (try split at h) <;> omega

/-- A bit that is flipped behind the length byte adds itself to the residue, and changes nothing in
front of the payload. -/
theorem residue_flip (first second length : UInt8) {body : Bytes} (high low : UInt8)
    {position : Nat} (hfront : 24 ≤ position) (hback : position < 8 * (body.length + 5)) :
    ∃ body' high' low',
      flipBit (first :: second :: length :: (body ++ [high, low])) position =
          first :: second :: length :: (body' ++ [high', low']) ∧
        body'.length = body.length ∧
        shift^[15] (residue body' high' low') =
          shift^[15] (residue body high low) ^^^ shift^[depth body.length position] 1 := by
  have hbit : position % 8 < 8 := Nat.mod_lt _ (by decide)
  obtain ⟨i, hi⟩ := Nat.exists_eq_add_of_le' (show 3 ≤ position / 8 by omega)
  have hskip : flipBit (first :: second :: length :: (body ++ [high, low])) position =
      first :: second :: length ::
        ((body ++ [high, low]).modify i (· ^^^ bit (position % 8))) := by
    rw [flipBit, hi]
    rfl
  rw [hskip, depth, hi]
  rcases Nat.lt_trichotomy i body.length with hlt | rfl | hgt
  · -- a payload byte: the bit is shifted by the bytes behind it
    refine ⟨body.modify i (· ^^^ bit (position % 8)), high, low, ?_, List.length_modify .., ?_⟩
    · rw [Bytes.modify_append_left _ hlt]
    · have hsum : residue (body.modify i (· ^^^ bit (position % 8))) high low =
          residue body high low ^^^
            shift^[8 * (body.length - i)] (bit (position % 8)).toUInt16 := by
        rw [residue, residue, Checksum.ofBytes, Checksum.fold_modify _ _ _ hlt, Checksum.ofBytes]
        ac_rfl
      rw [if_pos (by omega), hsum, Checksum.iterate_xor, ← Function.iterate_add_apply,
        Checksum.iterate_bit hbit (by omega), Nat.add_sub_add_right]
  · -- the high byte of the checksum
    refine ⟨body, high ^^^ bit (position % 8), low, ?_, rfl, ?_⟩
    · exact congrArg (fun rest => first :: second :: length :: rest)
        (Bytes.modify_append_right body [high, low] 0 _)
    · rw [if_neg (Nat.lt_irrefl _), if_pos rfl, residue, Bytes.toUInt16_high, ← UInt16.xor_assoc,
        Checksum.iterate_xor, ← residue]
      congr 1
      rw [Function.iterate_add_apply _ 7 8, Checksum.iterate_high,
        Checksum.iterate_bit hbit (by omega)]
  · -- the low byte of the checksum
    obtain rfl : i = body.length + 1 := by omega
    refine ⟨body, high, low ^^^ bit (position % 8), ?_, rfl, ?_⟩
    · exact congrArg (fun rest => first :: second :: length :: rest)
        (Bytes.modify_append_right body [high, low] 1 _)
    · rw [if_neg (by omega), if_neg (by omega), residue, Bytes.toUInt16_low, ← UInt16.xor_assoc,
        Checksum.iterate_xor, ← residue, Checksum.iterate_bit hbit (by omega)]

/-- Flipped bits behind the length byte add themselves to the residue one after another. -/
theorem residue_flips (first second length : UInt8) {body : Bytes} (high low : UInt8)
    {positions : List Nat}
    (hrange : ∀ position ∈ positions, 24 ≤ position ∧ position < 8 * (body.length + 5)) :
    ∃ body' high' low',
      positions.foldl flipBit (first :: second :: length :: (body ++ [high, low])) =
          first :: second :: length :: (body' ++ [high', low']) ∧
        body'.length = body.length ∧
        shift^[15] (residue body' high' low') =
          (positions.map (depth body.length)).foldl (fun sum depth => sum ^^^ shift^[depth] 1)
            (shift^[15] (residue body high low)) := by
  induction positions generalizing body high low with
  | nil => exact ⟨body, high, low, rfl, rfl, rfl⟩
  | cons position positions ih =>
      obtain ⟨⟨hfront, hback⟩, hrest⟩ := List.forall_mem_cons.mp hrange
      obtain ⟨body', high', low', hflip, hlength, hresidue⟩ :=
        residue_flip first second length high low hfront hback
      rw [← hlength] at hrest
      obtain ⟨body'', high'', low'', hflips, hlength', hresidue'⟩ := ih high' low' hrest
      rw [hlength, hresidue] at hresidue'
      refine ⟨body'', high'', low'', ?_, hlength'.trans hlength, hresidue'⟩
      rw [List.foldl_cons, hflip, hflips]

/-- The bytes of a frame, with the checksum taken apart. The checksum is that of the payload. -/
theorem bytes_eq (frame : SerialFrame) :
    ∃ high low, frame.bytes =
        mark.1 :: mark.2 :: UInt8.ofNat frame.payload.length :: (frame.payload ++ [high, low]) ∧
      residue frame.payload high low = 0 := by
  have hlength : (Bytes.ofUInt16 frame.checksum).length = 2 := Bytes.length_ofNat ..
  obtain ⟨high, low, hbytes⟩ := List.length_eq_two.mp hlength
  refine ⟨high, low, by rw [bytes, hbytes], ?_⟩
  rw [residue, ← hbytes, Bytes.toUInt16_ofUInt16]
  exact UInt16.xor_self

/-- A frame with one, two or three flipped bits among its payload and its checksum is refused for
its checksum. Payload and checksum are all that stands behind the first three bytes, or 24 bits. -/
theorem parse_flipped (frame : SerialFrame) {positions : List Nat} (hdistinct : positions.Nodup)
    (hsome : 0 < positions.length) (hfew : positions.length ≤ 3)
    (hrange : ∀ position ∈ positions, 24 ≤ position ∧ position < 8 * frame.bytes.length) :
    ∃ computed received, computed ≠ received ∧
      parse (positions.foldl flipBit frame.bytes) =
        .error (.checksumMismatch computed received) := by
  have hfits : frame.payload.length ≤ 237 := frame.fits
  rw [RelayFrame.length_serial_bytes] at hrange
  obtain ⟨high, low, hbytes, hintact⟩ := frame.bytes_eq
  obtain ⟨body, high', low', hflips, hlength, hresidue⟩ :=
    residue_flips mark.1 mark.2 (UInt8.ofNat frame.payload.length) high low hrange
  have hdepths : (positions.map (depth frame.payload.length)).Nodup :=
    hdistinct.map_on fun first hfirst second hsecond hsame =>
      depth_inj (hrange first hfirst).2 (hrange second hsecond).2 hsame
  have hbound : ∀ d ∈ positions.map (depth frame.payload.length), d ≤ 1911 := by
    refine List.forall_mem_map.mpr fun position hposition => ?_
    have := hrange position hposition
    unfold depth
    split
    case isTrue => omega
    case isFalse => split <;> omega
  have hne : residue body high' low' ≠ 0 := by
    intro hzero
    rw [hzero, hintact, Function.iterate_fixed (show shift 0 = 0 from rfl)] at hresidue
    exact Checksum.sum_ne_zero hdepths hbound (by rwa [List.length_map]) (by rwa [List.length_map])
      hresidue.symm
  have hsum : Checksum.ofBytes body ≠ Bytes.toUInt16 [high', low'] :=
    fun h => hne (UInt16.xor_eq_zero_iff.mpr h)
  have hbody : body.length = (UInt8.ofNat frame.payload.length).toNat := by
    rw [hlength, UInt8.toNat_ofNat']
    omega
  refine ⟨_, _, hsum, ?_⟩
  rw [hbytes, hflips, parse_window hbody, if_neg hsum]

/-- Three flips: the highest bit of the first payload byte, the lowest of the second, and one of the
checksum. -/
theorem parse_flipped_at_three :
    let frame : SerialFrame := ⟨[0x41, 0x42], by decide⟩
    let positions := [31, 32, 47]
    positions.Nodup ∧ 0 < positions.length ∧ positions.length ≤ 3 ∧
      (∀ position ∈ positions, 24 ≤ position ∧ position < 8 * frame.bytes.length) ∧
      ∃ computed received, computed ≠ received ∧
        parse (positions.foldl flipBit frame.bytes) =
          .error (.checksumMismatch computed received) := by
  intro frame positions
  have hdistinct : positions.Nodup := by decide
  have hrange : ∀ position ∈ positions, 24 ≤ position ∧ position < 8 * frame.bytes.length := by
    decide
  exact ⟨hdistinct, by decide, by decide, hrange,
    frame.parse_flipped hdistinct (by decide) (by decide) hrange⟩

end SerialFrame

end GroundLink
