import GroundLink.Checksum
import Mathlib.Logic.Function.Iterate
import Mathlib.Tactic.WLOG

/-!
# The division behind the checksum

The register is that of a division, shifted out bit by bit, and the table does eight shifts at a
time (`advance_eq_bits`). A shift is linear in exclusive or, so a mask that falls on a byte adds to
the register what the mask alone would leave in it (`fold_modify`): for a single bit, some number of
shifts of a one. Two facts about these registers matter to a receiver: each has an odd number of
bits (`is_odd_iterate`), and none of the first 1911 is a one again (`iterate_one_ne`).
-/

namespace GroundLink.Checksum

/-! ## Shifts -/

/-- To test a register for its low bit is to look at the bit. -/
theorem low_bit (register : UInt16) :
    register &&& 1 = 1 ↔ register.toBitVec.getLsbD 0 = true := by
  rw [← UInt16.toNat_inj, UInt16.toNat_and, BitVec.getLsbD, Nat.testBit_zero, decide_eq_true_iff]
  exact Eq.congr_left (Nat.and_one_is_mod _)

/-- One shift moves all bits down, and adds the generator if one falls off. -/
theorem shift_eq (register : UInt16) :
    shift register =
      (register >>> 1) ^^^ if register.toBitVec.getLsbD 0 then generator else 0 := by
  unfold shift
  by_cases hbit : register.toBitVec.getLsbD 0 = true
  · rw [if_pos ((low_bit register).mpr hbit), if_pos hbit]
  · rw [if_neg (mt (low_bit register).mp hbit), if_neg hbit, UInt16.xor_zero]

/-- Shifting moves every bit down by one place. -/
theorem getLsbD_shiftRight_one (register : UInt16) (i : Nat) :
    (register >>> 1).toBitVec.getLsbD i = register.toBitVec.getLsbD (i + 1) := by
  show (register.toBitVec >>> 1).getLsbD i = _
  rw [BitVec.getLsbD_ushiftRight, Nat.add_comm]

/-- Shifting is linear. -/
theorem shift_xor (first second : UInt16) :
    shift (first ^^^ second) = shift first ^^^ shift second := by
  have hfallen (a b : Bool) : (if (a ^^ b) = true then generator else 0) =
      (if a = true then generator else 0) ^^^ (if b = true then generator else 0) := by
    cases a <;> cases b <;> rfl
  rw [shift_eq, shift_eq, shift_eq, UInt16.shiftRight_xor, UInt16.toBitVec_xor,
    BitVec.getLsbD_xor, hfallen]
  ac_rfl

/-- Many shifts are additive as well. -/
theorem iterate_xor (count : Nat) (first second : UInt16) :
    shift^[count] (first ^^^ second) = shift^[count] first ^^^ shift^[count] second := by
  induction count generalizing first second with
  | zero => rfl
  | succ count ih =>
      rw [Function.iterate_succ_apply, shift_xor, ih]
      rfl

/-- The bit that falls out comes back as the highest one, so no register but zero is lost. -/
theorem eq_zero_of_shift {register : UInt16} (h : shift register = 0) : register = 0 := by
  rw [shift_eq, UInt16.xor_eq_zero_iff] at h
  cases hbit : register.toBitVec.getLsbD 0 with
  | true =>
      have hhighest := getLsbD_shiftRight_one register 15
      rw [h, hbit, BitVec.getLsbD_of_ge _ _ (Nat.le_refl 16)] at hhighest
      exact absurd hhighest (by decide)
  | false =>
      rw [hbit] at h
      apply UInt16.eq_of_toBitVec_eq
      apply BitVec.eq_of_getLsbD_eq
      intro i _
      cases i with
      | zero => exact hbit
      | succ i =>
          rw [← getLsbD_shiftRight_one, h]
          exact BitVec.getLsbD_zero.trans BitVec.getLsbD_zero.symm

/-- Registers that agree after some shifts agree before them. -/
theorem iterate_injective (count : Nat) : Function.Injective shift^[count] := by
  refine Function.Injective.iterate (fun first second h => ?_) count
  apply UInt16.xor_eq_zero_iff.mp
  apply eq_zero_of_shift
  rw [shift_xor, h, UInt16.xor_self]

/-! ## Bytes -/

/-- The table holds what eight shifts leave of each low byte. -/
theorem table_eq :
    table.toList = (List.range 256).map (fun n => shift^[8] (UInt16.ofNat n)) := by
  decide +kernel

/-- The table holds eight shifts of every byte. -/
theorem getD_table (byte : UInt8) : table.getD byte.toNat 0 = shift^[8] byte.toUInt16 := by
  rw [Array.getD_eq_getD_getElem?, ← Array.getElem?_toList, table_eq, List.getElem?_map,
    List.getElem?_range byte.toNat_lt, ← UInt16.ofNat_uInt8ToNat]
  exact Option.getD_some

/-- A high byte comes down as it is. -/
theorem iterate_high (byte : UInt8) : shift^[8] (byte.toUInt16 <<< 8) = byte.toUInt16 := by
  have hbytes : ∀ n < 256, shift^[8] (UInt16.ofNat n <<< 8) = UInt16.ofNat n := by decide +kernel
  rw [← UInt16.ofNat_uInt8ToNat]
  exact hbytes byte.toNat byte.toNat_lt

/-- A register is its two bytes. -/
theorem split_bytes (register : UInt16) :
    register = ((register >>> 8).toUInt8.toUInt16 <<< 8) ^^^ register.toUInt8.toUInt16 := by
  apply UInt16.eq_of_toBitVec_eq
  apply BitVec.eq_of_getLsbD_eq
  intro i hi
  have hhigh : ((register >>> 8).toUInt8.toUInt16 <<< 8).toBitVec =
      ((register.toBitVec >>> 8).setWidth 8).setWidth 16 <<< 8 := rfl
  have hlow : register.toUInt8.toUInt16.toBitVec = (register.toBitVec.setWidth 8).setWidth 16 := rfl
  rw [UInt16.toBitVec_xor, hhigh, hlow]
  simp only [BitVec.getLsbD_xor, BitVec.getLsbD_shiftLeft, BitVec.getLsbD_setWidth,
    BitVec.getLsbD_ushiftRight]
  by_cases h : i < 8
  · simp [h, hi]
  · have hsum : 8 + (i - 8) = i := by omega
    have hbyte : i - 8 < 8 := by omega
    have hword : i - 8 < 16 := by omega
    simp only [h, hi, hsum, hbyte, hword, decide_true, decide_false, Bool.not_false,
      Bool.true_and, Bool.false_and, Bool.xor_false]

/-- The high byte is all that is left after a shift by eight. -/
theorem shiftRight_toUInt8 (register : UInt16) :
    (register >>> 8).toUInt8.toUInt16 = register >>> 8 := by
  have hlt := register.toNat_lt
  apply UInt16.toNat_inj.mp
  rw [UInt8.toNat_toUInt16, UInt16.toNat_toUInt8, UInt16.toNat_shiftRight]
  show register.toNat >>> 8 % 2 ^ 8 = register.toNat >>> 8
  rw [Nat.shiftRight_eq_div_pow]
  omega

/-- A byte has no high byte. -/
theorem shiftRight_toUInt16 (byte : UInt8) : byte.toUInt16 >>> 8 = 0 := by
  have hlt := byte.toNat_lt
  apply UInt16.toNat_inj.mp
  rw [UInt16.toNat_shiftRight, UInt8.toNat_toUInt16]
  show byte.toNat >>> 8 = 0
  rw [Nat.shiftRight_eq_div_pow]
  omega

/-- The table does in one step what the division does bit by bit. -/
theorem advance_eq_bits (register : UInt16) (byte : UInt8) :
    advance register byte = advanceBits register byte := by
  show _ = shift^[8] (register ^^^ byte.toUInt16)
  rw [split_bytes (register ^^^ byte.toUInt16), iterate_xor, iterate_high, shiftRight_toUInt8,
    UInt16.shiftRight_xor, shiftRight_toUInt16, UInt16.xor_zero, UInt16.toUInt8_xor,
    UInt8.toUInt8_toUInt16, advance, getD_table]

/-- A byte is added at the low end, and shifted eight times. -/
theorem fold_cons (register : UInt16) (byte : UInt8) (data : Bytes) :
    fold register (byte :: data) = fold (shift^[8] (register ^^^ byte.toUInt16)) data := by
  rw [fold, List.foldl_cons, advance_eq_bits]
  rfl

/-- Registers that agree after some bytes agree before them. -/
theorem fold_injective (data : Bytes) : Function.Injective fun register => fold register data := by
  induction data with
  | nil => exact fun _ _ h => h
  | cons byte data ih =>
      intro first second h
      simp only [fold_cons] at h
      exact (UInt16.xor_left_inj byte.toUInt16).mp (iterate_injective 8 (ih h))

/-- The fold with the table is the one with eight steps for every byte. -/
theorem fold_eq_bits (register : UInt16) (data : Bytes) :
    fold register data = data.foldl advanceBits register := by
  induction data generalizing register with
  | nil => rfl
  | cons byte data ih =>
      rw [fold_cons, ih]
      rfl

/-- Feeding pieces one after the other is feeding them joined. -/
theorem fold_flatten (register : UInt16) (pieces : List Bytes) :
    fold register pieces.flatten = pieces.foldl fold register := by
  induction pieces generalizing register with
  | nil => rfl
  | cons piece pieces ih => rw [List.flatten_cons, fold_append, ih, List.foldl_cons]

/-- From any register, the table divides a byte string as the bits of the register do, and it does
not matter into which pieces the string is cut. -/
theorem divides_bit_by_bit (register : UInt16) :
    (∀ data, fold register data = data.foldl advanceBits register) ∧
      ∀ pieces : List Bytes, pieces.foldl fold register = fold register pieces.flatten :=
  ⟨fold_eq_bits register, fun pieces => (fold_flatten register pieces).symm⟩

/-- What is added to the register before some bytes is shifted on by them. -/
theorem fold_xor (register added : UInt16) (data : Bytes) :
    fold (register ^^^ added) data = fold register data ^^^ shift^[8 * data.length] added := by
  induction data generalizing register added with
  | nil => rfl
  | cons byte data ih =>
      have hentry : (register ^^^ added) ^^^ byte.toUInt16 =
          (register ^^^ byte.toUInt16) ^^^ added := by
        ac_rfl
      rw [fold_cons, fold_cons, hentry, iterate_xor, ih, ← Function.iterate_add_apply,
        List.length_cons, Nat.mul_succ]

/-- A mask that falls on a byte adds what the mask alone would leave. -/
theorem fold_modify (register : UInt16) (data : Bytes) (mask : UInt8) {i : Nat}
    (hi : i < data.length) :
    fold register (data.modify i (· ^^^ mask)) =
      fold register data ^^^ shift^[8 * (data.length - i)] mask.toUInt16 := by
  induction data generalizing register i with
  | nil => exact absurd hi (Nat.not_lt_zero i)
  | cons byte data ih =>
      cases i with
      | zero =>
          rw [List.modify_zero_cons, fold_cons, fold_cons, UInt8.toUInt16_xor,
            ← UInt16.xor_assoc, iterate_xor, fold_xor, ← Function.iterate_add_apply,
            List.length_cons, Nat.sub_zero, Nat.mul_succ]
      | succ i =>
          rw [List.modify_succ_cons, fold_cons, fold_cons, ih _ (Nat.lt_of_succ_lt_succ hi),
            List.length_cons, Nat.succ_sub_succ]

/-! ## Single bits -/

/-- Whether an odd number of the lowest `width` bits is set. -/
def isOdd (register : UInt16) : (width : Nat) → Bool
  | 0 => false
  | width + 1 => isOdd register width ^^ register.toBitVec.getLsbD width

/-- The parity of a sum is the sum of the parities. -/
theorem is_odd_xor (first second : UInt16) (width : Nat) :
    isOdd (first ^^^ second) width = (isOdd first width ^^ isOdd second width) := by
  induction width with
  | zero => rfl
  | succ width ih =>
      rw [isOdd, isOdd, isOdd, ih, UInt16.toBitVec_xor, BitVec.getLsbD_xor, Bool.xor_assoc,
        Bool.xor_left_comm (isOdd second width), Bool.xor_assoc]

/-- The parity of a register is that of its higher bits and its lowest one. -/
theorem is_odd_shiftRight (register : UInt16) (width : Nat) :
    (isOdd (register >>> 1) width ^^ register.toBitVec.getLsbD 0) = isOdd register (width + 1) := by
  induction width with
  | zero => rfl
  | succ width ih =>
      rw [isOdd, isOdd, ← ih, getLsbD_shiftRight_one, Bool.xor_right_comm]

/-- A shift loses the lowest bit and with it adds the generator, which has an odd number of bits. -/
theorem is_odd_shift (register : UInt16) : isOdd (shift register) 16 = isOdd register 16 := by
  have hgenerator : isOdd generator 16 = true := by decide
  have hnothing : isOdd 0 16 = false := by decide
  have hwhole : isOdd register 17 = isOdd register 16 := by
    rw [isOdd, BitVec.getLsbD_of_ge _ _ (Nat.le_refl 16), Bool.xor_false]
  rw [shift_eq, is_odd_xor, ← hwhole, ← is_odd_shiftRight register 16]
  cases register.toBitVec.getLsbD 0 with
  | true => rw [if_pos rfl, hgenerator]
  | false => rw [if_neg Bool.false_ne_true, hnothing]

/-- What is left of a single bit has an odd number of bits. -/
theorem is_odd_iterate (count : Nat) : isOdd (shift^[count] 1) 16 = true := by
  induction count with
  | zero => decide
  | succ count ih => rw [Function.iterate_succ_apply', is_odd_shift, ih]

/-- Whether a register differs from all that the next shifts lead to, and from where they start. -/
def avoids (target : UInt16) : (count : Nat) → UInt16 → Bool
  | 0, _ => true
  | count + 1, register => register != target && avoids target count (shift register)

/-- A register that avoids a target does not meet it within the bound. -/
theorem ne_of_avoids {target register : UInt16} {bound count : Nat}
    (h : avoids target bound register = true) (hcount : count < bound) :
    shift^[count] register ≠ target := by
  induction count generalizing bound register with
  | zero =>
      obtain ⟨bound, rfl⟩ := Nat.exists_eq_succ_of_ne_zero (Nat.ne_of_gt hcount)
      exact bne_iff_ne.mp (Bool.and_eq_true_iff.mp h).1
  | succ count ih =>
      obtain ⟨bound, rfl⟩ := Nat.exists_eq_succ_of_ne_zero (Nat.ne_of_gt (Nat.zero_lt_of_lt hcount))
      exact ih (Bool.and_eq_true_iff.mp h).2 (Nat.lt_of_succ_lt_succ hcount)

/-- A single bit does not come back within 1911 shifts. -/
theorem iterate_one_ne {count : Nat} (hpositive : 0 < count) (hcount : count ≤ 1911) :
    shift^[count] 1 ≠ 1 := by
  have havoids : avoids 1 1911 (shift 1) = true := by decide +kernel
  obtain ⟨count, rfl⟩ := Nat.exists_eq_succ_of_ne_zero (Nat.ne_of_gt hpositive)
  rw [Function.iterate_succ_apply]
  exact ne_of_avoids havoids (Nat.lt_of_succ_le hcount)

/-- Different numbers of shifts leave different registers, as long as they are at most 1911. -/
theorem iterate_one_inj {first second : Nat} (hfirst : first ≤ 1911) (hsecond : second ≤ 1911)
    (h : shift^[first] 1 = shift^[second] 1) : first = second := by
  wlog hle : first ≤ second generalizing first second
  · exact (this hsecond hfirst h.symm (Nat.le_of_not_le hle)).symm
  obtain ⟨rest, rfl⟩ := Nat.exists_eq_add_of_le hle
  rw [Function.iterate_add_apply] at h
  have hback : 1 = shift^[rest] 1 := iterate_injective first h
  cases rest with
  | zero => rfl
  | succ rest => exact absurd hback.symm (iterate_one_ne rest.succ_pos (by omega))

/-- Up to three single bits at different distances do not cancel out: an odd number of them leaves
an odd number of bits, and two of them differ. -/
theorem sum_ne_zero {depths : List Nat} (hdistinct : depths.Nodup)
    (hbound : ∀ depth ∈ depths, depth ≤ 1911) (hsome : 0 < depths.length)
    (hfew : depths.length ≤ 3) :
    depths.foldl (fun sum depth => sum ^^^ shift^[depth] 1) 0 ≠ 0 := by
  have hnothing : isOdd 0 16 = false := by decide
  match depths with
  | [] => exact absurd hsome (Nat.lt_irrefl 0)
  | [a] =>
      intro h
      have hodd : isOdd (0 ^^^ shift^[a] 1) 16 = true := by
        rw [is_odd_xor, is_odd_iterate, hnothing]
        rfl
      rw [List.foldl_cons, List.foldl_nil] at h
      rw [h, hnothing] at hodd
      cases hodd
  | [a, b] =>
      intro h
      obtain ⟨ha, hb⟩ := List.forall_mem_cons.mp hbound
      rw [List.foldl_cons, List.foldl_cons, List.foldl_nil, UInt16.zero_xor,
        UInt16.xor_eq_zero_iff] at h
      have hsame := iterate_one_inj ha (hb b (List.mem_singleton.mpr rfl)) h
      exact (List.nodup_cons.mp hdistinct).1 (List.mem_singleton.mpr hsame)
  | [a, b, c] =>
      intro h
      have hodd : isOdd (0 ^^^ shift^[a] 1 ^^^ shift^[b] 1 ^^^ shift^[c] 1) 16 = true := by
        rw [is_odd_xor, is_odd_xor, is_odd_xor, is_odd_iterate, is_odd_iterate, is_odd_iterate,
          hnothing]
        rfl
      rw [List.foldl_cons, List.foldl_cons, List.foldl_cons, List.foldl_nil] at h
      rw [h, hnothing] at hodd
      cases hodd
  | a :: b :: c :: d :: rest =>
      rw [List.length_cons, List.length_cons, List.length_cons, List.length_cons] at hfew
      omega

end GroundLink.Checksum
