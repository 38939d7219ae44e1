import GroundLink.Field.Decode
import GroundLink.Field.Encode
import GroundLink.Proofs.Bytes

/-!
# Scalars there and back

A field takes values in more than one form: an integer with or without a sign, a timestamp or a
count of seconds, a text with NUL characters at its end. Reading the bytes gives one of these forms
only. Read `Kind.Canonical` first: it says which. `canonical_of_encodeScalar` says that reading the
bytes of a value gives the canonical form of the value.
-/

namespace GroundLink

/-- The form in which a field gives a value back. -/
inductive Kind.Canonical : Kind → Value → Value → Prop
  | unsigned {w : Width} {value : Value} {n : UInt64} (h : value.int? = some n.toNat) :
      Canonical (.unsigned w) value (.unsigned n)
  | signed {w : Width} {value : Value} {n : Int64} (h : value.int? = some n.toInt) :
      Canonical (.signed w) value (.signed n)
  | bool (b : Bool) : Canonical .bool (.bool b) (.bool b)
  | timestamp (t : Timestamp) : Canonical .timestamp (.timestamp t) (.timestamp t)
  /-- A count of seconds. -/
  | seconds {value : Value} {t : Timestamp} (h : value.int? = some t.seconds.toNat) :
      Canonical .timestamp value (.timestamp t)
  | bytes (data : Bytes) : Canonical .bytes (.bytes data) (.bytes data)
  /-- The NUL characters at the end are lost. -/
  | text {s t : String} {count : Nat} (hs : s.toList = t.toList ++ List.replicate count '\x00')
      (ht : t.toList.getLast? ≠ some '\x00') : Canonical .text (.text s) (.text t)

/-- No value has two canonical forms. -/
theorem Kind.Canonical.unique {kind : Kind} {value first second : Value}
    (h : kind.Canonical value first) (h' : kind.Canonical value second) : first = second := by
  cases h with
  | unsigned h =>
      cases h' with
      | unsigned h' =>
          have hsame := Int.ofNat_inj.mp (Option.some.inj (h.symm.trans h'))
          rw [UInt64.toNat_inj.mp hsame]
  | signed h =>
      cases h' with
      | signed h' => rw [Int64.toInt_inj.mp (Option.some.inj (h.symm.trans h'))]
  | bool b => cases h'; rfl
  | timestamp t =>
      cases h' with
      | timestamp => rfl
      | seconds h' => cases h'
  | @seconds _ t h =>
      cases h' with
      | timestamp => cases h
      | @seconds _ t' h' =>
          have hsame := Int.ofNat_inj.mp (Option.some.inj (h.symm.trans h'))
          have hseconds : t.seconds = t'.seconds := UInt32.toNat_inj.mp hsame
          cases t
          cases t'
          exact congrArg (Value.timestamp ⟨·⟩) hseconds
  | bytes data => cases h'; rfl
  | @text s t count hs ht =>
      cases h' with
      | @text _ t' count' hs' ht' =>
          -- both texts are what is read when the zero bytes at the end are gone
          have hbytes := (trimZeros_utf8 hs ht).symm.trans (trimZeros_utf8 hs' ht')
          have hsame := (ofUtf8?_utf8 t).symm.trans (hbytes ▸ ofUtf8?_utf8 t')
          rw [Option.some.inj hsame]

/-- An integer has 64 bits at most. -/
theorem Width.bits_le (w : Width) : 0 < w.bits ∧ w.bits ≤ 64 := by
  cases w <;> decide

namespace Field

variable {field : Field} {value : Value} {data : Bytes}

/-! ## Words -/

/-- A word has as many bytes as it is asked for. -/
theorem length_wordBytes (field : Field) (width n : Nat) :
    (field.wordBytes width n).length = width := by
  unfold wordBytes
  cases field.order with
  | big => exact Bytes.length_ofNat width n
  | little => rw [List.length_reverse, Bytes.length_ofNat]

/-- A word is read as it was written, in either byte order. -/
theorem word_wordBytes (field : Field) (width n : Nat) :
    field.word (field.wordBytes width n) = n % 256 ^ width := by
  unfold word wordBytes
  cases field.order with
  | big => exact Bytes.toNat_ofNat width n
  | little =>
      dsimp only
      rw [List.reverse_reverse, Bytes.toNat_ofNat]

/-- A number in two's complement. -/
theorem twosComplement_emod {bits : Nat} {n : Int} (hbits : 0 < bits)
    (hlow : -2 ^ (bits - 1) ≤ n) (hhigh : n ≤ 2 ^ (bits - 1) - 1) :
    twosComplement bits (n % 2 ^ bits).toNat = n := by
  obtain ⟨rest, rfl⟩ := Nat.exists_eq_succ_of_ne_zero (Nat.ne_of_gt hbits)
  rw [Nat.succ_sub_one] at hlow hhigh
  unfold twosComplement
  rw [Nat.succ_sub_one, Int.pow_succ]
  have hcast : ((2 ^ rest : Nat) : Int) = 2 ^ rest := by push_cast; rfl
  generalize (2 : Nat) ^ rest = half at hcast ⊢
  rw [← hcast] at hlow hhigh ⊢
  -- a negative number is stored one whole range higher, where its highest bit is set
  rcases Int.lt_or_le n 0 with hneg | hpos
  · have hmod : n % (half * 2) = n + half * 2 := by
      rw [← Int.add_emod_right]
      exact Int.emod_eq_of_lt (by omega) (by omega)
    rw [hmod, if_neg (by omega)]
    omega
  · rw [Int.emod_eq_of_lt hpos (by omega), if_pos (by omega)]
    omega

/-- An integer that is accepted is between its bounds, and its bytes write it in two's
complement. -/
theorem word_of_encodeInt {width : Nat} {low high n : Int}
    (h : field.encodeInt width low high n = .ok data) :
    low ≤ n ∧ n ≤ high ∧ data.length = width ∧
      field.word data = (n % 2 ^ (8 * width)).toNat := by
  unfold encodeInt at h
  split at h
  case isTrue hbounds =>
    obtain rfl := Except.ok.inj h
    refine ⟨hbounds.1, hbounds.2, length_wordBytes field width _, ?_⟩
    have hpow : (256 : Nat) ^ width = 2 ^ (8 * width) := (Nat.pow_mul 2 8 width).symm
    have hcast : ((2 ^ (8 * width) : Nat) : Int) = 2 ^ (8 * width) := by push_cast; rfl
    have hpositive : 0 < 2 ^ (8 * width) := Nat.two_pow_pos _
    have hlt : (n % 2 ^ (8 * width)).toNat < 2 ^ (8 * width) := by
      have := Int.emod_lt_of_pos n (b := 2 ^ (8 * width)) (by omega)
      have := Int.emod_nonneg n (b := 2 ^ (8 * width)) (by omega)
      omega
    rw [word_wordBytes, hpow, Nat.mod_eq_of_lt hlt]
  case isFalse => cases h

/-- A number without a sign that is accepted is written as it is. -/
theorem word_of_encodeInt_unsigned {width : Nat} {n : Int}
    (h : field.encodeInt width 0 (2 ^ (8 * width) - 1) n = .ok data) :
    data.length = width ∧ (field.word data : Int) = n ∧ n < 2 ^ (8 * width) := by
  obtain ⟨hlow, hhigh, hlength, hword⟩ := word_of_encodeInt h
  rw [Int.emod_eq_of_lt hlow (by omega)] at hword
  exact ⟨hlength, by omega, by omega⟩

/-! ## Scalars -/

/-- The word of an unsigned integer, read without a sign, is the integer. -/
theorem unsigned_of_encodeInt {w : Width} {n : Int}
    (h : field.encodeInt w.bytes 0 (2 ^ w.bits - 1) n = .ok data) :
    data.length = w.bytes ∧ ((UInt64.ofNat (field.word data)).toNat : Int) = n := by
  obtain ⟨hlength, hword, hlt⟩ := word_of_encodeInt_unsigned h
  refine ⟨hlength, ?_⟩
  -- every width fits the word of 64 bits that the value is given back in
  have hle : (2 : Nat) ^ w.bits ≤ 2 ^ 64 := Nat.pow_le_pow_right (by decide) w.bits_le.2
  have hcast : ((2 ^ w.bits : Nat) : Int) = 2 ^ w.bits := by push_cast; rfl
  have hbits : (2 : Int) ^ (8 * w.bytes) = 2 ^ w.bits := rfl
  rw [UInt64.toNat_ofNat', Nat.mod_eq_of_lt (by omega)]
  exact hword

/-- The word of a signed integer, read in two's complement, is the integer. -/
theorem signed_of_encodeInt {w : Width} {n : Int}
    (h : field.encodeInt w.bytes (-(2 ^ (w.bits - 1))) (2 ^ (w.bits - 1) - 1) n = .ok data) :
    data.length = w.bytes ∧
      (Int64.ofInt (twosComplement w.bits (field.word data))).toInt = n := by
  obtain ⟨hlow, hhigh, hlength, hword⟩ := word_of_encodeInt h
  refine ⟨hlength, ?_⟩
  have hle : (2 : Nat) ^ (w.bits - 1) ≤ 2 ^ 63 :=
    Nat.pow_le_pow_right (by decide) (Nat.sub_le_sub_right w.bits_le.2 1)
  have hcast : ((2 ^ (w.bits - 1) : Nat) : Int) = 2 ^ (w.bits - 1) := by push_cast; rfl
  rw [hword]
  show (Int64.ofInt (twosComplement w.bits (n % 2 ^ w.bits).toNat)).toInt = n
  rw [twosComplement_emod w.bits_le.1 hlow hhigh]
  exact Int64.toInt_ofInt_of_le (by omega) (by omega)

/-- The word of an offset is the offset. -/
theorem seconds_of_encodeInt {n : Int} (h : field.encodeInt 4 0 (2 ^ 32 - 1) n = .ok data) :
    data.length = 4 ∧ ((UInt32.ofNat (field.word data)).toNat : Int) = n := by
  have hwide : field.encodeInt 4 0 (2 ^ (8 * 4) - 1) n = .ok data := h
  obtain ⟨hlength, hword, hlt⟩ := word_of_encodeInt_unsigned hwide
  refine ⟨hlength, ?_⟩
  rw [UInt32.toNat_ofNat', Nat.mod_eq_of_lt (by omega)]
  exact hword

/-- Reading the bytes of a scalar gives the canonical form of the scalar. -/
theorem canonical_of_encodeScalar (hfixed : field.isVariable = false)
    (hfloat : field.kind.isFloat = false) (h : field.encodeScalar value = .ok data) :
    data.length = field.kind.elementSize ∧
      field.kind.Canonical value (field.decodeScalar data) := by
  unfold isVariable at hfixed
  unfold encodeScalar at h
  unfold decodeScalar
  cases hkind : field.kind with
  | unsigned w =>
      simp only [hkind] at h ⊢
      split at h
      case h_1 n hn =>
        obtain ⟨hlength, hsame⟩ := unsigned_of_encodeInt h
        exact ⟨hlength, .unsigned (hn.trans (congrArg some hsame.symm))⟩
      case h_2 => cases h
  | signed w =>
      simp only [hkind] at h ⊢
      split at h
      case h_1 n hn =>
        obtain ⟨hlength, hsame⟩ := signed_of_encodeInt h
        exact ⟨hlength, .signed (hn.trans (congrArg some hsame.symm))⟩
      case h_2 => cases h
  | float32 | float64 => rw [hkind] at hfloat; cases hfloat
  | bool =>
      simp only [hkind] at h ⊢
      split at h
      case h_1 b =>
        obtain rfl := Except.ok.inj h
        have hword : (field.word [if b then 1 else 0] != 0) = b := by
          unfold word
          cases field.order <;> cases b <;> rfl
        rw [hword]
        exact ⟨rfl, .bool b⟩
      case h_2 => cases h
  | timestamp =>
      simp only [hkind] at h ⊢
      split at h
      case h_1 t =>
        obtain rfl := Except.ok.inj h
        have hword : field.word (field.wordBytes 4 t.seconds.toNat) = t.seconds.toNat := by
          rw [word_wordBytes]
          exact Nat.mod_eq_of_lt t.seconds.toNat_lt
        rw [hword, UInt32.ofNat_toNat]
        exact ⟨length_wordBytes field 4 _, .timestamp t⟩
      case h_2 =>
        split at h
        case h_1 n hn =>
          obtain ⟨hlength, hsame⟩ := seconds_of_encodeInt h
          exact ⟨hlength, .seconds (hn.trans (congrArg some hsame.symm))⟩
        case h_2 => cases h
  | bytes | text => rw [hkind] at hfixed; cases hfixed

end Field

end GroundLink
