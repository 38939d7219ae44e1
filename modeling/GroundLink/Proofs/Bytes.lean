import GroundLink.Bytes
import Mathlib.Data.List.DropRight

/-!
# Numbers, pieces and texts as bytes

What is written into a byte string is read back from it: a number modulo the power of 256 that the
width allows, pieces of one length, and a text. The zero bytes at the end of a text are the NUL
characters at its end, since no other character has a zero byte in UTF-8.
-/

namespace GroundLink

namespace Bytes

/-! ## Numbers -/

/-- The last byte counts once, and those before it 256 times. -/
theorem toNat_concat (bytes : Bytes) (byte : UInt8) :
    toNat (bytes ++ [byte]) = toNat bytes * 256 + byte.toNat :=
  List.foldl_append

/-- The digits of a number write the number, as far as the width goes. -/
theorem toNat_ofNat (width n : Nat) : toNat (ofNat width n) = n % 256 ^ width := by
  induction width generalizing n with
  | zero =>
      rw [Nat.pow_zero, Nat.mod_one]
      rfl
  | succ width ih =>
      have hdigit : (UInt8.ofNat (n % 256)).toNat = n % 256 := by
        rw [UInt8.toNat_ofNat', Nat.mod_mod]
      -- the last digit is the remainder, and the others write the quotient
      rw [ofNat, toNat_concat, ih, hdigit, Nat.pow_succ, Nat.mul_comm (256 ^ width), Nat.mod_mul]
      omega

/-- Bytes write a number below the power of 256 that their number allows. -/
theorem toNat_lt (bytes : Bytes) : toNat bytes < 256 ^ bytes.length := by
  induction bytes using List.reverseRecOn with
  | nil => decide
  | append_singleton bytes byte ih =>
      have hbyte := byte.toNat_lt
      rw [toNat_concat, List.length_append, List.length_singleton, Nat.pow_succ]
      omega

/-- Bytes are the digits of the number that they write. -/
theorem ofNat_toNat (bytes : Bytes) : ofNat bytes.length (toNat bytes) = bytes := by
  induction bytes using List.reverseRecOn with
  | nil => rfl
  | append_singleton bytes byte ih =>
      have hbyte := byte.toNat_lt
      have hquotient : (toNat bytes * 256 + byte.toNat) / 256 = toNat bytes := by omega
      have hdigit : (toNat bytes * 256 + byte.toNat) % 256 = byte.toNat := by omega
      rw [toNat_concat, List.length_append, List.length_singleton, ofNat, hquotient, hdigit, ih,
        UInt8.ofNat_toNat]

/-- Two bytes of a word write the word. -/
theorem toUInt16_ofUInt16 (word : UInt16) : toUInt16 (ofUInt16 word) = word := by
  have hlt := word.toNat_lt
  have hall : (ofUInt16 word).take 2 = ofUInt16 word :=
    List.take_of_length_le (Nat.le_of_eq (length_ofNat 2 word.toNat))
  apply UInt16.toNat_inj.mp
  rw [toUInt16, hall, ofUInt16, toNat_ofNat, UInt16.toNat_ofNat']
  omega

/-- Two bytes are the bytes of the word that they write. -/
theorem ofUInt16_toUInt16 {bytes : Bytes} (h : bytes.length = 2) :
    ofUInt16 (toUInt16 bytes) = bytes := by
  have hlt := toNat_lt bytes
  rw [h] at hlt
  have hword : (toUInt16 bytes).toNat = toNat bytes := by
    rw [toUInt16, List.take_of_length_le (Nat.le_of_eq h), UInt16.toNat_ofNat']
    exact Nat.mod_eq_of_lt hlt
  rw [ofUInt16, hword, ← h, ofNat_toNat]

/-- Four bytes of a word write the word. -/
theorem toUInt32_ofUInt32 (word : UInt32) : toUInt32 (ofUInt32 word) = word := by
  have hlt := word.toNat_lt
  have hall : (ofUInt32 word).take 4 = ofUInt32 word :=
    List.take_of_length_le (Nat.le_of_eq (length_ofNat 4 word.toNat))
  apply UInt32.toNat_inj.mp
  rw [toUInt32, hall, ofUInt32, toNat_ofNat, UInt32.toNat_ofNat']
  omega

/-- Four bytes are the bytes of the word that they write. -/
theorem ofUInt32_toUInt32 {bytes : Bytes} (h : bytes.length = 4) :
    ofUInt32 (toUInt32 bytes) = bytes := by
  have hlt := toNat_lt bytes
  rw [h] at hlt
  have hword : (toUInt32 bytes).toNat = toNat bytes := by
    rw [toUInt32, List.take_of_length_le (Nat.le_of_eq h), UInt32.toNat_ofNat']
    exact Nat.mod_eq_of_lt hlt
  rw [ofUInt32, hword, ← h, ofNat_toNat]

/-- A byte string is its first bytes and the others. -/
theorem exists_front {bytes : Bytes} {count : Nat} (h : count ≤ bytes.length) :
    ∃ front rest, bytes = front ++ rest ∧ front.length = count :=
  ⟨bytes.take count, bytes.drop count, (List.take_append_drop count bytes).symm,
    List.length_take_of_le h⟩

/-- Pieces of one length are found again in their concatenation. -/
theorem pieces_flatten {size : Nat} {parts : List Bytes} (hsize : 0 < size)
    (hparts : ∀ part ∈ parts, part.length = size) : pieces size parts.flatten = parts := by
  induction parts with
  | nil =>
      rw [pieces, dif_pos (Or.inr List.flatten_nil)]
  | cons part rest ih =>
      obtain ⟨hpart, hrest⟩ := List.forall_mem_cons.mp hparts
      have hne : ¬(size = 0 ∨ (part :: rest).flatten = []) := by
        intro h
        rcases h with h | h
        · exact absurd h (Nat.ne_of_gt hsize)
        · have hlength := congrArg List.length h
          rw [List.flatten_cons, List.length_append, hpart] at hlength
          exact absurd hlength (by rw [List.length_nil]; omega)
      rw [pieces, dif_neg hne]
      show ((part :: rest).flatten.take size) :: pieces size ((part :: rest).flatten.drop size) = _
      rw [List.flatten_cons, List.take_left' hpart, List.drop_left' hpart, ih hrest]

/-- Pieces of one length have as many bytes as their number says. -/
theorem length_flatten {size : Nat} {parts : List Bytes}
    (hparts : ∀ part ∈ parts, part.length = size) :
    parts.flatten.length = parts.length * size := by
  induction parts with
  | nil => exact (Nat.zero_mul size).symm
  | cons part rest ih =>
      obtain ⟨hpart, hrest⟩ := List.forall_mem_cons.mp hparts
      rw [List.flatten_cons, List.length_append, hpart, ih hrest, List.length_cons, Nat.succ_mul,
        Nat.add_comm]

/-- Bytes are cut into pieces of one length without a rest, if their number is a multiple of it. -/
theorem pieces_of_length {size count : Nat} {bytes : Bytes} (hsize : 0 < size)
    (hlength : bytes.length = count * size) :
    (pieces size bytes).length = count ∧ (∀ part ∈ pieces size bytes, part.length = size) ∧
      (pieces size bytes).flatten = bytes := by
  induction count generalizing bytes with
  | zero =>
      obtain rfl : bytes = [] := List.eq_nil_of_length_eq_zero (hlength.trans (Nat.zero_mul size))
      rw [pieces, dif_pos (Or.inr rfl)]
      exact ⟨rfl, List.forall_mem_nil _, rfl⟩
  | succ count ih =>
      rw [Nat.succ_mul] at hlength
      have hne : ¬(size = 0 ∨ bytes = []) := by
        rintro (rfl | rfl)
        · exact Nat.lt_irrefl 0 hsize
        · rw [List.length_nil] at hlength
          omega
      have hdrop : (bytes.drop size).length = count * size := by
        rw [List.length_drop]
        omega
      obtain ⟨hcount, hparts, hjoined⟩ := ih hdrop
      rw [pieces, dif_neg hne]
      refine ⟨congrArg (· + 1) hcount, List.forall_mem_cons.mpr ⟨?_, hparts⟩, ?_⟩
      · rw [List.length_take]
        omega
      · rw [List.flatten_cons, hjoined, List.take_append_drop]

/-- Pieces are cut one after another. -/
theorem pieces_append {size count : Nat} {front : Bytes} (hsize : 0 < size)
    (hlength : front.length = count * size) (rest : Bytes) :
    pieces size (front ++ rest) = pieces size front ++ pieces size rest := by
  induction count generalizing front with
  | zero =>
      obtain rfl := List.eq_nil_of_length_eq_zero (hlength.trans (Nat.zero_mul size))
      rw [List.nil_append, pieces.eq_1 size [], dif_pos (Or.inr rfl), List.nil_append]
  | succ count ih =>
      rw [Nat.succ_mul] at hlength
      have hlong : size ≤ front.length := by omega
      obtain ⟨first, others, rfl, hfirst⟩ := exists_front hlong
      have hothers : others.length = count * size := by
        rw [List.length_append] at hlength
        omega
      have hcut (others : Bytes) : pieces size (first ++ others) = first :: pieces size others := by
        have hne : ¬(size = 0 ∨ first ++ others = []) := by
          rintro (hzero | hnil)
          · omega
          · rw [(List.append_eq_nil_iff.mp hnil).1, List.length_nil] at hfirst
            omega
        rw [pieces, dif_neg hne]
        show (first ++ others).take size :: pieces size ((first ++ others).drop size) = _
        rw [List.take_left' hfirst, List.drop_left' hfirst]
      rw [List.append_assoc, hcut, hcut, ih hothers, List.cons_append]

/-- Cutting loses nothing. -/
theorem flatten_pieces {size : Nat} (hsize : 0 < size) (data : Bytes) :
    (pieces size data).flatten = data := by
  fun_induction pieces size data with
  | case1 data h => rcases h with rfl | rfl <;> first | rfl | omega
  | case2 data h _ ih => rw [List.flatten_cons, ih, List.take_append_drop]

end Bytes

/-! ## Texts -/

/-- The loop puts the bytes from an index on behind those it has. -/
theorem byteArray_toList_loop (array : ByteArray) (i : Nat) (before : Bytes) :
    ByteArray.toList.loop array i before = before.reverse ++ array.data.toList.drop i := by
  fun_induction ByteArray.toList.loop array i before with
  | case1 i before hi ih =>
      have hi' : i < array.data.toList.length := hi
      have hbyte : array.get! i = array.data.toList[i] := by
        rw [ByteArray.get!, getElem!_pos array.data i hi]
        rfl
      rw [ih, List.drop_eq_getElem_cons hi', hbyte, List.reverse_cons, List.append_assoc]
      rfl
  | case2 i before hi =>
      rw [List.drop_eq_nil_of_le (Nat.le_of_not_lt hi), List.append_nil]

/-- An array of bytes gives the bytes that it holds. -/
theorem byteArray_toList (array : ByteArray) : array.toList = array.data.toList :=
  byteArray_toList_loop array 0 []

/-- The bytes of a text are those of its characters, one after another. -/
theorem utf8_eq (s : String) : utf8 s = s.toList.flatMap String.utf8EncodeChar := by
  rw [utf8, String.toUTF8_eq_toByteArray, byteArray_toList, ← String.utf8Encode_toList,
    List.utf8Encode, List.toList_data_toByteArray]

/-- The bytes of a text write the text. -/
theorem ofUtf8?_utf8 (s : String) : ofUtf8? (utf8 s) = some s := by
  have hbytes : (utf8 s).toByteArray = s.toByteArray := by
    rw [utf8, String.toUTF8_eq_toByteArray, byteArray_toList]
    apply ByteArray.ext
    rw [List.data_toByteArray, Array.toArray_toList]
  rw [ofUtf8?, hbytes, String.fromUTF8?, dif_pos s.isValidUTF8]
  rfl

/-- A text that is read from bytes is written as these bytes. -/
theorem utf8_of_ofUtf8? {bytes : Bytes} {s : String} (h : ofUtf8? bytes = some s) :
    utf8 s = bytes := by
  unfold ofUtf8? String.fromUTF8? at h
  split at h
  case isTrue hvalid =>
    obtain rfl := Option.some.inj h
    show bytes.toByteArray.toList = bytes
    rw [byteArray_toList, List.data_toByteArray]
  case isFalse => cases h

/-- Only the NUL character has a zero byte. -/
theorem ne_zero_of_mem_utf8EncodeChar {c : Char} (hc : c ≠ '\x00') :
    ∀ byte ∈ String.utf8EncodeChar c, byte ≠ 0 := by
  -- the bytes of a longer character all have their highest bit
  have hmarked (bits : UInt8) {mark : UInt8} (hmark : mark ≠ 0) : bits ||| mark ≠ 0 :=
    fun h => hmark (UInt8.or_eq_zero_iff.mp h).2
  rw [String.utf8EncodeChar_eq_utf8EncodeCharFast, String.utf8EncodeCharFast]
  split
  case isTrue hsmall =>
    refine List.forall_mem_singleton.mpr fun hzero => hc ?_
    have hbound : c.val.toNat ≤ 127 := UInt32.le_iff_toNat_le.mp hsmall
    have hbyte := congrArg UInt8.toNat hzero
    rw [UInt32.toNat_toUInt8, Nat.mod_eq_of_lt (by omega)] at hbyte
    exact Char.ext (UInt32.toNat_inj.mp hbyte)
  case isFalse =>
    split
    case isTrue =>
      exact List.forall_mem_cons.mpr ⟨hmarked _ (by decide),
        List.forall_mem_singleton.mpr (hmarked _ (by decide))⟩
    case isFalse =>
      split
      case isTrue =>
        exact List.forall_mem_cons.mpr ⟨hmarked _ (by decide),
          List.forall_mem_cons.mpr ⟨hmarked _ (by decide),
            List.forall_mem_singleton.mpr (hmarked _ (by decide))⟩⟩
      case isFalse =>
        exact List.forall_mem_cons.mpr ⟨hmarked _ (by decide),
          List.forall_mem_cons.mpr ⟨hmarked _ (by decide),
            List.forall_mem_cons.mpr ⟨hmarked _ (by decide),
              List.forall_mem_singleton.mpr (hmarked _ (by decide))⟩⟩⟩

/-- Zero bytes at the end do not matter to what is left without them. -/
theorem Bytes.trimZeros_append_zeros (bytes : Bytes) (count : Nat) :
    trimZeros (bytes ++ List.replicate count 0) = trimZeros bytes := by
  rw [trimZeros, List.reverse_append, List.reverse_replicate, List.dropWhile_append_of_pos]
  · rfl
  · intro byte hbyte
    rw [List.eq_of_mem_replicate hbyte]
    rfl

/-- Bytes that end in another byte have none to lose. -/
theorem Bytes.trimZeros_concat {bytes : Bytes} {byte : UInt8} (hbyte : byte ≠ 0) :
    trimZeros (bytes ++ [byte]) = bytes ++ [byte] := by
  rw [trimZeros, List.reverse_append, List.reverse_singleton, List.singleton_append,
    List.dropWhile_cons_of_neg (by simpa using hbyte), List.reverse_cons, List.reverse_reverse]

/-- Cutting zero bytes again does nothing. -/
theorem Bytes.trimZeros_trimZeros (bytes : Bytes) :
    trimZeros (trimZeros bytes) = trimZeros bytes :=
  List.rdropWhile_idempotent (· == 0) bytes

/-- The zero bytes at the end of a text are the NUL characters at its end. -/
theorem trimZeros_utf8 {s t : String} {count : Nat}
    (hs : s.toList = t.toList ++ List.replicate count '\x00')
    (ht : t.toList.getLast? ≠ some '\x00') : Bytes.trimZeros (utf8 s) = utf8 t := by
  have hnuls : (List.replicate count '\x00').flatMap String.utf8EncodeChar =
      List.replicate count 0 := by
    rw [List.flatMap_replicate]
    exact List.flatten_replicate_singleton
  rw [utf8_eq, hs, List.flatMap_append, hnuls, Bytes.trimZeros_append_zeros, utf8_eq]
  cases hlast : t.toList.getLast? with
  | none =>
      rw [List.getLast?_eq_none_iff.mp hlast]
      rfl
  | some c =>
      -- the last byte of the last character is not zero
      obtain ⟨before, hbefore⟩ := List.getLast?_eq_some_iff.mp hlast
      have hc : c ≠ '\x00' := fun h => ht (h ▸ hlast)
      cases hend : (String.utf8EncodeChar c).getLast? with
      | none => exact absurd (List.getLast?_eq_none_iff.mp hend) String.utf8EncodeChar_ne_nil
      | some byte =>
          obtain ⟨front, hfront⟩ := List.getLast?_eq_some_iff.mp hend
          have hbyte : byte ≠ 0 :=
            ne_zero_of_mem_utf8EncodeChar hc byte (List.mem_of_getLast? hend)
          rw [hbefore, List.flatMap_append, List.flatMap_singleton, hfront, ← List.append_assoc,
            Bytes.trimZeros_concat hbyte]

/-- Every text is one without NUL characters at its end, followed by such. -/
theorem exists_without_nuls (s : String) :
    ∃ (t : String) (count : Nat), s.toList = t.toList ++ List.replicate count '\x00' ∧
      t.toList.getLast? ≠ some '\x00' := by
  let isNul (c : Char) : Bool := c == '\x00'
  have hnuls : s.toList.rtakeWhile isNul =
      List.replicate (s.toList.rtakeWhile isNul).length '\x00' :=
    List.eq_replicate_of_mem fun c hc => by simpa [isNul] using List.mem_rtakeWhile_imp hc
  refine ⟨String.ofList (s.toList.rdropWhile isNul), (s.toList.rtakeWhile isNul).length, ?_, ?_⟩
  · rw [String.toList_ofList, ← hnuls, List.rdropWhile_append_rtakeWhile]
  · rw [String.toList_ofList]
    intro hlast
    obtain ⟨before, hbefore⟩ := List.getLast?_eq_some_iff.mp hlast
    have hne : s.toList.rdropWhile isNul ≠ [] := by simp [hbefore]
    refine List.rdropWhile_last_not isNul s.toList hne ?_
    simp [hbefore, isNul]

end GroundLink
