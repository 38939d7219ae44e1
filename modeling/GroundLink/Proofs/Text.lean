import GroundLink.Proofs.Bytes
import GroundLink.Proofs.Except
import GroundLink.Text.Blank
import GroundLink.Text.Hex

/-!
# Visible texts, and bytes in hexadecimal

There is nothing to cut from the ends of a text of visible characters (`trim_of_visible`), and bytes
that are written in hexadecimal are read back (`readHex_hex`).
-/

namespace GroundLink.Text

/-- All characters are visible ones of the ASCII range. -/
def Visible (text : List Char) : Prop :=
  ∀ c ∈ text, 0x21 ≤ c.toNat ∧ c.toNat ≤ 0x7E

instance (text : List Char) : Decidable (Visible text) :=
  List.decidableBAll (fun c : Char => 0x21 ≤ c.toNat ∧ c.toNat ≤ 0x7E) text

/-- Two visible texts are visible together. -/
theorem Visible.append {front rest : List Char} (hfront : Visible front) (hrest : Visible rest) :
    Visible (front ++ rest) :=
  List.forall_mem_append.mpr ⟨hfront, hrest⟩

/-- Visible characters are not blank. -/
theorem Visible.not_blank {text : List Char} (h : Visible text) :
    ∀ c ∈ text, ¬isBlank c = true := by
  intro c hc
  obtain ⟨hlow, hhigh⟩ := h c hc
  rw [Bool.not_eq_true]
  simp only [isBlank, Bool.or_eq_false_iff, Bool.and_eq_false_iff, beq_eq_false_iff_ne,
    decide_eq_false_iff_not]
  omega

/-- There is nothing to cut from a text of visible characters. -/
theorem trim_of_visible {text : List Char} (h : Visible text) : trim text = text := by
  have hcut {text : List Char} (h : ∀ c ∈ text, ¬isBlank c = true) :
      text.dropWhile isBlank = text := by
    cases text with
    | nil => rfl
    | cons c rest => exact List.dropWhile_cons_of_neg (h c List.mem_cons_self)
  have hreverse : ∀ c ∈ text.reverse, ¬isBlank c = true :=
    fun c hc => h.not_blank c (List.mem_reverse.mp hc)
  rw [trim, trimEnd, trimStart, hcut h.not_blank, hcut hreverse, List.reverse_reverse]

/-- A visible text has no blanks to lose. -/
theorem trimmed_of_visible {text : String} (h : Visible text.toList) : trimmed text = text := by
  rw [trimmed, trim_of_visible h, String.ofList_toList]

/-! ## Blanks -/

/-- All characters are blank. -/
def Blanks (text : List Char) : Prop :=
  ∀ c ∈ text, isBlank c = true

/-- Blanks in front are cut. -/
theorem trimStart_append {blanks : List Char} (h : Blanks blanks) (text : List Char) :
    trimStart (blanks ++ text) = trimStart text :=
  List.dropWhile_append_of_pos h

/-- Blanks at the end are cut. -/
theorem trimEnd_append {blanks : List Char} (h : Blanks blanks) (text : List Char) :
    trimEnd (text ++ blanks) = trimEnd text := by
  have hreverse : ∀ c ∈ blanks.reverse, isBlank c = true :=
    fun c hc => h c (List.mem_reverse.mp hc)
  rw [trimEnd, trimEnd, List.reverse_append, List.dropWhile_append_of_pos hreverse]

/-- What is cut from the start is blanks. -/
theorem exists_trimStart (text : List Char) :
    ∃ blanks, Blanks blanks ∧ blanks ++ trimStart text = text :=
  ⟨text.takeWhile isBlank, fun _ hc => List.mem_takeWhile_imp hc,
    List.takeWhile_append_dropWhile⟩

/-- What is cut from the end is blanks. -/
theorem exists_trimEnd (text : List Char) :
    ∃ blanks, Blanks blanks ∧ trimEnd text ++ blanks = text := by
  refine ⟨(text.reverse.takeWhile isBlank).reverse,
    fun c hc => List.mem_takeWhile_imp (List.mem_reverse.mp hc), ?_⟩
  rw [trimEnd, ← List.reverse_append, List.takeWhile_append_dropWhile, List.reverse_reverse]

/-- A blank in front is cut with the rest if the rest is blank. -/
theorem trimEnd_cons (c : Char) (text : List Char) :
    trimEnd (c :: text) =
      if trimEnd text = [] ∧ isBlank c = true then [] else c :: trimEnd text := by
  rw [trimEnd, trimEnd, List.reverse_cons, List.dropWhile_append]
  by_cases htext : text.reverse.dropWhile isBlank = []
  · by_cases hc : isBlank c = true <;> simp [htext, hc]
  · simp [htext]

/-- What is cut from the end of a text does not depend on what stands in front of an end that is
kept. -/
theorem trimEnd_append_congr {text other : List Char} (h : trimEnd text = trimEnd other)
    (front : List Char) : trimEnd (front ++ text) = trimEnd (front ++ other) := by
  induction front with
  | nil => exact h
  | cons c front ih => rw [List.cons_append, List.cons_append, trimEnd_cons, trimEnd_cons, ih]

/-- If nothing is cut from the end of a text, nothing is cut from its last part. -/
theorem trimEnd_of_append {front rest : List Char} (h : trimEnd (front ++ rest) = front ++ rest) :
    trimEnd rest = rest := by
  induction front with
  | nil => exact h
  | cons c front ih =>
      rw [List.cons_append, trimEnd_cons] at h
      split at h
      case isTrue => cases h
      case isFalse => exact ih (List.cons.inj h).2

/-- The order in which the ends are cut does not matter. -/
theorem trim_eq (text : List Char) : trim text = trimStart (trimEnd text) := by
  induction text with
  | nil => rfl
  | cons c text ih =>
      by_cases hc : isBlank c = true
      case pos =>
        have hstart (rest : List Char) : trimStart (c :: rest) = trimStart rest :=
          List.dropWhile_cons_of_pos hc
        rw [trim, hstart, trimEnd_cons]
        refine ih.trans ?_
        split
        case isTrue hnil => rw [hnil.1]
        case isFalse => rw [hstart]
      case neg =>
        have hstart (rest : List Char) : trimStart (c :: rest) = c :: rest :=
          List.dropWhile_cons_of_neg hc
        rw [trim, hstart, trimEnd_cons, if_neg fun h => hc h.2, hstart]

/-- Texts that differ by blanks at the end are the same without blanks around them. -/
theorem trim_congr {text other : List Char} (h : trimEnd text = trimEnd other) :
    trim text = trim other := by
  rw [trim_eq, trim_eq, h]

/-- Blanks in front do not matter to what is left without them. -/
theorem trim_append {blanks : List Char} (h : Blanks blanks) (text : List Char) :
    trim (blanks ++ text) = trim text := by
  rw [trim, trimStart_append h, trim]

/-- Blanks on either side are cut. -/
theorem trim_between {before behind : List Char} (hbefore : Blanks before) (hbehind : Blanks behind)
    (text : List Char) : trim (before ++ text ++ behind) = trim text := by
  rw [List.append_assoc, trim_append hbefore, trim_eq, trimEnd_append hbehind, ← trim_eq]

/-- Cutting the end again does nothing. -/
theorem trimEnd_trimEnd (text : List Char) : trimEnd (trimEnd text) = trimEnd text := by
  obtain ⟨blanks, hblanks, hsplit⟩ := exists_trimEnd text
  conv_rhs => rw [← hsplit, trimEnd_append hblanks]

/-- Nor does cutting it once both ends are cut. -/
theorem trimEnd_trim (text : List Char) : trimEnd (trim text) = trim text :=
  trimEnd_trimEnd (trimStart text)

/-- A text of blanks is cut away. -/
theorem trim_eq_nil_iff {text : List Char} : trim text = [] ↔ Blanks text := by
  rw [trim_eq, trimStart, List.dropWhile_eq_nil_iff]
  constructor
  · intro h
    obtain ⟨blanks, hblanks, hsplit⟩ := exists_trimEnd text
    rw [← hsplit]
    exact List.forall_mem_append.mpr ⟨h, hblanks⟩
  · intro h c hc
    obtain ⟨blanks, -, hsplit⟩ := exists_trimEnd text
    exact h c (hsplit ▸ List.mem_append_left blanks hc)

/-- Characters that are changed alike can be changed before or after. -/
theorem trim_map {f : Char → Char} (h : ∀ c, isBlank (f c) = isBlank c) (text : List Char) :
    trim (text.map f) = (trim text).map f := by
  have hsame : isBlank ∘ f = isBlank := funext h
  rw [trim, trim, trimEnd, trimEnd, trimStart, trimStart, List.dropWhile_map, hsame,
    ← List.map_reverse, List.dropWhile_map, hsame, List.map_reverse]

/-! ## Hexadecimal -/

/-- The ASCII code of a hexadecimal digit. -/
def hexCode (n : Nat) : UInt8 :=
  UInt8.ofNat (hexDigit n).toNat

/-- A digit takes one byte, which has its value. -/
theorem hexCode_spec {n : Nat} (h : n < 16) :
    String.utf8EncodeChar (hexDigit n) = [hexCode n] ∧
      hexValue? (hexCode n) = some (UInt8.ofNat n) := by
  have hall : ∀ n < 16, String.utf8EncodeChar (hexDigit n) = [hexCode n] ∧
      hexValue? (hexCode n) = some (UInt8.ofNat n) := by
    decide
  exact hall n h

/-- Hexadecimal digits are visible. -/
theorem visible_of_hexDigit {n : Nat} (h : n < 16) :
    0x21 ≤ (hexDigit n).toNat ∧ (hexDigit n).toNat ≤ 0x7E := by
  have hall : ∀ n < 16, 0x21 ≤ (hexDigit n).toNat ∧ (hexDigit n).toNat ≤ 0x7E := by decide
  exact hall n h

/-- Either half of a byte is one hexadecimal digit. -/
theorem halves_lt (byte : UInt8) : byte.toNat / 16 < 16 ∧ byte.toNat % 16 < 16 := by
  have hlt := byte.toNat_lt
  omega

/-- So bytes in hexadecimal digits are visible. -/
theorem visible_of_hex (data : Bytes) : Visible (hex data).toList := by
  intro c hc
  rw [hex, String.toList_ofList] at hc
  obtain ⟨byte, -, hc⟩ := List.mem_flatMap.mp hc
  obtain ⟨hhigh, hlow⟩ := halves_lt byte
  rcases List.mem_pair.mp hc with rfl | rfl
  · exact visible_of_hexDigit hhigh
  · exact visible_of_hexDigit hlow

/-- Each byte is written as the codes of its two halves. -/
theorem utf8_hex (data : Bytes) :
    utf8 (hex data) =
      data.flatMap fun byte => [hexCode (byte.toNat / 16), hexCode (byte.toNat % 16)] := by
  rw [utf8_eq, hex, String.toList_ofList, List.flatMap_assoc]
  refine List.flatMap_congr fun byte _ => ?_
  obtain ⟨hhigh, hlow⟩ := halves_lt byte
  rw [hexPair, List.flatMap_cons, List.flatMap_singleton, (hexCode_spec hhigh).1,
    (hexCode_spec hlow).1]
  rfl

/-- A byte is its two halves. -/
theorem byte_of_halves (byte : UInt8) :
    UInt8.ofNat (byte.toNat / 16) * 16 + UInt8.ofNat (byte.toNat % 16) = byte := by
  have hlt := byte.toNat_lt
  apply UInt8.toNat_inj.mp
  rw [UInt8.toNat_add, UInt8.toNat_mul, UInt8.toNat_ofNat', UInt8.toNat_ofNat']
  show (byte.toNat / 16 % 2 ^ 8 * 16 % 2 ^ 8 + byte.toNat % 16 % 2 ^ 8) % 2 ^ 8 = byte.toNat
  omega

/-- Pairs of codes are read back as the bytes they were written for. -/
theorem readHexPairs_codes (offset : Nat) (data : Bytes) :
    readHexPairs offset
      (data.flatMap fun byte => [hexCode (byte.toNat / 16), hexCode (byte.toNat % 16)]) =
        .ok data := by
  induction data generalizing offset with
  | nil => rfl
  | cons byte data ih =>
      obtain ⟨hhigh, hlow⟩ := halves_lt byte
      rw [List.flatMap_cons, List.cons_append, List.singleton_append, readHexPairs,
        (hexCode_spec hhigh).2, (hexCode_spec hlow).2]
      dsimp only
      rw [ih, byte_of_halves]
      rfl

/-- Bytes are read as they were written. -/
theorem readHex_hex (data : Bytes) : readHex (hex data) = .ok data := by
  have heven : (utf8 (hex data)).length % 2 ≠ 1 := by
    rw [utf8_hex, List.length_flatMap]
    simp only [List.length_cons, List.length_nil, List.map_const', List.sum_replicate_nat]
    omega
  rw [readHex, if_neg heven, utf8_hex, readHexPairs_codes]

end GroundLink.Text
