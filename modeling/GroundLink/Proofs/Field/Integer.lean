import GroundLink.Field.Input
import GroundLink.Proofs.Numeral
import GroundLink.Proofs.Text

/-!
# Integers as text

An integer is written in decimal, or in hexadecimal behind a mark, with at most one sign in front of
it all (`WritesInt`). The reader takes a minus sign off the text, then the mark, and leaves the
digits to the reader of numerals, which takes a sign once more (`TakenAs`). `read_integer_iff` says
what that amounts to: where no sign stands behind the first character the text means what it says,
and every integer of 64 bits can be written; a second sign is taken all the same, as in
`second_sign_is_taken`.
-/

namespace GroundLink

namespace Numeral

/-- A notation in decimal, or in hexadecimal behind a mark. -/
inductive WithMark {α : Type} (Written : Nat → List Char → α → Prop) : List Char → α → Prop
  | decimal {text : List Char} {n : α} (h : Written 10 text n) : WithMark Written text n
  | hexadecimal {text : List Char} {mark : Char} {n : α} (hmark : mark = 'x' ∨ mark = 'X')
      (h : Written 16 text n) : WithMark Written ('0' :: mark :: text) n

/-- An integer behind at most one sign. -/
def WritesInt : List Char → Int → Prop :=
  WithSign (WithMark Writes)

/-- A numeral in decimal or in hexadecimal, with a sign in front of its digits. -/
def WritesMagnitude : List Char → Int → Prop :=
  WithMark fun base => WithSign (Writes base)

/-- What is taken for an integer: the digits may have a sign of their own. -/
inductive TakenAs : List Char → Int → Prop
  | bare {text : List Char} {n : Int} (h : WritesMagnitude text n) : TakenAs text n
  | minus {text : List Char} {n : Int} (h : WritesMagnitude text n) : TakenAs ('-' :: text) (-n)

variable {text : List Char} {n : Int}

/-- A mark is no decimal digit. -/
theorem not_writes_mark {mark : Char} (hmark : mark = 'x' ∨ mark = 'X') :
    ¬WithSign (Writes 10) ('0' :: mark :: text) n := by
  intro h
  cases h with
  | bare h =>
      obtain ⟨value, hvalue, hcode⟩ :=
        h.exists_digit mark (List.mem_cons_of_mem _ List.mem_cons_self)
      have hle : mark.toNat ≤ 57 := by omega
      rcases hmark with rfl | rfl <;> exact absurd hle (by decide)

/-- All characters of an integer are visible. -/
theorem WritesInt.visible (h : WritesInt text n) : Text.Visible text := by
  have hdigits {base n : Nat} {text : List Char} (hbase : base ≤ 36) (h : Writes base text n) :
      Text.Visible text := by
    intro c hc
    obtain ⟨value, hvalue, hcode⟩ := h.exists_digit c hc
    omega
  have hmagnitude {text : List Char} {n : Nat} (h : WithMark Writes text n) :
      Text.Visible text := by
    cases h with
    | decimal h => exact hdigits (by decide) h
    | @hexadecimal _ mark _ hmark h =>
        have hfront : Text.Visible ['0', mark] := by rcases hmark with rfl | rfl <;> decide
        exact hfront.append (hdigits (by decide) h)
  cases h with
  | bare h => exact hmagnitude h
  | plus h | minus h => exact List.forall_mem_cons.mpr ⟨by decide, hmagnitude h⟩

/-- A printed integer writes the integer, and has no plus sign. -/
theorem writesInt_toString (n : Int) :
    WritesInt (toString n).toList n ∧ (toString n).toList.head? ≠ some '+' := by
  have hdigits (m : Nat) : WithMark Writes (Nat.toDigits 10 m) m :=
    .decimal (writes_toDigits (by decide) (by decide) m)
  rw [toList_toString]
  cases n with
  | ofNat m =>
      refine ⟨.bare (hdigits m), fun hhead => ?_⟩
      obtain ⟨rest, hrest⟩ := List.head?_eq_some_iff.mp hhead
      have hwrites : Writes 10 (Nat.toDigits 10 m) m := writes_toDigits (by decide) (by decide) m
      dsimp only at hrest
      rw [hrest] at hwrites
      exact absurd rfl hwrites.not_sign.1
  | negSucc m =>
      exact ⟨.minus (hdigits (m + 1)), fun hhead => absurd (Option.some.inj hhead) (by decide)⟩

/-- A text that is taken for an integer is one, if no sign stands behind its first character. -/
theorem TakenAs.writesInt (h : TakenAs text n) (hsign : ∀ c ∈ text.tail, c ≠ '+' ∧ c ≠ '-') :
    WritesInt text n := by
  cases h with
  | bare h =>
      cases h with
      | decimal h =>
          cases h with
          | bare h => exact .bare (.decimal h)
          | plus h => exact .plus (.decimal h)
          | minus h => exact .minus (.decimal h)
      | hexadecimal hmark h =>
          cases h with
          | bare h => exact .bare (.hexadecimal hmark h)
          | plus h => exact absurd rfl (hsign '+' (by simp)).1
          | minus h => exact absurd rfl (hsign '-' (by simp)).2
  | minus h =>
      cases h with
      | decimal h =>
          cases h with
          | bare h => exact .minus (.decimal h)
          | plus h => exact absurd rfl (hsign '+' (by simp)).1
          | minus h => exact absurd rfl (hsign '-' (by simp)).2
      | hexadecimal hmark h =>
          cases h with
          | bare h => exact .minus (.hexadecimal hmark h)
          | plus h => exact absurd rfl (hsign '+' (by simp)).1
          | minus h => exact absurd rfl (hsign '-' (by simp)).2

/-- An integer is taken for what it is, if it has no plus sign. -/
theorem WritesInt.takenAs (h : WritesInt text n) (hplus : text.head? ≠ some '+') :
    TakenAs text n := by
  have hmagnitude {text : List Char} {n : Nat} (h : WithMark Writes text n) :
      WritesMagnitude text n := by
    cases h with
    | decimal h => exact .decimal (.bare h)
    | hexadecimal hmark h => exact .hexadecimal hmark (.bare h)
  cases h with
  | bare h => exact .bare (hmagnitude h)
  | plus h => exact absurd rfl hplus
  | minus h => exact .minus (hmagnitude h)

end Numeral

/-- An integer kind has a width. -/
theorem Kind.exists_width {kind : Kind} (h : kind.isUnsigned = true ∨ kind.isSigned = true) :
    ∃ w, kind = .unsigned w ∨ kind = .signed w := by
  cases kind with
  | unsigned w => exact ⟨w, .inl rfl⟩
  | signed w => exact ⟨w, .inr rfl⟩
  | float32 | float64 | bool | timestamp | bytes | text => rcases h with h | h <;> cases h

/-- The value that is read for an integer: with a sign only if it is negative. -/
def Value.ofInt (n : Int) : Value :=
  if 0 ≤ n then .unsigned (UInt64.ofNat n.toNat) else .signed (Int64.ofInt n)

/-- The value that is read for an integer stands for it. -/
theorem Value.int?_ofInt {n : Int} (hlow : -2 ^ 63 ≤ n) (hhigh : n < 2 ^ 64) :
    (Value.ofInt n).int? = some n := by
  unfold ofInt
  split
  case isTrue hpositive =>
    have hsame : (UInt64.ofNat n.toNat).toNat = n.toNat := by
      rw [UInt64.toNat_ofNat', Nat.mod_eq_of_lt (by omega)]
    rw [int?, hsame, Int.toNat_of_nonneg hpositive]
  case isFalse hnegative => rw [int?, Int64.toInt_ofInt_of_le hlow (by omega)]

namespace Field

open Numeral

/-- The reader of magnitudes takes what fits a word of 128 bits. -/
theorem readMagnitude_eq_ok_iff {text : List Char} {n : Int} :
    readMagnitude text = .ok n ↔
      WritesMagnitude text n ∧ -2 ^ 127 ≤ n ∧ n ≤ 2 ^ 127 - 1 := by
  have hread {base : Nat} {text : List Char} (hbase : 0 < base) (hletters : base ≤ 36) :
      readSigned base 128 text = .ok n ↔
        WithSign (Writes base) text n ∧ -2 ^ 127 ≤ n ∧ n ≤ 2 ^ 127 - 1 := by
    rw [readSigned, read_eq_ok_iff hbase hletters (by decide) (by decide)]
    exact ⟨fun h => ⟨h.1, h.2.2⟩, fun h => ⟨h.1, fun _ => by decide, h.2⟩⟩
  have hmarked {mark : Char} {digits : List Char} (hmark : mark = 'x' ∨ mark = 'X') :
      WritesMagnitude ('0' :: mark :: digits) n ↔ WithSign (Writes 16) digits n := by
    refine ⟨fun h => ?_, fun h => .hexadecimal hmark h⟩
    cases h with
    | decimal h => exact absurd h (not_writes_mark hmark)
    | hexadecimal _ h => exact h
  unfold readMagnitude
  split
  case h_1 digits => rw [hread (by decide) (by decide), hmarked (.inl rfl)]
  case h_2 digits => rw [hread (by decide) (by decide), hmarked (.inr rfl)]
  case h_3 hlower hupper =>
    rw [hread (by decide) (by decide)]
    refine and_congr_left fun _ => ⟨fun h => .decimal h, fun h => ?_⟩
    cases h with
    | decimal h => exact h
    | hexadecimal hmark h =>
        rcases hmark with rfl | rfl
        · exact absurd rfl (hlower _)
        · exact absurd rfl (hupper _)

/-- The last step of the reader: a number of 64 bits becomes a value. -/
theorem narrow_eq_ok_iff (field : Field) (text : String) {n : Int} {value : Value} :
    field.narrow text n = .ok value ↔ -2 ^ 63 ≤ n ∧ n < 2 ^ 64 ∧ value = .ofInt n := by
  unfold narrow
  constructor
  · intro h
    split at h
    case isTrue hunsigned =>
      obtain rfl := Except.ok.inj h
      exact ⟨by omega, hunsigned.2, (if_pos hunsigned.1).symm⟩
    case isFalse hunsigned =>
      split at h
      case isTrue hsigned =>
        obtain rfl := Except.ok.inj h
        exact ⟨hsigned.1, by omega, (if_neg (by omega)).symm⟩
      case isFalse => cases h
  · rintro ⟨hlow, hhigh, rfl⟩
    unfold Value.ofInt
    by_cases hpositive : 0 ≤ n
    case pos => rw [if_pos ⟨hpositive, hhigh⟩, if_pos hpositive]
    case neg => rw [if_neg (by omega), if_pos ⟨hlow, by omega⟩, if_neg hpositive]

/-- What is taken for an integer of 64 bits is read as this integer, and nothing else is read. -/
theorem readInt_eq_ok_iff (field : Field) {text : String} {value : Value} :
    field.readInt text = .ok value ↔
      ∃ n, TakenAs text.toList n ∧ -2 ^ 63 ≤ n ∧ n < 2 ^ 64 ∧ value = .ofInt n := by
  unfold readInt
  split
  case h_1 digits htext =>
    rw [htext, bind_eq_ok]
    constructor
    · rintro ⟨m, hm, h⟩
      rw [mapError_eq_ok, readMagnitude_eq_ok_iff] at hm
      split at h
      case isTrue => cases h
      case isFalse => exact ⟨-m, .minus hm.1, (field.narrow_eq_ok_iff text).mp h⟩
    · -- a minus sign is taken off the text, though the digits could have kept it
      rintro ⟨n, htaken, hlow, hhigh, hvalue⟩
      have hmagnitude : ∃ m, readMagnitude digits = .ok m ∧ n = -m := by
        rcases htaken with h | h
        · cases h with
          | decimal h =>
              cases h with
              | bare h => exact absurd rfl h.not_sign.2
              | @minus _ m h =>
                  exact ⟨m, readMagnitude_eq_ok_iff.mpr ⟨.decimal (.bare h), by omega, by omega⟩,
                    rfl⟩
        · exact ⟨_, readMagnitude_eq_ok_iff.mpr ⟨h, by omega, by omega⟩, rfl⟩
      obtain ⟨m, hm, rfl⟩ := hmagnitude
      refine ⟨m, mapError_eq_ok.mpr hm, ?_⟩
      rw [if_neg (by omega)]
      exact (field.narrow_eq_ok_iff text).mpr ⟨hlow, hhigh, hvalue⟩
  case h_2 hminus =>
    rw [bind_eq_ok]
    constructor
    · rintro ⟨n, hn, h⟩
      rw [mapError_eq_ok, readMagnitude_eq_ok_iff] at hn
      exact ⟨n, .bare hn.1, (field.narrow_eq_ok_iff text).mp h⟩
    · rintro ⟨n, htaken, hlow, hhigh, hvalue⟩
      refine ⟨n, mapError_eq_ok.mpr (readMagnitude_eq_ok_iff.mpr ⟨?_, by omega, by omega⟩),
        (field.narrow_eq_ok_iff text).mpr ⟨hlow, hhigh, hvalue⟩⟩
      generalize text.toList = digits at htaken hminus
      cases htaken with
      | bare h => exact h
      | minus h => exact absurd rfl (hminus _)

/-- An integer of 64 bits that is written without a plus sign is read. -/
theorem readInt_of_writesInt (field : Field) {text : String} {n : Int}
    (h : WritesInt text.toList n) (hplus : text.toList.head? ≠ some '+') (hlow : -2 ^ 63 ≤ n)
    (hhigh : n < 2 ^ 64) : field.readInt (Text.trimmed text) = .ok (.ofInt n) := by
  rw [Text.trimmed_of_visible h.visible]
  exact field.readInt_eq_ok_iff.mpr ⟨n, h.takenAs hplus, hlow, hhigh, rfl⟩

/-- A field without dimensions reads a scalar with blanks around it. -/
theorem read_of_scalar {field : Field} (hscalar : field.shape = []) (text : String) :
    field.read text = field.readScalar (Text.trimmed text) := by
  rw [read, isArray, hscalar]
  rfl

/-- A field for integers reads scalars as integers. -/
theorem readScalar_of_integer {field : Field}
    (hinteger : field.kind.isUnsigned = true ∨ field.kind.isSigned = true) (text : String) :
    field.readScalar text = field.readInt text := by
  obtain ⟨w, hkind | hkind⟩ := Kind.exists_width hinteger <;> rw [readScalar, hkind]

/-- What a field for integers reads is what is taken for an integer of 64 bits. Where no sign stands
behind the first character the text is the integer that is read; and every integer of 64 bits that
is written without a plus sign is read. -/
theorem read_integer_iff (field : Field) (hscalar : field.shape = [])
    (hinteger : field.kind.isUnsigned = true ∨ field.kind.isSigned = true) :
    (∀ text value, field.read text = .ok value ↔
      ∃ n, TakenAs (Text.trim text.toList) n ∧ -2 ^ 63 ≤ n ∧ n < 2 ^ 64 ∧ value = .ofInt n) ∧
    (∀ text value, field.read text = .ok value →
      (∀ c ∈ (Text.trim text.toList).tail, c ≠ '+' ∧ c ≠ '-') →
        ∃ n, WritesInt (Text.trim text.toList) n ∧ value = .ofInt n ∧ value.int? = some n) ∧
    ∀ text n, WritesInt text.toList n → text.toList.head? ≠ some '+' → -2 ^ 63 ≤ n → n < 2 ^ 64 →
      field.read text = .ok (.ofInt n) := by
  have hreader (text : String) : field.read text = field.readInt (Text.trimmed text) :=
    (read_of_scalar hscalar text).trans (readScalar_of_integer hinteger _)
  have hread (text : String) (value : Value) : field.read text = .ok value ↔
      ∃ n, TakenAs (Text.trim text.toList) n ∧ -2 ^ 63 ≤ n ∧ n < 2 ^ 64 ∧ value = .ofInt n := by
    rw [hreader, readInt_eq_ok_iff, Text.trimmed, String.toList_ofList]
  refine ⟨hread, fun text value h hsign => ?_, fun text n h hplus hlow hhigh => ?_⟩
  · obtain ⟨n, htaken, hlow, hhigh, rfl⟩ := (hread text value).mp h
    exact ⟨n, htaken.writesInt hsign, rfl, Value.int?_ofInt hlow hhigh⟩
  · rw [hreader]
    exact field.readInt_of_writesInt h hplus hlow hhigh

/-- A negative integer in hexadecimal, and one with a plus sign and blanks around it. -/
theorem read_integer_iff_signs :
    ∃ field : Field, field.text = "rate: i16" ∧ field.shape = [] ∧ field.kind.isSigned = true ∧
      WritesInt "-0x2A".toList (-42) ∧ field.read "-0x2A" = .ok (.signed (-42)) ∧
      field.read " +7 " = .ok (.unsigned 7) ∧
      ∃ n, WritesInt (Text.trim " +7 ".toList) n ∧ (Value.unsigned 7).int? = some n := by
  let field : Field := .scalar "rate" (.signed .two)
  obtain ⟨htaken, hmeans, hreads⟩ := field.read_integer_iff rfl (.inr rfl)
  have hdigits : Writes 16 ['2', 'A'] 42 :=
    ⟨by decide, [2, 10], .cons (by simp [IsDigit]) (.cons (by simp [IsDigit]) .nil), by decide⟩
  have hmarked : WritesInt "-0x2A".toList (-42) := .minus (.hexadecimal (.inl rfl) hdigits)
  have htrim : Text.trim " +7 ".toList = ['+', '7'] := by decide
  have hdigit : Writes 10 ['7'] 7 := ⟨by decide, [7], .cons (by simp [IsDigit]) .nil, by decide⟩
  have hseven : field.read " +7 " = .ok (.unsigned 7) :=
    (htaken _ _).mpr ⟨7, htrim ▸ .bare (.decimal (.plus hdigit)), by decide, by decide, rfl⟩
  obtain ⟨n, hn, -, hsame⟩ := hmeans _ _ hseven
    (by rw [htrim]; exact List.forall_mem_singleton.mpr (by decide))
  exact ⟨field, by decide, rfl, rfl, hmarked,
    hreads _ _ hmarked (by decide) (by decide) (by decide), hseven, n, hn, hsame⟩

/-- A minus sign is taken off the text, and the digits behind it may have another one. -/
theorem second_sign_is_taken :
    ∃ field : Field, field.text = "rate: i32" ∧ field.shape = [] ∧
      field.read "--5" = .ok (.unsigned 5) ∧ ¬∃ n, WritesInt (Text.trim "--5".toList) n := by
  let field : Field := .scalar "rate" (.signed .four)
  have htrim : Text.trim "--5".toList = ['-', '-', '5'] := by decide
  have hfive : Writes 10 ['5'] 5 := ⟨by decide, [5], .cons (by simp [IsDigit]) .nil, by decide⟩
  have hread : field.readInt (Text.trimmed "--5") = .ok (.ofInt (-(-5))) := by
    rw [readInt_eq_ok_iff, Text.trimmed, String.toList_ofList, htrim]
    exact ⟨_, .minus (.decimal (.minus hfive)), by decide, by decide, rfl⟩
  refine ⟨field, by decide, rfl, (read_of_scalar rfl "--5").trans hread, ?_⟩
  rintro ⟨n, h⟩
  rw [htrim] at h
  cases h with
  | bare h =>
      cases h with
      | decimal h => exact absurd rfl h.not_sign.2
  | minus h =>
      cases h with
      | decimal h => exact absurd rfl h.not_sign.2

end Field

end GroundLink
