import GroundLink.Json.Reader
import GroundLink.Proofs.Numeral
import Mathlib.Tactic.IntervalCases

/-!
# Reading printed documents

A text that is read as a document is read so wherever it stands in a larger one, as long as a comma,
a bracket or the end follows (`ReadAs`). Flags, whole numbers of 64 bits and arrays of these are
read as they are printed, with a blank behind each comma. `read_of_readAs` says the same of a whole
text.
-/

namespace GroundLink.Json

/-- What may stand behind a value of an array. -/
def Closes (rest : List Char) : Prop :=
  ∀ c ∈ rest.head?, c = ',' ∨ c = ']'

/-- A text that is read as a document with so many arrays in one another. -/
structure ReadAs (document : Json) (nesting : Nat) (text : List Char) : Prop where
  starts : ∃ c rest, text = c :: rest ∧ isSpace c = false ∧ c ≠ ']'
  reads : ∀ fuel depth rest, 2 * text.length ≤ fuel → nesting < depth → Closes rest →
    readValue fuel depth (text ++ rest) = .ok (document, rest)

open Numeral

/-! ## Whole numbers -/

/-- No digit is dropped from a number that fits a significand. -/
theorem collectDigits_of_le {text : List Char} {digits : List Nat} {significand : Nat} (taken : Nat)
    (htext : List.Forall₂ (IsDigit 10) text digits)
    (hle : digits.foldl (fun acc value => acc * 10 + value) significand ≤ significandLimit) :
    collectDigits significand taken text =
      (digits.foldl (fun acc value => acc * 10 + value) significand, taken + text.length, []) := by
  induction htext generalizing significand taken with
  | nil => rfl
  | @cons c value text digits hdigit _ ih =>
      obtain ⟨hvalue, hcode⟩ := hdigit
      have hsame : c.toNat - 48 = value := by omega
      have hbound := le_foldl (show 0 < 10 by decide) (significand * 10 + value) digits
      rw [List.foldl_cons] at hle ⊢
      rw [collectDigits, hsame, if_neg (by omega), ih _ hle, List.length_cons, Nat.add_right_comm,
        Nat.add_assoc]

/-- A number has no leading zero. -/
theorem eq_zero_of_head_toDigits {n : Nat} (h : (Nat.toDigits 10 n).head? = some '0') : n = 0 := by
  induction n using Nat.strong_induction_on with
  | _ n ih =>
      by_cases hn : n < 10
      case pos =>
        have hall : ∀ n < 10, (Nat.toDigits 10 n).head? = some '0' → n = 0 := by decide
        exact hall n hn h
      case neg =>
        rw [Nat.toDigits_of_base_le (by decide) (Nat.le_of_not_lt hn),
          List.head?_append_of_ne_nil _ Nat.toDigits_ne_nil] at h
        have hquotient := ih (n / 10) (by omega) h
        omega

/-- No digit follows a value. -/
theorem takeWhile_of_closes {rest : List Char} (h : Closes rest) :
    rest.takeWhile Char.isDigit = [] ∧ rest.dropWhile Char.isDigit = rest := by
  cases rest with
  | nil => exact ⟨rfl, rfl⟩
  | cons c rest => rcases h c rfl with rfl | rfl <;> exact ⟨rfl, rfl⟩

/-- A number of 64 bits is read whole. -/
theorem readNumber_toDigits (positive : Bool) {n : Nat} (hn : n < 2 ^ 64) {rest : List Char}
    (hrest : Closes rest) :
    readNumber positive (Nat.toDigits 10 n ++ rest) = .ok (wholeNumber positive n, rest) := by
  have hdigits : ∀ c ∈ Nat.toDigits 10 n, c.isDigit = true := fun c hc =>
    Nat.isDigit_of_mem_toDigits (by decide) (by decide) hc
  obtain ⟨htake, hdrop⟩ := takeWhile_of_closes hrest
  have hempty : (Nat.toDigits 10 n).isEmpty = false :=
    List.isEmpty_eq_false_iff.mpr Nat.toDigits_ne_nil
  have hzero : ((Nat.toDigits 10 n).head? == some '0' && decide (1 < (Nat.toDigits 10 n).length)) =
      false := by
    rw [Bool.and_eq_false_imp]
    intro hhead
    rw [eq_zero_of_head_toDigits (eq_of_beq hhead)]
    rfl
  obtain ⟨-, digits, hwritten, hvalue⟩ := writes_toDigits (show 1 < 10 by decide) (by decide) n
  rw [ofDigits_reverse] at hvalue
  have hlimit : digits.foldl (fun acc value => acc * 10 + value) 0 ≤ significandLimit := by
    rw [← hvalue, significandLimit]
    omega
  have hcollect := collectDigits_of_le 0 hwritten hlimit
  rw [← hvalue] at hcollect
  unfold readNumber
  rw [List.takeWhile_append_of_pos hdigits, List.dropWhile_append_of_pos hdigits, htake, hdrop,
    List.append_nil]
  dsimp only
  rw [hempty, hzero, hcollect]
  cases rest with
  | nil => rfl
  | cons c rest => rcases hrest c rfl with rfl | rfl <;> rfl

/-! ## Values -/

/-- What begins with a digit is a number. -/
theorem readValue_digit {c : Char} (hc : c.isDigit = true) (fuel depth : Nat) (rest : List Char) :
    readValue (fuel + 1) depth (c :: rest) = readNumber true (c :: rest) := by
  have hcode : 48 ≤ c.toNat ∧ c.toNat ≤ 57 := Char.isDigit_iff_toNat.mp hc
  have hdigit : c = Nat.digitChar (c.toNat - 48) := by
    rw [← Char.toNat_inj, Nat.toNat_digitChar_of_lt_ten (by omega)]
    omega
  have hvalue : c.toNat - 48 < 10 := by omega
  rw [hdigit, readValue]
  generalize c.toNat - 48 = value at hvalue
  interval_cases value <;> rfl

/-- Reading a value takes one unit of fuel at least, and its text pays for it. -/
theorem exists_fuel {text : List Char} {fuel : Nat} (h : 2 * text.length ≤ fuel) (hne : text ≠ []) :
    ∃ rest, fuel = rest + 1 := by
  have hpositive := List.length_pos_iff.mpr hne
  exact Nat.exists_eq_add_one.mpr (by omega)

/-- Flags are words. -/
theorem readAs_bool (b : Bool) : (Json.bool b).ReadAs 0 (if b then "true" else "false").toList := by
  cases b with
  | true | false =>
      refine ⟨⟨_, _, rfl, rfl, by decide⟩, fun fuel depth rest hfuel _ _ => ?_⟩
      obtain ⟨fuel, rfl⟩ := exists_fuel hfuel (by decide)
      rw [readValue]
      rfl

/-- Digits begin with a digit, which is no space. -/
theorem exists_digit_toDigits (n : Nat) :
    ∃ c rest, Nat.toDigits 10 n = c :: rest ∧ c.isDigit = true ∧ isSpace c = false := by
  obtain ⟨c, rest, hdigits⟩ := List.exists_cons_of_ne_nil (Nat.toDigits_ne_nil (n := n) (b := 10))
  have hc : c.isDigit = true :=
    Nat.isDigit_of_mem_toDigits (b := 10) (n := n) (by decide) (by decide)
      (hdigits ▸ List.mem_cons_self)
  refine ⟨c, rest, hdigits, hc, ?_⟩
  simp only [isSpace, Bool.or_eq_false_iff, decide_eq_false_iff_not]
  refine ⟨⟨⟨?_, ?_⟩, ?_⟩, ?_⟩ <;> rintro rfl <;> cases hc

/-- Whole numbers are read as they are printed. -/
theorem readAs_int {n : Int} (hlow : -2 ^ 63 ≤ n) (hhigh : n < 2 ^ 64) :
    (Json.int n).ReadAs 0 (toString n).toList := by
  rw [toList_toString]
  cases n with
  | ofNat m =>
      have hm : m < 2 ^ 64 := Int.ofNat_lt.mp hhigh
      obtain ⟨c, digits, hdigits, hc, hspace⟩ := exists_digit_toDigits m
      refine ⟨⟨c, digits, hdigits, hspace, ?_⟩, fun fuel depth rest hfuel _ hrest => ?_⟩
      · rintro rfl
        cases hc
      · obtain ⟨fuel, rfl⟩ := exists_fuel hfuel Nat.toDigits_ne_nil
        have hread := readNumber_toDigits true hm hrest
        dsimp only
        rw [hdigits, List.cons_append] at hread ⊢
        rw [readValue_digit hc, hread]
        rfl
  | negSucc m =>
      refine ⟨⟨'-', _, rfl, rfl, by decide⟩, fun fuel depth rest hfuel _ hrest => ?_⟩
      obtain ⟨fuel, rfl⟩ := exists_fuel hfuel (List.cons_ne_nil _ _)
      dsimp only
      rw [List.cons_append, readValue]
      show readNumber false (Nat.toDigits 10 (m + 1) ++ rest) = _
      rw [readNumber_toDigits false (by omega) hrest, wholeNumber, if_neg Bool.false_ne_true,
        if_neg (by omega)]
      rfl

/-! ## Arrays -/

/-- A blank in front of a value is passed over. -/
theorem readItems_blank (fuel depth : Nat) (acc : List Json) (cs : List Char) :
    readItems (fuel + 2) depth acc (' ' :: cs) = readItems (fuel + 2) depth acc cs := by
  rw [readItems, readItems, readValue, readValue]
  rfl

/-- The items of an array are read one after another. -/
theorem readItems_intercalate {items : List Json} {texts : List (List Char)} {nesting : Nat}
    (h : List.Forall₂ (fun item text => item.ReadAs nesting text) items texts) (hne : items ≠ [])
    {fuel depth : Nat} {acc : List Json} {rest : List Char}
    (hfuel : 2 * ([',', ' '].intercalate texts).length < fuel) (hdepth : nesting < depth) :
    readItems fuel depth acc ([',', ' '].intercalate texts ++ ']' :: rest) =
      .ok (.array (acc.reverse ++ items), rest) := by
  induction h generalizing fuel acc with
  | nil => exact absurd rfl hne
  | @cons item text items texts hitem hitems ih =>
      obtain ⟨fuel, rfl⟩ : ∃ f, fuel = f + 1 := Nat.exists_eq_add_one.mpr (by omega)
      cases hitems with
      | nil =>
          rw [List.intercalate_singleton] at hfuel ⊢
          have hclose : Closes (']' :: rest) := fun c hc => .inr (Option.some.inj hc).symm
          rw [readItems, hitem.reads fuel depth _ (by omega) hdepth hclose]
          show Except.ok (Json.array (item :: acc).reverse, rest) = _
          rw [List.reverse_cons]
      | @cons next nextText items texts hnext hitems =>
          rw [List.intercalate_cons_cons] at hfuel ⊢
          rw [List.length_append, List.length_append] at hfuel
          have hblank : [',', ' '].length = 2 := rfl
          obtain ⟨spare, rfl⟩ : ∃ spare, fuel = spare + 2 := Nat.exists_eq_add_of_le' (by omega)
          have hclose : Closes (',' :: ' ' ::
              ([',', ' '].intercalate (nextText :: texts) ++ ']' :: rest)) :=
            fun c hc => .inl (Option.some.inj hc).symm
          rw [List.append_assoc, List.append_assoc, readItems, List.cons_append, List.cons_append,
            List.nil_append, hitem.reads (spare + 2) depth _ (by omega) hdepth hclose]
          show readItems (spare + 2) depth (item :: acc) (' ' :: _) = _
          rw [readItems_blank, ih (List.cons_ne_nil _ _) (by omega), List.reverse_cons,
            List.append_assoc, List.singleton_append]

/-- The text of an array begins as its first item does. -/
theorem exists_start_intercalate {items : List Json} {texts : List (List Char)} {nesting : Nat}
    (h : List.Forall₂ (fun item text => item.ReadAs nesting text) items texts) (hne : items ≠ []) :
    ∃ c rest, [',', ' '].intercalate texts = c :: rest ∧ isSpace c = false ∧ c ≠ ']' := by
  cases h with
  | nil => exact absurd rfl hne
  | @cons item text items texts hitem hitems =>
      obtain ⟨c, rest, rfl, hc⟩ := hitem.starts
      cases hitems with
      | nil => exact ⟨c, rest, List.intercalate_singleton, hc⟩
      | cons => exact ⟨c, _, List.intercalate_cons_cons, hc⟩

/-- An array is read as it is printed, if its items are. -/
theorem readAs_array {items : List Json} {texts : List (List Char)} {nesting : Nat}
    (h : List.Forall₂ (fun item text => item.ReadAs nesting text) items texts) (hne : items ≠ []) :
    (Json.array items).ReadAs (nesting + 1) ('[' :: ([',', ' '].intercalate texts ++ [']'])) := by
  refine ⟨⟨'[', _, rfl, rfl, by decide⟩, fun fuel depth rest hfuel hdepth _ => ?_⟩
  obtain ⟨fuel, rfl⟩ := exists_fuel hfuel (List.cons_ne_nil _ _)
  rw [List.length_cons, List.length_append] at hfuel
  have hitems : readItems fuel (depth - 1) [] ([',', ' '].intercalate texts ++ ']' :: rest) =
      .ok (.array items, rest) :=
    readItems_intercalate h hne (by omega) (by omega)
  -- the first item does not begin with the bracket that would end an empty array
  obtain ⟨c, others, hjoined, hspace, hbracket⟩ := exists_start_intercalate h hne
  have hskip : skipSpaces (c :: others ++ ']' :: rest) = c :: others ++ ']' :: rest :=
    List.dropWhile_cons_of_neg (by rw [hspace]; exact Bool.false_ne_true)
  rw [List.cons_append, List.append_assoc, List.cons_append, List.nil_append, readValue]
  rw [hjoined] at hitems ⊢
  have hopen : skipSpaces ('[' :: (c :: others ++ ']' :: rest)) =
      '[' :: (c :: others ++ ']' :: rest) := rfl
  have hdeep : ¬depth ≤ 1 := by omega
  simp only [hopen, hskip, if_neg hdeep]
  split
  case h_1 hclose => exact absurd (List.cons.inj hclose).1 hbracket
  case h_2 => exact hitems

/-- A text that is read as a document wherever it stands is read so on its own. -/
theorem read_of_readAs {document : Json} {nesting : Nat} {text : String}
    (h : document.ReadAs nesting text.toList) (hnesting : nesting < 128) :
    read text = .ok document := by
  have hwhole := h.reads (2 * text.toList.length + 2) 128 [] (Nat.le_add_right _ 2) hnesting nofun
  rw [List.append_nil] at hwhole
  rw [read, hwhole]
  rfl

end GroundLink.Json
