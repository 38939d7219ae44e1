import GroundLink.Numeral
import GroundLink.Proofs.Except
import Mathlib.Data.Nat.Digits.Defs

/-!
# What numerals write

Digits write a number by their places (`Writes`), behind at most one sign (`WithSign`). Neither is
said through the reader. `read_eq_ok_iff` says that the reader takes exactly these texts, as long as
the number is between its bounds; `writes_toDigits` says that printed digits write the number that
was printed.
-/

namespace GroundLink.Numeral

/-- A character is the digit of a value: the ten decimal digits, and behind them the Latin letters
of either case. -/
def IsDigit (base : Nat) (c : Char) (value : Nat) : Prop :=
  value < base ∧
    (value < 10 ∧ c.toNat = 48 + value ∨
      10 ≤ value ∧ (c.toNat = 87 + value ∨ c.toNat = 55 + value))

/-- One digit or more write a number, the last one counting once. -/
def Writes (base : Nat) (text : List Char) (n : Nat) : Prop :=
  text ≠ [] ∧
    ∃ digits, List.Forall₂ (IsDigit base) text digits ∧ n = Nat.ofDigits base digits.reverse

/-- A notation for magnitudes behind at most one sign. -/
inductive WithSign (Written : List Char → Nat → Prop) : List Char → Int → Prop
  | bare {text : List Char} {n : Nat} (h : Written text n) : WithSign Written text n
  | plus {text : List Char} {n : Nat} (h : Written text n) : WithSign Written ('+' :: text) n
  | minus {text : List Char} {n : Nat} (h : Written text n) : WithSign Written ('-' :: text) (-n)

variable {base : Nat} {text : List Char}

/-! ## Digits -/

/-- A character is read as the value that it is the digit of. -/
theorem digitValue?_eq_some_iff (hbase : base ≤ 36) {c : Char} {value : Nat} :
    digitValue? base c = some value ↔ IsDigit base c value := by
  have hdecimal : ('0' ≤ c ∧ c ≤ '9') ↔ 48 ≤ c.toNat ∧ c.toNat ≤ 57 := Iff.rfl
  have hlower : ('a' ≤ c ∧ c ≤ 'z') ↔ 97 ≤ c.toNat ∧ c.toNat ≤ 122 := Iff.rfl
  have hupper : ('A' ≤ c ∧ c ≤ 'Z') ↔ 65 ≤ c.toNat ∧ c.toNat ≤ 90 := Iff.rfl
  simp only [digitValue?, hdecimal, hlower, hupper, Option.ite_none_right_eq_some,
    Option.some.injEq, IsDigit]
  split
  case isTrue => omega
  case isFalse =>
    split
    case isTrue => omega
    case isFalse => split <;> omega

/-- All characters of a numeral are digits. -/
theorem Writes.exists_digit {n : Nat} (h : Writes base text n) :
    ∀ c ∈ text, ∃ value, IsDigit base c value := by
  obtain ⟨-, digits, hdigits, -⟩ := h
  intro c hc
  obtain ⟨value, -, hvalue⟩ := exists_of_forall₂ hdigits c hc
  exact ⟨value, hvalue⟩

/-- A sign is no digit. -/
theorem Writes.not_sign {c : Char} {n : Nat} (h : Writes base (c :: text) n) :
    c ≠ '+' ∧ c ≠ '-' := by
  obtain ⟨value, -, hvalue⟩ := h.exists_digit c List.mem_cons_self
  have hle : 48 ≤ c.toNat := by omega
  constructor
  · rintro rfl
    exact absurd hle (by decide)
  · rintro rfl
    exact absurd hle (by decide)

/-- Behind the first character of a numeral there are digits only. -/
theorem WithSign.exists_digit {n : Int} (h : WithSign (Writes base) text n) :
    ∀ c ∈ text.tail, ∃ value, IsDigit base c value := by
  cases h with
  | bare h => exact fun c hc => h.exists_digit c (List.mem_of_mem_tail hc)
  | plus h | minus h => exact h.exists_digit

/-- Places are counted from the last digit, or from the first one with what stands in front of
it. -/
theorem ofDigits_reverse (base : Nat) (digits : List Nat) :
    Nat.ofDigits base digits.reverse = digits.foldl (fun acc value => acc * base + value) 0 := by
  rw [Nat.ofDigits_eq_foldr, List.foldr_reverse]
  congr 1
  funext acc value
  rw [Nat.cast_id, Nat.mul_comm, Nat.add_comm]

/-- Further digits make no number smaller. -/
theorem le_foldl (hbase : 0 < base) (acc : Nat) (digits : List Nat) :
    acc ≤ digits.foldl (fun acc value => acc * base + value) acc := by
  induction digits generalizing acc with
  | nil => exact Nat.le_refl acc
  | cons value digits ih =>
      have hplace : acc ≤ acc * base := Nat.le_mul_of_pos_right acc hbase
      exact Nat.le_trans (Nat.le_trans hplace (Nat.le_add_right _ value)) (ih _)

/-- The reader checks the bound after each digit, which comes to the same as checking the number. -/
theorem readUp_eq_ok_iff (hbase : 0 < base) (hletters : base ≤ 36) {limit : Int} {acc n : Nat} :
    readUp base limit acc text = .ok n ↔
      ∃ digits, List.Forall₂ (IsDigit base) text digits ∧
        n = digits.foldl (fun acc value => acc * base + value) acc ∧
        (text ≠ [] → (n : Int) ≤ limit) := by
  induction text generalizing acc with
  | nil =>
      constructor
      · intro h
        exact ⟨[], .nil, (Except.ok.inj h).symm, fun hne => absurd rfl hne⟩
      · rintro ⟨digits, hdigits, rfl, -⟩
        cases hdigits
        rfl
  | cons c rest ih =>
      rw [readUp]
      split
      case h_1 hnone =>
        refine ⟨nofun, ?_⟩
        rintro ⟨digits, hdigits, -⟩
        obtain ⟨value, -, hdigit, -, -⟩ := List.forall₂_cons_left_iff.mp hdigits
        rw [(digitValue?_eq_some_iff hletters).mpr hdigit] at hnone
        cases hnone
      case h_2 value hvalue =>
        have hdigit := (digitValue?_eq_some_iff hletters).mp hvalue
        constructor
        · intro h
          dsimp only at h
          split at h
          case isFalse => cases h
          case isTrue hlimit =>
            obtain ⟨digits, hdigits, hn, hle⟩ := ih.mp h
            refine ⟨value :: digits, .cons hdigit hdigits, hn, fun _ => ?_⟩
            cases rest with
            | nil =>
                cases hdigits
                rw [hn]
                exact hlimit
            | cons => exact hle (List.cons_ne_nil _ _)
        · rintro ⟨digits, hdigits, hn, hle⟩
          obtain ⟨value', others, hdigit', hothers, rfl⟩ := List.forall₂_cons_left_iff.mp hdigits
          obtain rfl := Option.some.inj
            (hvalue.symm.trans ((digitValue?_eq_some_iff hletters).mpr hdigit'))
          have hbound := le_foldl hbase (acc * base + value) others
          have hlimit := hle (List.cons_ne_nil _ _)
          rw [List.foldl_cons] at hn
          rw [if_pos (by omega)]
          exact ih.mpr ⟨others, hothers, hn, fun _ => hlimit⟩

/-- Digits are read as the number that they write, if it is within the bound. -/
theorem readUp_zero_eq_ok_iff (hbase : 0 < base) (hletters : base ≤ 36) {limit : Int} {n : Nat}
    (hne : text ≠ []) : readUp base limit 0 text = .ok n ↔ Writes base text n ∧ n ≤ limit := by
  simp only [readUp_eq_ok_iff hbase hletters, Writes, ofDigits_reverse]
  constructor
  · rintro ⟨digits, hdigits, hn, hle⟩
    exact ⟨⟨hne, digits, hdigits, hn⟩, hle hne⟩
  · rintro ⟨⟨-, digits, hdigits, hn⟩, hle⟩
    exact ⟨digits, hdigits, hn, fun _ => hle⟩

/-- The same where the number becomes an integer. -/
theorem map_readUp_eq_ok_iff (hbase : 0 < base) (hletters : base ≤ 36) {high n : Int}
    (hne : text ≠ []) : (readUp base high 0 text).map Int.ofNat = .ok n ↔
      ∃ m : Nat, n = m ∧ Writes base text m ∧ n ≤ high := by
  rw [map_eq_ok]
  refine exists_congr fun m => ?_
  rw [readUp_zero_eq_ok_iff hbase hletters hne]
  constructor
  · rintro ⟨⟨hwrites, hle⟩, rfl⟩
    exact ⟨rfl, hwrites, hle⟩
  · rintro ⟨rfl, hwrites, hle⟩
    exact ⟨⟨hwrites, hle⟩, rfl⟩

/-! ## Signs -/

/-- A numeral is read as the number that it writes, if it is between the bounds. A minus sign is
refused where no negative number is wanted. -/
theorem read_eq_ok_iff (hbase : 0 < base) (hletters : base ≤ 36) {low high n : Int}
    (hlow : low ≤ 0) (hhigh : 0 ≤ high) :
    read base low high text = .ok n ↔
      WithSign (Writes base) text n ∧ (text.head? = some '-' → low < 0) ∧ low ≤ n ∧ n ≤ high := by
  unfold read
  split
  case h_1 =>
    refine ⟨nofun, fun ⟨hsigned, _⟩ => ?_⟩
    cases hsigned with
    | bare h => exact absurd rfl h.1
  case h_2 =>
    refine ⟨nofun, fun ⟨hsigned, _⟩ => ?_⟩
    cases hsigned with
    | bare h => exact absurd rfl h.not_sign.1
    | plus h => exact absurd rfl h.1
  case h_3 =>
    refine ⟨nofun, fun ⟨hsigned, _⟩ => ?_⟩
    cases hsigned with
    | bare h => exact absurd rfl h.not_sign.2
    | minus h => exact absurd rfl h.1
  case h_4 digits hne =>
    rw [map_readUp_eq_ok_iff hbase hletters hne]
    constructor
    · rintro ⟨m, rfl, hwrites, hle⟩
      exact ⟨.plus hwrites, nofun, Int.le_trans hlow (Int.natCast_nonneg m), hle⟩
    · rintro ⟨hsigned, -, -, hle⟩
      cases hsigned with
      | bare h => exact absurd rfl h.not_sign.1
      | plus h => exact ⟨_, rfl, h, hle⟩
  case h_5 digits hne =>
    constructor
    · intro h
      split at h
      case isFalse => cases h
      case isTrue hnegative =>
        split at h
        case h_1 m hm =>
          obtain rfl := Except.ok.inj h
          obtain ⟨hwrites, hle⟩ := (readUp_zero_eq_ok_iff hbase hletters hne).mp hm
          exact ⟨.minus hwrites, fun _ => hnegative, by omega, by omega⟩
        case h_2 | h_3 => cases h
    · rintro ⟨hsigned, hnegative, hle, -⟩
      cases hsigned with
      | bare h => exact absurd rfl h.not_sign.2
      | minus h =>
          rw [if_pos (hnegative rfl),
            (readUp_zero_eq_ok_iff hbase hletters hne).mpr ⟨h, by omega⟩]
  case h_6 hne _ _ hplus hminus =>
    rw [map_readUp_eq_ok_iff hbase hletters hne]
    constructor
    · rintro ⟨m, rfl, hwrites, hle⟩
      refine ⟨.bare hwrites, fun hhead => ?_, Int.le_trans hlow (Int.natCast_nonneg m), hle⟩
      obtain ⟨rest, rfl⟩ := List.head?_eq_some_iff.mp hhead
      exact absurd rfl hwrites.not_sign.2
    · rintro ⟨hsigned, -, -, hle⟩
      cases hsigned with
      | bare h => exact ⟨_, rfl, h, hle⟩
      | plus h => exact absurd rfl (hplus _)
      | minus h => exact absurd rfl (hminus _)

/-- Where only counts are wanted, a numeral has no minus sign. -/
theorem readUnsigned_eq_ok_iff (hbase : 0 < base) (hletters : base ≤ 36) {bits n : Nat} :
    readUnsigned base bits text = .ok n ↔
      WithSign (Writes base) text n ∧ text.head? ≠ some '-' ∧ n < 2 ^ bits := by
  have hpower : (0 : Int) < 2 ^ bits := Int.pow_pos (by decide)
  have hcast : ((2 ^ bits : Nat) : Int) = 2 ^ bits := Int.natCast_pow 2 bits
  rw [readUnsigned, map_eq_ok]
  simp only [read_eq_ok_iff hbase hletters Int.le_rfl (Int.le_sub_one_of_lt hpower)]
  constructor
  · rintro ⟨value, ⟨hsigned, hhead, hlow, hhigh⟩, rfl⟩
    rw [Int.toNat_of_nonneg hlow]
    exact ⟨hsigned, fun h => absurd (hhead h) (Int.lt_irrefl 0), by omega⟩
  · rintro ⟨hsigned, hhead, hlt⟩
    exact ⟨n, ⟨hsigned, fun h => absurd h hhead, Int.natCast_nonneg n, by omega⟩, rfl⟩

/-! ## Printed numbers -/

/-- A further digit moves the others by one place. -/
theorem writes_concat {n value : Nat} {c : Char} (h : Writes base text n)
    (hc : IsDigit base c value) : Writes base (text ++ [c]) (base * n + value) := by
  obtain ⟨-, digits, hdigits, rfl⟩ := h
  refine ⟨List.append_ne_nil_of_right_ne_nil _ (List.cons_ne_nil c []), digits ++ [value],
    List.rel_append hdigits (.cons hc .nil), ?_⟩
  rw [List.reverse_append, List.reverse_singleton, List.singleton_append, Nat.ofDigits_cons,
    Nat.add_comm]

/-- The character that is printed for a value is the digit of it. -/
theorem isDigit_digitChar {value : Nat} (hvalue : value < base) (hbase : base ≤ 16) :
    IsDigit base (Nat.digitChar value) value := by
  have hall : ∀ value < 16,
      value < 10 ∧ (Nat.digitChar value).toNat = 48 + value ∨
        10 ≤ value ∧ (Nat.digitChar value).toNat = 87 + value := by
    decide
  exact ⟨hvalue, (hall value (by omega)).imp_right fun h => ⟨h.1, .inl h.2⟩⟩

/-- The digits of a number write it. -/
theorem writes_toDigits (hbase : 1 < base) (hletters : base ≤ 16) (n : Nat) :
    Writes base (Nat.toDigits base n) n := by
  induction n using Nat.strong_induction_on with
  | _ n ih =>
      by_cases hn : n < base
      case pos =>
        rw [Nat.toDigits_of_lt_base hn]
        refine ⟨List.cons_ne_nil _ _, [n], .cons (isDigit_digitChar hn hletters) .nil, ?_⟩
        exact Nat.ofDigits_singleton.symm
      case neg =>
        have hpositive : 0 < base := Nat.lt_trans Nat.zero_lt_one hbase
        have hquotient : n / base < n := Nat.div_lt_self (by omega) hbase
        have hlast := isDigit_digitChar (Nat.mod_lt n hpositive) hletters
        rw [Nat.toDigits_of_base_le hbase (Nat.le_of_not_lt hn)]
        have hwrites := writes_concat (ih (n / base) hquotient) hlast
        rwa [Nat.div_add_mod] at hwrites

/-- The digits of a whole number, behind its sign if it is negative. -/
theorem toList_toString (n : Int) :
    (toString n).toList =
      match n with
      | .ofNat m => Nat.toDigits 10 m
      | .negSucc m => '-' :: Nat.toDigits 10 (m + 1) := by
  cases n with
  | ofNat m => exact String.toList_ofList
  | negSucc m =>
      show ("-" ++ String.ofList (Nat.toDigits 10 (m + 1))).toList = _
      rw [String.toList_append, String.toList_ofList, String.toList_ofList]
      rfl

end GroundLink.Numeral
