import GroundLink.Proofs.Bytes
import GroundLink.Proofs.Numeral
import GroundLink.Proofs.Text
import GroundLink.Time.Timestamp
import Mathlib.Tactic.Ring

/-!
# Timestamps and their texts

A day that is counted from the start of a year is a date of the calendar, and the date has the
number of the day (`dateFrom_spec`). A date and a second of its day are read as the instant they
were printed from (`readInstant_instantCodes`), so every timestamp is read from its text
(`read_text`).
-/

namespace GroundLink

namespace Calendar

/-! ## Dates -/

/-- A year has 365 days at least. -/
theorem le_yearLength (year : Nat) : 365 ≤ yearLength year := by
  unfold yearLength
  split <;> decide

/-- The year of a day, and how far it can be from the first one. -/
theorem findYear_spec (year days : Nat) :
    (findYear year days).2 < yearLength (findYear year days).1 ∧
      daysBeforeYear (findYear year days).1 + (findYear year days).2 =
        daysBeforeYear year + days ∧
      year ≤ (findYear year days).1 ∧ 365 * ((findYear year days).1 - year) ≤ days := by
  fun_induction findYear year days with
  | case1 year days h => exact ⟨h, rfl, Nat.le_refl year, by omega⟩
  | case2 year days h ih =>
      obtain ⟨hlt, hsame, hle, hspan⟩ := ih
      have hlength := le_yearLength year
      rw [daysBeforeYear] at hsame
      exact ⟨hlt, by omega, by omega, by omega⟩

/-- The days before a month are those before the last one and those of it. -/
theorem daysBeforeMonth_succ (leap : Bool) {month : Nat} (h : 1 ≤ month) :
    daysBeforeMonth leap (month + 1) = daysBeforeMonth leap month + monthLength leap month := by
  obtain ⟨before, rfl⟩ := Nat.exists_eq_succ_of_ne_zero (Nat.ne_of_gt h)
  rw [daysBeforeMonth, Nat.add_sub_cancel, List.range_succ, List.foldl_append]
  rfl

/-- Later months have more days before them. -/
theorem daysBeforeMonth_mono (leap : Bool) {first later : Nat} (hfirst : 1 ≤ first)
    (h : first ≤ later) : daysBeforeMonth leap first ≤ daysBeforeMonth leap later := by
  induction later, h using Nat.le_induction with
  | base => exact Nat.le_refl _
  | succ later hle ih =>
      rw [daysBeforeMonth_succ leap (Nat.le_trans hfirst hle)]
      exact Nat.le_trans ih (Nat.le_add_right _ _)

/-- The months make up the year. -/
theorem daysBeforeMonth_end (year : Nat) :
    daysBeforeMonth (isLeap year) 13 = yearLength year := by
  unfold yearLength
  cases isLeap year <;> rfl

/-- The month of a day. -/
theorem findMonth_spec (leap : Bool) {month : Nat} (days : Nat) (hmonth : 1 ≤ month) :
    (findMonth leap month days).2 < monthLength leap (findMonth leap month days).1 ∧
      daysBeforeMonth leap (findMonth leap month days).1 + (findMonth leap month days).2 =
        daysBeforeMonth leap month + days ∧
      month ≤ (findMonth leap month days).1 := by
  fun_induction findMonth leap month days with
  | case1 month days h => exact ⟨h, rfl, Nat.le_refl month⟩
  | case2 month days h ih =>
      obtain ⟨hlt, hsame, hle⟩ := ih (by omega)
      rw [daysBeforeMonth_succ leap hmonth] at hsame
      exact ⟨hlt, by omega, by omega⟩

/-- A month has 31 days at most. -/
theorem monthLength_le (leap : Bool) (month : Nat) : monthLength leap month ≤ 31 := by
  unfold monthLength
  split <;> (try split) <;> decide

/-- A day counted from the first day of a year is a date of the calendar with the right number. -/
theorem dateFrom_spec (year days : Nat) :
    (dateFrom year days).isValid = true ∧
      (dateFrom year days).dayNumber = daysBeforeYear year + days ∧
      year ≤ (dateFrom year days).year ∧ 365 * ((dateFrom year days).year - year) ≤ days := by
  obtain ⟨hyearLt, hyear, hle, hspan⟩ := findYear_spec year days
  obtain ⟨hmonthLt, hmonth, hfirst⟩ :=
    findMonth_spec (isLeap (findYear year days).1) (findYear year days).2 (Nat.le_refl 1)
  have hstart : daysBeforeMonth (isLeap (findYear year days).1) 1 = 0 := rfl
  unfold dateFrom
  generalize findYear year days = found at *
  obtain ⟨foundYear, dayOfYear⟩ := found
  dsimp only at *
  generalize findMonth (isLeap foundYear) 1 dayOfYear = place at *
  obtain ⟨month, day⟩ := place
  dsimp only at *
  -- a month behind the twelfth would begin behind the end of the year
  have hlast : month ≤ 12 := by
    by_contra hbehind
    have hmono := daysBeforeMonth_mono (isLeap foundYear) (show 1 ≤ 13 by decide)
      (by omega : 13 ≤ month)
    rw [daysBeforeMonth_end] at hmono
    omega
  refine ⟨?_, ?_, hle, hspan⟩
  · simp only [Date.isValid, Bool.and_eq_true, decide_eq_true_eq]
    omega
  · simp only [Date.dayNumber]
    omega

/-- The parts of a date have few digits. -/
theorem Date.lt_of_isValid {date : Date} (h : date.isValid = true) :
    date.month < 100 ∧ date.day < 100 := by
  have hlength := monthLength_le (isLeap date.year) date.month
  simp only [isValid, Bool.and_eq_true, decide_eq_true_eq] at h
  omega

/-! ## Instants -/

/-- A number in `width` decimal digits, given as ASCII codes. -/
def digitCodes : (width n : Nat) → Bytes
  | 0, _ => []
  | width + 1, n => digitCodes width (n / 10) ++ [UInt8.ofNat (48 + n % 10)]

/-- Zero is written in zeros. -/
theorem digitCodes_zero (width : Nat) : digitCodes width 0 = List.replicate width 48 := by
  induction width with
  | zero => rfl
  | succ width ih =>
      rw [digitCodes, Nat.zero_div, ih, List.replicate_succ']
      rfl

/-- A digit takes one byte. -/
theorem utf8EncodeChar_digitChar {d : Nat} (h : d < 10) :
    String.utf8EncodeChar (Nat.digitChar d) = [UInt8.ofNat (48 + d)] := by
  have hall : ∀ d < 10, String.utf8EncodeChar (Nat.digitChar d) = [UInt8.ofNat (48 + d)] := by
    decide
  exact hall d h

/-- The characters of a number that is printed with leading zeros. -/
theorem utf8_padded {width n : Nat} (hwidth : 0 < width) (h : n < 10 ^ width) :
    utf8 (padded width n) = digitCodes width n := by
  rw [utf8_eq, padded, String.toList_ofList]
  induction width generalizing n with
  | zero => exact absurd hwidth (Nat.lt_irrefl 0)
  | succ width ih =>
      by_cases hn : n < 10
      case pos =>
        have hzeros : (List.replicate width '0').flatMap String.utf8EncodeChar =
            List.replicate width 48 := by
          rw [List.flatMap_replicate]
          exact List.flatten_replicate_singleton
        rw [Nat.toDigits_of_lt_base hn, List.length_singleton, Nat.add_sub_cancel,
          List.flatMap_append, hzeros, List.flatMap_singleton, utf8EncodeChar_digitChar hn,
          digitCodes, Nat.div_eq_of_lt hn, digitCodes_zero, Nat.mod_eq_of_lt hn]
      case neg =>
        have hten : 10 ≤ n := Nat.le_of_not_lt hn
        have hpositive : 0 < width := by
          by_contra hzero
          obtain rfl : width = 0 := by omega
          omega
        have hquotient : n / 10 < 10 ^ width := by
          rw [Nat.pow_succ] at h
          omega
        rw [Nat.toDigits_of_base_le (by decide) hten, List.length_append, List.length_singleton,
          Nat.add_sub_add_right, ← List.append_assoc, List.flatMap_append, ih hpositive hquotient,
          List.flatMap_singleton, utf8EncodeChar_digitChar (Nat.mod_lt n (by decide)), digitCodes]

/-- The code of a digit is read as the digit. -/
theorem digit_code {d : Nat} (h : d < 10) : digit (UInt8.ofNat (48 + d)) = .ok d := by
  have hall : ∀ d < 10, digit (UInt8.ofNat (48 + d)) = .ok d := by decide
  exact hall d h

/-- Digits are read as the number that they write, behind what was read before. -/
theorem foldlM_digitCodes (width acc n : Nat) :
    (digitCodes width n).foldlM (fun acc code => do pure (acc * 10 + (← digit code))) acc =
      Except.ok (ε := InstantError) (acc * 10 ^ width + n % 10 ^ width) := by
  induction width generalizing n with
  | zero =>
      rw [Nat.pow_zero, Nat.mod_one, Nat.mul_one]
      rfl
  | succ width ih =>
      have hdigit := digit_code (Nat.mod_lt n (by decide : 0 < 10))
      rw [digitCodes, List.foldlM_append, ih]
      simp only [List.foldlM_cons, List.foldlM_nil, hdigit]
      show Except.ok ((acc * 10 ^ width + n / 10 % 10 ^ width) * 10 + n % 10) = _
      rw [Nat.pow_succ, Nat.mul_comm (10 ^ width) 10, Nat.mod_mul]
      congr 1
      ring

/-- Digits in place are read as the number they write. -/
theorem digitsAt_of_slice {text : Bytes} {offset count n : Nat} (hn : n < 10 ^ count)
    (h : (text.drop offset).take count = digitCodes count n) :
    digitsAt text offset count = .ok n := by
  rw [digitsAt, h, foldlM_digitCodes, Nat.zero_mul, Nat.zero_add, Nat.mod_eq_of_lt hn]

/-- The characters of a date and a second of its day. -/
def instantCodes (date : Date) (second : Nat) : Bytes :=
  digitCodes 4 date.year ++ [45] ++ digitCodes 2 date.month ++ [45] ++ digitCodes 2 date.day ++
    [84] ++ digitCodes 2 (second / 3600) ++ [58] ++ digitCodes 2 (second / 60 % 60) ++ [58] ++
    digitCodes 2 (second % 60) ++ [90]

/-- The text of an instant has one byte for each character, digits and marks in place. -/
theorem utf8_instantText {date : Date} {second : Nat} (hvalid : date.isValid = true)
    (hyear : date.year < 10000) (hsecond : second < 86400) :
    utf8 (instantText date second) = instantCodes date second := by
  obtain ⟨hmonth, hday⟩ := Date.lt_of_isValid hvalid
  have happend (s t : String) : utf8 (s ++ t) = utf8 s ++ utf8 t := by
    rw [utf8_eq, utf8_eq, utf8_eq, String.toList_append, List.flatMap_append]
  have hdash : utf8 "-" = [45] := by rw [utf8_eq]; rfl
  have hmark : utf8 "T" = [84] := by rw [utf8_eq]; rfl
  have hcolon : utf8 ":" = [58] := by rw [utf8_eq]; rfl
  have hzone : utf8 "Z" = [90] := by rw [utf8_eq]; rfl
  rw [instantText, instantCodes]
  simp only [happend, hdash, hmark, hcolon, hzone]
  rw [utf8_padded (by decide) hyear, utf8_padded (by decide) hmonth, utf8_padded (by decide) hday,
    utf8_padded (by decide) (by omega : second / 3600 < 100),
    utf8_padded (by decide) (by omega : second / 60 % 60 < 100),
    utf8_padded (by decide) (by omega : second % 60 < 100)]

/-- A text shows a date and a time of the day in universal time: what stands at each place. -/
structure Shows (text : Bytes) (date : Date) (hour minute second : Nat) : Prop where
  long : 19 ≤ text.length
  year : digitsAt text 0 4 = .ok date.year
  month : digitsAt text 5 2 = .ok date.month
  day : digitsAt text 8 2 = .ok date.day
  dashes : expectAt text 4 ['-'] = .ok () ∧ expectAt text 7 ['-'] = .ok ()
  mark : expectAt text 10 ['t', 'T', ' '] = .ok ()
  hour : digitsAt text 11 2 = .ok hour
  minute : digitsAt text 14 2 = .ok minute
  second : digitsAt text 17 2 = .ok second
  colons : expectAt text 13 [':'] = .ok () ∧ expectAt text 16 [':'] = .ok ()
  zone : text.drop 19 = [0x5A]

/-- A date and a time are read as their instant. -/
theorem Shows.readInstant_eq {text : Bytes} {date : Date} {hour minute second : Nat}
    (h : Shows text date hour minute second) (hvalid : date.isValid = true)
    (htime : hour < 24 ∧ minute < 60 ∧ second < 60) :
    readInstant text = .ok (date.dayNumber * 86400 + hour * 3600 + minute * 60 + second) := by
  have hlong : ¬text.length < 19 := Nat.not_lt.mpr h.long
  have hrange : ¬(24 ≤ hour ∨ 60 ≤ minute ∨ 60 ≤ second) := by omega
  have hleap : second ≠ 60 := Nat.ne_of_lt htime.2.2
  have hoffset : readOffset [0x5A] = .ok (0, []) := rfl
  have hsmall : ¬maxOffset < (0 : Int).natAbs := by decide
  have hbind {α β : Type} (a : α) (f : α → Except InstantError β) : (Except.ok a >>= f) = f a := rfl
  have hpure {α : Type} (a : α) : (pure a : Except InstantError α) = .ok a := rfl
  unfold readInstant
  simp only [hlong, h.year, h.month, h.day, h.dashes, h.mark, h.hour, h.minute, h.second, h.colons,
    h.zone, hbind, hpure, hvalid, hrange, hleap, if_false, Bool.not_true, Bool.false_eq_true]
  split
  case h_1 hpoint => cases hpoint
  case h_2 =>
    simp only [hoffset, hbind, List.isEmpty_nil, Bool.not_true, Bool.false_eq_true, hsmall,
      if_false, Int.sub_zero]

/-- The characters of a date and a second of its day show them. -/
theorem shows_instantCodes {date : Date} {second : Nat} (hvalid : date.isValid = true)
    (hyear : date.year < 10000) (hsecond : second < 86400) :
    Shows (instantCodes date second) date (second / 3600) (second / 60 % 60) (second % 60) := by
  obtain ⟨hmonth, hday⟩ := Date.lt_of_isValid hvalid
  have hfour (n : Nat) : ∃ a b c d, digitCodes 4 n = [a, b, c, d] := ⟨_, _, _, _, rfl⟩
  have htwo (n : Nat) : ∃ a b, digitCodes 2 n = [a, b] := ⟨_, _, rfl⟩
  obtain ⟨y3, y2, y1, y0, hy⟩ := hfour date.year
  obtain ⟨m1, m0, hm⟩ := htwo date.month
  obtain ⟨d1, d0, hd⟩ := htwo date.day
  obtain ⟨h1, h0, hh⟩ := htwo (second / 3600)
  obtain ⟨i1, i0, hi⟩ := htwo (second / 60 % 60)
  obtain ⟨s1, s0, hs⟩ := htwo (second % 60)
  have htext : instantCodes date second =
      [y3, y2, y1, y0, 45, m1, m0, 45, d1, d0, 84, h1, h0, 58, i1, i0, 58, s1, s0, 90] := by
    rw [instantCodes, hy, hm, hd, hh, hi, hs]
    rfl
  rw [htext]
  exact {
    long := Nat.le_succ 19
    year := digitsAt_of_slice hyear hy.symm
    month := digitsAt_of_slice hmonth hm.symm
    day := digitsAt_of_slice hday hd.symm
    dashes := ⟨rfl, rfl⟩
    mark := rfl
    hour := digitsAt_of_slice (by omega) hh.symm
    minute := digitsAt_of_slice (by omega) hi.symm
    second := digitsAt_of_slice (by omega) hs.symm
    colons := ⟨rfl, rfl⟩
    zone := rfl }

/-- A date and a second of its day are read as they were printed. -/
theorem readInstant_instantCodes {date : Date} {second : Nat} (hvalid : date.isValid = true)
    (hyear : date.year < 10000) (hsecond : second < 86400) :
    readInstant (instantCodes date second) = .ok (date.dayNumber * 86400 + second) := by
  have hshows := shows_instantCodes hvalid hyear hsecond
  rw [hshows.readInstant_eq hvalid (by omega)]
  refine congrArg Except.ok ?_
  generalize date.dayNumber = number
  omega

end Calendar

namespace Timestamp

open Calendar

/-- Padded numbers are visible. -/
theorem visible_of_padded {width n : Nat} : Text.Visible (padded width n).toList := by
  intro c hc
  rw [padded, String.toList_ofList, List.mem_append] at hc
  rcases hc with hc | hc
  · rw [List.eq_of_mem_replicate hc]
    decide
  · have hdigit :=
      Char.isDigit_iff_toNat.mp (Nat.isDigit_of_mem_toDigits (by decide) (by decide) hc)
    have hzero : '0'.toNat = 48 := rfl
    have hnine : '9'.toNat = 57 := rfl
    omega

/-- All characters of an instant are visible. -/
theorem visible_of_instantText {date : Date} {second : Nat} :
    Text.Visible (instantText date second).toList := by
  have hnumber {width n : Nat} : Text.Visible (padded width n).toList := visible_of_padded
  have hdash : Text.Visible "-".toList := by decide
  have hcolon : Text.Visible ":".toList := by decide
  have hdate {year month day : Nat} : Text.Visible
      ((((padded 4 year).toList ++ "-".toList) ++ (padded 2 month).toList ++ "-".toList) ++
        (padded 2 day).toList) :=
    (((hnumber.append hdash).append hnumber).append hdash).append hnumber
  simp only [instantText, String.toList_append]
  exact ((((((hdate.append (by decide)).append hnumber).append hcolon).append hnumber).append
    hcolon).append hnumber).append (by decide)

/-- The marker is the timestamp of zero seconds. -/
theorem isImmediate_iff {t : Timestamp} : t.isImmediate = true ↔ t.seconds.toNat = 0 := by
  rw [isImmediate, decide_eq_true_iff, ← UInt32.toNat_inj, UInt32.toNat_zero]

/-- A timestamp that is not the marker has a moment: the register ends long before the last year of
which dates are kept. -/
theorem toMoment?_of_pos {t : Timestamp} (h : 0 < t.seconds.toNat) :
    t.toMoment? = some ⟨dateFrom 1970 (10957 + t.seconds.toNat / 86400),
      t.seconds.toNat % 86400⟩ := by
  have hlt := t.seconds.toNat_lt
  have himmediate : ¬t.isImmediate = true := fun hzero => Nat.ne_of_gt h (isImmediate_iff.mp hzero)
  rw [toMoment?, if_neg himmediate, Moment.ofUnix?, epochUnix]
  generalize t.seconds.toNat = n at hlt
  have hday : (946684800 + n) / 86400 = 10957 + n / 86400 := by omega
  have hsecond : (946684800 + n) % 86400 = n % 86400 := by omega
  obtain ⟨-, -, -, hspan⟩ := dateFrom_spec 1970 (10957 + n / 86400)
  rw [hday, hsecond]
  exact if_pos (by unfold lastYear; omega)

/-- The text of a timestamp is the name of the marker or an instant. -/
theorem text_eq (t : Timestamp) : t.text = if t.seconds.toNat = 0 then "immediate" else
    instantText (dateFrom 1970 (10957 + t.seconds.toNat / 86400)) (t.seconds.toNat % 86400) := by
  split
  case isTrue hzero =>
    have himmediate := isImmediate_iff.mpr hzero
    rw [text, toMoment?, if_pos himmediate]
    exact if_pos himmediate
  case isFalse hdate =>
    rw [text, toMoment?_of_pos (Nat.pos_of_ne_zero hdate)]
    rfl

/-- The text of a timestamp is visible. -/
theorem visible_text (t : Timestamp) : Text.Visible t.text.toList := by
  rw [text_eq]
  split
  case isTrue => decide
  case isFalse => exact visible_of_instantText

/-- There is a dash behind the year. -/
theorem dash_mem_instantText {date : Date} {second : Nat} :
    '-' ∈ (instantText date second).toList.tail := by
  have hyear : (padded 4 date.year).toList ≠ [] := by
    rw [padded, String.toList_ofList]
    exact List.append_ne_nil_of_right_ne_nil _ Nat.toDigits_ne_nil
  simp only [instantText, String.toList_append, List.append_assoc]
  rw [List.tail_append_of_ne_nil hyear]
  exact List.mem_append_right _ List.mem_cons_self

/-- A text with a dash is no name without one, in any letter case. -/
theorem toLower_ne_of_dash {text name : String} (h : '-' ∈ text.toList)
    (hname : '-' ∉ name.toList) :
    text.toLower ≠ name := by
  rintro rfl
  refine hname ?_
  show '-' ∈ (text.map Char.toLower).toList
  rw [String.toList_map]
  exact List.mem_map.mpr ⟨'-', h, by decide⟩

/-- A text with a dash behind its first character is no count of seconds. -/
theorem not_numeral_of_dash {text : List Char} (h : '-' ∈ text.tail) :
    ∃ cause, Numeral.readUnsigned 10 32 text = .error cause := by
  cases hresult : Numeral.readUnsigned 10 32 text with
  | error cause => exact ⟨cause, rfl⟩
  | ok seconds =>
      obtain ⟨n, hn, -⟩ := map_eq_ok.mp hresult
      rw [Numeral.read_eq_ok_iff (by decide) (by decide) (by decide) (by decide)] at hn
      obtain ⟨value, -, hcode⟩ := hn.1.exists_digit '-' h
      have hdash : '-'.toNat = 45 := rfl
      omega

/-- What is neither a name nor a numeral is read as an instant. -/
theorem read_of_instant {text : String} {seconds : Int} {t : Timestamp}
    (htrim : Text.trimmed text = text)
    (hname : ¬(text.toLower = "now" ∨ text.toLower = "immediate"))
    (hnumeral : ∃ cause, Numeral.readUnsigned 10 32 text.toList = .error cause)
    (hinstant : readInstant (utf8 text) = .ok seconds)
    (h : ofOffset? (seconds - epochDay * 86400) = some t) : read text = .ok t := by
  obtain ⟨cause, hcause⟩ := hnumeral
  unfold read
  rw [htrim]
  dsimp only
  rw [if_neg hname, hcause, hinstant]
  dsimp only
  rw [h]

/-- A date and a second of its day are read as the timestamp of their instant. -/
theorem read_instantText {date : Date} {second : Nat} {t : Timestamp} (hvalid : date.isValid = true)
    (hyear : date.year < 10000) (hsecond : second < 86400)
    (h : ofOffset? (date.dayNumber * 86400 + second - epochDay * 86400) = some t) :
    read (instantText date second) = .ok t := by
  have hdash : '-' ∈ (instantText date second).toList.tail := dash_mem_instantText
  have hname {name : String} (hname : '-' ∉ name.toList) :
      (instantText date second).toLower ≠ name :=
    toLower_ne_of_dash (List.mem_of_mem_tail hdash) hname
  refine read_of_instant (Text.trimmed_of_visible visible_of_instantText)
    (not_or.mpr ⟨hname (by decide), hname (by decide)⟩) (not_numeral_of_dash hdash) ?_ h
  rw [utf8_instantText hvalid hyear hsecond, readInstant_instantCodes hvalid hyear hsecond]

/-- Any other timestamp is that of its own seconds. -/
theorem ofOffset?_toNat {t : Timestamp} (h : 0 < t.seconds.toNat) :
    ofOffset? t.seconds.toNat = some t := by
  have hlt := t.seconds.toNat_lt
  rw [ofOffset?, if_pos (by omega), Int.toNat_natCast, UInt32.ofNat_toNat]

/-- The timestamp of a day of the year 2000 or later and a second of the day. -/
theorem ofOffset?_of_day {t : Timestamp} {start n : Nat} (hn : t.seconds.toNat = n)
    (hpositive : 0 < n) :
    ofOffset? ((start + n / 86400 : Nat) * 86400 + (n % 86400 : Nat) - start * 86400) = some t := by
  have hsame : (((start + n / 86400 : Nat) : Int) * 86400 + (n % 86400 : Nat)) - start * 86400 =
      t.seconds.toNat := by
    omega
  rw [hsame]
  exact ofOffset?_toNat (hn ▸ hpositive)

/-- The year 2000 starts 10957 days after the year 1970. -/
theorem epochDay_eq : epochDay = daysBeforeYear 1970 + 10957 := by
  decide +kernel

/-- Every timestamp is read from its text. -/
theorem read_text (t : Timestamp) : read t.text = .ok t := by
  rw [text_eq]
  split
  case isTrue hzero =>
    obtain ⟨seconds⟩ := t
    obtain rfl : seconds = 0 := UInt32.toNat_inj.mp hzero
    have hname : "immediate".toLower = "immediate" := by decide +kernel
    rw [read, Text.trimmed_of_visible (by decide)]
    simp only [hname, or_true, if_true]
    rfl
  case isFalse hdate =>
    have hpositive : 0 < t.seconds.toNat := Nat.pos_of_ne_zero hdate
    have hlt := t.seconds.toNat_lt
    generalize hn : t.seconds.toNat = n at hpositive hlt
    obtain ⟨hvalid, hnumber, -, hspan⟩ := dateFrom_spec 1970 (10957 + n / 86400)
    refine read_instantText hvalid (by omega) (Nat.mod_lt n (by decide)) ?_
    rw [hnumber, ← Nat.add_assoc, ← epochDay_eq]
    exact ofOffset?_of_day hn hpositive

end Timestamp

end GroundLink
