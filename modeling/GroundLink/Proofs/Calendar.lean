import GroundLink.Proofs.Timestamp
import Mathlib.Logic.Function.Iterate

/-!
# The calendar day by day

`Date.next` is the day after a day, by the lengths of the months and the rule for leap years alone,
and `Moment.after` counts days from the first one of the year 2000 on. Neither divides, looks for a
year, or knows a number of days. Read `text_is_of_moment` first: every timestamp is read from its
text, which is the RFC 3339 text of the moment that many seconds after the start of the year 2000.

Dates have a number each: `dayNumber_next` says that the next day has the next number, and
`eq_of_dayNumber_eq` that no other date has it. So the date that is looked for in the calendar is
the one that counting arrives at (`dateFrom_eq_iterate`).
-/

namespace GroundLink

namespace Calendar

/-- The day after a day. -/
def Date.next (date : Date) : Date :=
  if date.day < monthLength (isLeap date.year) date.month then
    ⟨date.year, date.month, date.day + 1⟩
  else if date.month < 12 then ⟨date.year, date.month + 1, 1⟩
  else ⟨date.year + 1, 1, 1⟩

/-- The first day of the year 2000. -/
def epoch : Date := ⟨2000, 1, 1⟩

/-- The moment some seconds after the start of the year 2000, each day having 86400 of them. -/
def Moment.after (seconds : Nat) : Moment :=
  ⟨Date.next^[seconds / 86400] epoch, seconds % 86400⟩

namespace Date

variable {date other : Date}

/-- A date is valid if its month is one of twelve and its day is one of the month. -/
theorem isValid_iff : date.isValid = true ↔ 1 ≤ date.month ∧ date.month ≤ 12 ∧ 1 ≤ date.day ∧
    date.day ≤ monthLength (isLeap date.year) date.month := by
  simp only [isValid, Bool.and_eq_true, decide_eq_true_eq, and_assoc]

/-- A month has days. -/
theorem monthLength_pos (leap : Bool) (month : Nat) : 0 < monthLength leap month := by
  unfold monthLength
  split <;> (try split) <;> decide

/-- The day after a day of the calendar is one as well. -/
theorem isValid_next (h : date.isValid = true) : date.next.isValid = true := by
  obtain ⟨hfirst, hlast, hday, hlength⟩ := isValid_iff.mp h
  rw [isValid_iff, next]
  split
  case isTrue hmonth => exact ⟨hfirst, hlast, Nat.le_add_left 1 _, hmonth⟩
  case isFalse =>
    split
    case isTrue hyear =>
      exact ⟨Nat.le_add_left 1 _, hyear, Nat.le_refl 1, monthLength_pos _ _⟩
    case isFalse =>
      have htwelve : 1 ≤ 12 := by decide
      exact ⟨Nat.le_refl 1, htwelve, Nat.le_refl 1, monthLength_pos _ _⟩

/-- The day after a day has the next number. -/
theorem dayNumber_next (h : date.isValid = true) : date.next.dayNumber = date.dayNumber + 1 := by
  obtain ⟨hfirst, hlast, hday, hlength⟩ := isValid_iff.mp h
  have hmonths := daysBeforeMonth_succ (isLeap date.year) hfirst
  have hstart (leap : Bool) : daysBeforeMonth leap 1 = 0 := rfl
  unfold next
  split
  case isTrue =>
    simp only [dayNumber]
    omega
  case isFalse hmonth =>
    split
    case isTrue =>
      simp only [dayNumber]
      omega
    case isFalse hyear =>
      -- the last day of December: its month ends with the year
      have hdecember : date.month = 12 := by omega
      have hend : daysBeforeMonth (isLeap date.year) (12 + 1) = yearLength date.year :=
        daysBeforeMonth_end date.year
      rw [hdecember] at hmonths hmonth hlength
      simp only [dayNumber, daysBeforeYear, hdecember, hstart]
      omega

/-- A number lies between two steps of a sequence that does not fall in one place only. -/
theorem eq_of_between {start : Nat → Nat} (hstart : ∀ a b, a < b → start (a + 1) ≤ start b)
    {a b n : Nat} (ha : start a ≤ n ∧ n < start (a + 1)) (hb : start b ≤ n ∧ n < start (b + 1)) :
    a = b := by
  rcases Nat.lt_trichotomy a b with hlt | heq | hgt
  · have := hstart a b hlt
    omega
  · exact heq
  · have := hstart b a hgt
    omega

/-- Later years have more days before them. -/
theorem daysBeforeYear_mono {first later : Nat} (h : first ≤ later) :
    daysBeforeYear first ≤ daysBeforeYear later := by
  induction later, h using Nat.le_induction with
  | base => exact Nat.le_refl _
  | succ later _ ih => exact Nat.le_trans ih (Nat.le_add_right _ _)

/-- The number of a date within its year. -/
def dayOfYear (date : Date) : Nat :=
  daysBeforeMonth (isLeap date.year) date.month + (date.day - 1)

/-- The number of a day is that of the days before its year and those of the year before it. -/
theorem dayNumber_eq (date : Date) :
    date.dayNumber = daysBeforeYear date.year + date.dayOfYear :=
  Nat.add_assoc _ _ _

/-- The day of a year is behind the days before its month, and before the next month. -/
theorem dayOfYear_between (h : date.isValid = true) :
    daysBeforeMonth (isLeap date.year) date.month ≤ date.dayOfYear ∧
      date.dayOfYear < daysBeforeMonth (isLeap date.year) (date.month + 1) := by
  obtain ⟨hfirst, -, hday, hlength⟩ := isValid_iff.mp h
  rw [daysBeforeMonth_succ _ hfirst, dayOfYear]
  omega

/-- The number of a day is behind the days before its year, and before the next year. -/
theorem dayNumber_between (h : date.isValid = true) :
    daysBeforeYear date.year ≤ date.dayNumber ∧
      date.dayNumber < daysBeforeYear (date.year + 1) := by
  obtain ⟨-, hlast, -, -⟩ := isValid_iff.mp h
  have hmonth := (dayOfYear_between h).2
  have hmono := daysBeforeMonth_mono (isLeap date.year) (show 1 ≤ date.month + 1 by omega)
    (show date.month + 1 ≤ 13 by omega)
  rw [daysBeforeMonth_end] at hmono
  rw [dayNumber_eq, daysBeforeYear]
  omega

/-- No two dates have the same number. -/
theorem eq_of_dayNumber_eq (h : date.isValid = true) (hother : other.isValid = true)
    (hsame : date.dayNumber = other.dayNumber) : date = other := by
  have hyear : date.year = other.year :=
    eq_of_between (fun _ _ hlt => daysBeforeYear_mono hlt) (dayNumber_between h)
      (hsame ▸ dayNumber_between hother)
  have hwithin : date.dayOfYear = other.dayOfYear := by
    rw [dayNumber_eq, dayNumber_eq, hyear] at hsame
    exact Nat.add_left_cancel hsame
  have hmonth : date.month = other.month := by
    have hbetween := dayOfYear_between h
    rw [hwithin, hyear] at hbetween
    exact eq_of_between (fun a _ hlt => daysBeforeMonth_mono _ (Nat.le_add_left 1 a) hlt) hbetween
      (dayOfYear_between hother)
  have hday : date.day = other.day := by
    rw [dayOfYear, dayOfYear, hyear, hmonth] at hwithin
    have hfirst := (isValid_iff.mp h).2.2.1
    have hotherFirst := (isValid_iff.mp hother).2.2.1
    omega
  obtain ⟨year, month, day⟩ := date
  obtain ⟨otherYear, otherMonth, otherDay⟩ := other
  obtain rfl : year = otherYear := hyear
  obtain rfl : month = otherMonth := hmonth
  obtain rfl : day = otherDay := hday
  rfl

/-- Counting days counts their numbers. -/
theorem iterate_next (h : date.isValid = true) (days : Nat) :
    (next^[days] date).isValid = true ∧ (next^[days] date).dayNumber = date.dayNumber + days := by
  induction days with
  | zero => exact ⟨h, rfl⟩
  | succ days ih =>
      obtain ⟨hvalid, hnumber⟩ := ih
      rw [Function.iterate_succ_apply']
      exact ⟨isValid_next hvalid, by rw [dayNumber_next hvalid, hnumber, Nat.add_assoc]⟩

end Date

/-- The first day of the year 2000 is a date. -/
theorem isValid_epoch : epoch.isValid = true :=
  rfl

/-- Its number is where timestamps start. -/
theorem dayNumber_epoch : epoch.dayNumber = Timestamp.epochDay := by
  decide +kernel

/-- The date that is looked for is the one that counting arrives at. -/
theorem dateFrom_eq_iterate (days : Nat) :
    dateFrom 1970 (10957 + days) = Date.next^[days] epoch := by
  obtain ⟨hvalid, hnumber, -, -⟩ := dateFrom_spec 1970 (10957 + days)
  obtain ⟨hcounted, hcount⟩ := Date.iterate_next isValid_epoch days
  refine Date.eq_of_dayNumber_eq hvalid hcounted ?_
  rw [hnumber, hcount, ← Nat.add_assoc, ← Timestamp.epochDay_eq, dayNumber_epoch]

end Calendar

namespace Timestamp

open Calendar

/-- The moment of a timestamp is that many seconds after the start. -/
theorem toMoment?_eq_after {t : Timestamp} (h : 0 < t.seconds.toNat) :
    t.toMoment? = some (Moment.after t.seconds.toNat) := by
  rw [toMoment?_of_pos h, dateFrom_eq_iterate, Moment.after]

/-- Only the marker has no moment. -/
theorem toMoment?_eq_none_iff {t : Timestamp} : t.toMoment? = none ↔ t = immediate := by
  constructor
  · intro h
    by_contra hother
    have hpositive : 0 < t.seconds.toNat := by
      refine Nat.pos_of_ne_zero fun hzero => hother ?_
      exact congrArg Timestamp.mk (UInt32.toNat_inj.mp hzero)
    rw [toMoment?_eq_after hpositive] at h
    cases h
  · rintro rfl
    rfl

/-- A timestamp is that of its moment. -/
theorem ofMoment?_after {t : Timestamp} (h : 0 < t.seconds.toNat) :
    ofMoment? (Moment.after t.seconds.toNat) = some t := by
  have hnumber := (Date.iterate_next isValid_epoch (t.seconds.toNat / 86400)).2
  rw [dayNumber_epoch, epochDay_eq] at hnumber
  have hoffset : (Moment.after t.seconds.toNat).unix - epochUnix = t.seconds.toNat := by
    simp only [Moment.unix, Moment.after, epochUnix]
    generalize daysBeforeYear 1970 = start at hnumber ⊢
    omega
  rw [ofMoment?, ofUnix?, hoffset]
  exact ofOffset?_toNat h

/-- A timestamp is shown as its moment, whose year has four digits. -/
theorem utf8_text {t : Timestamp} (h : 0 < t.seconds.toNat) :
    (Moment.after t.seconds.toNat).date.year ≤ 2136 ∧
      utf8 t.text = instantCodes (Moment.after t.seconds.toNat).date
        (Moment.after t.seconds.toNat).second := by
  have hlt := t.seconds.toNat_lt
  obtain ⟨hvalid, -, -, hspan⟩ := dateFrom_spec 1970 (10957 + t.seconds.toNat / 86400)
  have hyear : (dateFrom 1970 (10957 + t.seconds.toNat / 86400)).year ≤ 2136 := by omega
  rw [text_eq, if_neg (Nat.ne_of_gt h), Moment.after, ← dateFrom_eq_iterate]
  exact ⟨hyear, utf8_instantText hvalid (by omega) (Nat.mod_lt _ (by decide))⟩

/-- Every timestamp is read from its text. The marker alone has no moment. Any other timestamp is
that of the moment so many seconds after the start of the year 2000, counted day by day, and its
text is this moment in the format of RFC 3339: year, month and day in four, two and two digits with
dashes between them, `T`, hour, minute and second in two digits each with colons between them, and
`Z`. -/
theorem text_is_of_moment (t : Timestamp) :
    read t.text = .ok t ∧ (t.toMoment? = none ↔ t = immediate) ∧
    (0 < t.seconds.toNat → ∃ moment, moment = Moment.after t.seconds.toNat ∧
      t.toMoment? = some moment ∧ ofMoment? moment = some t ∧ moment.date.year ≤ 2136 ∧
      utf8 t.text = instantCodes moment.date moment.second) :=
  ⟨read_text t, toMoment?_eq_none_iff, fun h =>
    ⟨_, rfl, toMoment?_eq_after h, ofMoment?_after h, utf8_text h⟩⟩

/-- The last timestamp is in the year 2136. -/
theorem text_is_of_moment_at_end :
    0 < (⟨4294967295⟩ : Timestamp).seconds.toNat ∧
      (⟨4294967295⟩ : Timestamp).text = "2136-02-07T06:28:15Z" ∧
      read "2136-02-07T06:28:15Z" = .ok ⟨4294967295⟩ ∧
      ∃ moment, (⟨4294967295⟩ : Timestamp).toMoment? = some moment ∧
        ofMoment? moment = some ⟨4294967295⟩ := by
  obtain ⟨hread, -, hmoment⟩ := text_is_of_moment ⟨4294967295⟩
  obtain ⟨moment, -, hto, hof, -⟩ := hmoment (by decide)
  have htext : (⟨4294967295⟩ : Timestamp).text = "2136-02-07T06:28:15Z" := by cbv
  exact ⟨by decide, htext, htext ▸ hread, moment, hto, hof⟩

end Timestamp

end GroundLink
