import ScriptEval.Proofs.Text.Padded
import ScriptEval.Calendar.Moment
import Mathlib.Algebra.Order.Group.Nat
import Mathlib.Data.List.Lex

/-!
# The order of moments

A moment that exists (`Moment.Exists`) is read off a clock as its year, month, day, hour, minute and second
(`Moment.reading`). Later readings are more seconds after the start of 1970, and the other way round
(`Moment.unixSeconds_lt_iff`), since a year begins after the days of the one before (`daysBeforeYear_add_le`), and so
do a month (`daysBeforeMonth_add_le`) and a day.
-/

namespace ScriptEval.Calendar

/-- Where every step adds `g`, later values have the `g` of an earlier one in them. -/
theorem add_le_of_step {f g : Nat → Nat} {k : Nat} (hstep : ∀ n, k ≤ n → f (n + 1) = f n + g n) {m n : Nat}
    (hm : k ≤ m) (hlt : m < n) : f m + g m ≤ f n := by
  induction n, hlt using Nat.le_induction with
  | base => exact (hstep m hm).ge
  | succ n hle ih =>
    rw [hstep n (by omega)]
    omega

/-! ## Years -/

theorem succ_div_eq (n k : Nat) : (n + 1) / k = n / k + if (n + 1) % k = 0 then 1 else 0 := by
  rw [Nat.succ_div]
  simp only [Nat.dvd_iff_mod_eq_zero]

theorem daysBeforeYear_succ {y : Nat} (hy : 1 ≤ y) : daysBeforeYear (y + 1) = daysBeforeYear y + yearLength y := by
  obtain ⟨n, rfl⟩ := Nat.exists_eq_add_of_le' hy
  have hcenturies : n / 100 ≤ n := Nat.div_le_self n 100
  have h100 : (n + 1) % 400 = 0 → (n + 1) % 100 = 0 := by omega
  have h4 : (n + 1) % 100 = 0 → (n + 1) % 4 = 0 := by omega
  simp only [daysBeforeYear, yearLength, isLeapYear, Bool.and_eq_true, Bool.or_eq_true, beq_iff_eq, bne_iff_ne,
    Nat.add_sub_cancel, succ_div_eq]
  -- what is left is which of 4, 100 and 400 divide the year
  grind

theorem daysBeforeYear_add_le {y z : Nat} (hy : 1 ≤ y) (hlt : y < z) :
    daysBeforeYear y + yearLength y ≤ daysBeforeYear z :=
  add_le_of_step (fun _ => daysBeforeYear_succ) hy hlt

/-! ## Months -/

/-- The number of days of the year before a month. -/
def daysBeforeMonth (year month : Nat) : Nat :=
  (List.range (month - 1)).foldl (fun n m => n + monthLength year (m + 1)) 0

theorem daysBeforeMonth_succ {year m : Nat} (hm : 1 ≤ m) :
    daysBeforeMonth year (m + 1) = daysBeforeMonth year m + monthLength year m := by
  obtain ⟨k, rfl⟩ := Nat.exists_eq_add_of_le' hm
  rw [daysBeforeMonth, Nat.add_sub_cancel, List.range_succ, List.foldl_append]
  rfl

theorem daysBeforeMonth_add_le {year m n : Nat} (hm : 1 ≤ m) (hlt : m < n) :
    daysBeforeMonth year m + monthLength year m ≤ daysBeforeMonth year n :=
  add_le_of_step (fun _ => daysBeforeMonth_succ) hm hlt

/-- The months make up the year. -/
theorem daysBeforeMonth_thirteen (year : Nat) : daysBeforeMonth year 13 = yearLength year := by
  have hmonths : daysBeforeMonth year 13 = 337 + monthLength year 2 := by
    simp [daysBeforeMonth, List.range, List.range.loop, monthLength]
    omega
  rw [hmonths, monthLength, yearLength]
  cases isLeapYear year <;> rfl

/-! ## Dates -/

namespace Date

/-- The numbers of a date, the greatest unit first. -/
def parts (d : Date) : List Nat := [d.year, d.month, d.day]

theorem parts_inj {d e : Date} : d.parts = e.parts ↔ d = e := by
  cases d
  cases e
  simp [parts]

/-- A date that exists. -/
structure Exists (d : Date) : Prop where
  year_pos : 1 ≤ d.year
  year_le : d.year ≤ 9999
  month_pos : 1 ≤ d.month
  month_le : d.month ≤ 12
  day_pos : 1 ≤ d.day
  day_le : d.day ≤ monthLength d.year d.month

theorem exists_of_check {d e : Date} (h : d.check = .ok e) : d.Exists := by
  rw [check] at h
  split at h
  next => cases h
  next hyear =>
    split at h
    next => cases h
    next hmonth =>
      split at h
      next => cases h
      next hday => exact ⟨by omega, by omega, by omega, by omega, by omega, by omega⟩

variable {d e : Date}

theorem dayOfYear_eq (d : Date) : d.dayOfYear = daysBeforeMonth d.year d.month + (d.day - 1) := rfl

theorem Exists.dayOfYear_lt (h : d.Exists) : d.dayOfYear < yearLength d.year := by
  have hmonth : daysBeforeMonth d.year d.month + monthLength d.year d.month ≤ daysBeforeMonth d.year 13 :=
    daysBeforeMonth_add_le h.month_pos (Nat.lt_succ_of_le h.month_le)
  rw [daysBeforeMonth_thirteen] at hmonth
  have hday := h.day_pos
  have hlast := h.day_le
  rw [dayOfYear_eq]
  omega

/-- **Later dates** have greater numbers. -/
theorem dayNumber_lt (hd : d.Exists) (h : d.parts < e.parts) : d.dayNumber < e.dayNumber := by
  simp only [parts, List.cons_lt_cons_iff, List.not_lt_nil, and_false, or_false] at h
  rw [dayNumber, dayNumber]
  rcases h with hyear | ⟨hyear, hmonth | ⟨hmonth, hday⟩⟩
  · have hnext := daysBeforeYear_add_le hd.year_pos hyear
    have hlt := hd.dayOfYear_lt
    omega
  · have hnext : daysBeforeMonth d.year d.month + monthLength d.year d.month ≤ daysBeforeMonth d.year e.month :=
      daysBeforeMonth_add_le hd.month_pos hmonth
    have hday := hd.day_pos
    have hlast := hd.day_le
    rw [dayOfYear_eq, dayOfYear_eq, ← hyear]
    omega
  · have hfirst := hd.day_pos
    rw [dayOfYear_eq, dayOfYear_eq, ← hyear, ← hmonth]
    omega

end Date

/-! ## Moments -/

/-- The numbers of a time of day, the greatest unit first. -/
def TimeOfDay.parts (t : TimeOfDay) : List Nat := [t.hour, t.minute, t.second]

namespace Moment

/-- A moment that exists. -/
structure Exists (m : Moment) : Prop where
  date : m.date.Exists
  hour_lt : m.time.hour < 24
  minute_lt : m.time.minute < 60
  second_lt : m.time.second < 60

theorem exists_of_check {m n : Moment} (h : m.check = .ok n) : m.Exists := by
  have hrest : (do
      let _ ← m.date.check
      if 24 ≤ m.time.hour then throw .hour
      if 60 ≤ m.time.minute then throw .minute
      if 60 ≤ m.time.second then throw .second
      return m : Except Fault Moment) = .ok n := by
    rw [check] at h
    split at h
    next z _ =>
      by_cases hoffset : 86400 ≤ z.offset.natAbs
      · rw [if_pos hoffset] at h
        cases h
      · rw [if_neg hoffset] at h
        exact h
    next => exact h
  cases hdate : m.date.check with
  | error fault =>
    rw [hdate] at hrest
    cases hrest
  | ok d =>
    simp only [hdate, bind, Except.bind, throw, throwThe, MonadExceptOf.throw] at hrest
    split at hrest
    next => cases hrest
    next hhour =>
      split at hrest
      next => cases hrest
      next hminute =>
        split at hrest
        next => cases hrest
        next hsecond => exact ⟨Date.exists_of_check hdate, by omega, by omega, by omega⟩

/-- What is read off a clock, to the second. -/
def reading (m : Moment) : List Nat := m.date.parts ++ m.time.parts

variable {a b : Moment}

theorem reading_lt_iff :
    a.reading < b.reading ↔
      a.date.parts < b.date.parts ∨ a.date.parts = b.date.parts ∧ a.time.parts < b.time.parts :=
  Text.append_lt_append_iff rfl

theorem unixSeconds_lt (ha : a.Exists) (h : a.reading < b.reading) : a.unixSeconds < b.unixSeconds := by
  have hhour := ha.hour_lt
  have hminute := ha.minute_lt
  have hsecond := ha.second_lt
  rw [unixSeconds, unixSeconds]
  rcases reading_lt_iff.1 h with hdate | ⟨hdate, htime⟩
  · have hdays := Date.dayNumber_lt ha.date hdate
    omega
  · rw [Date.parts_inj.1 hdate]
    simp only [TimeOfDay.parts, List.cons_lt_cons_iff, List.not_lt_nil, and_false, or_false] at htime
    omega

theorem unixSeconds_eq (h : a.reading = b.reading) : a.unixSeconds = b.unixSeconds := by
  obtain ⟨hdate, htime⟩ := List.append_inj h rfl
  simp only [TimeOfDay.parts, List.cons.injEq, and_true] at htime
  rw [unixSeconds, unixSeconds, Date.parts_inj.1 hdate, htime.1, htime.2.1, htime.2.2]

/-- **Later readings** are more seconds after the start of 1970. -/
theorem unixSeconds_lt_iff (ha : a.Exists) (hb : b.Exists) :
    a.unixSeconds < b.unixSeconds ↔ a.reading < b.reading := by
  refine ⟨fun h => ?_, unixSeconds_lt ha⟩
  rcases lt_trichotomy a.reading b.reading with hlt | heq | hgt
  · exact hlt
  · exact absurd (unixSeconds_eq heq) h.ne
  · exact absurd (unixSeconds_lt hb hgt) h.asymm

theorem unixSeconds_inj (ha : a.Exists) (hb : b.Exists) : a.unixSeconds = b.unixSeconds ↔ a.reading = b.reading := by
  refine ⟨fun h => ?_, unixSeconds_eq⟩
  rcases lt_trichotomy a.reading b.reading with hlt | heq | hgt
  · exact absurd h (unixSeconds_lt ha hlt).ne
  · exact heq
  · exact absurd h (unixSeconds_lt hb hgt).ne'

/-- The seconds from the start of 1970 to the moment; one without a zone is taken as universal time. -/
def universalSeconds (m : Moment) : Int := m.unixSeconds - (m.zone.map Zone.offset).getD 0

variable (ha : a.Exists) (hb : b.Exists) (hzone : a.zone.map Zone.offset = b.zone.map Zone.offset)

include ha hb hzone

/-- Readings of clocks with one offset are in the order of the moments. -/
theorem universalSeconds_lt_iff : a.universalSeconds < b.universalSeconds ↔ a.reading < b.reading := by
  rw [universalSeconds, universalSeconds, hzone, ← unixSeconds_lt_iff ha hb]
  omega

theorem universalSeconds_inj : a.universalSeconds = b.universalSeconds ↔ a.reading = b.reading := by
  rw [universalSeconds, universalSeconds, hzone, ← unixSeconds_inj ha hb]
  omega

end Moment

end ScriptEval.Calendar
