import Mathlib.Data.Nat.Init
import Mathlib.Tactic.Tauto
import MetricLayer.Calendar.DateBound

/-!
# The order of dates and times

The check of a date range compares numbers of days and positions in a day. Both are in the order of
the calendar: dates by year, month and day (`Date.dayNumber_lt_iff`), times by hour, minute and
second (`TimeOfDay.position_lt_iff`). A bound of a range stands for an interval of instants, a whole
day or a single second, and a range is empty just if the lower bound begins after the upper one ends
(`DateBound.isAfter_iff`).
-/

namespace MetricLayer

namespace Date

/-! ## The days of a year -/

/-- The following year begins after the days of the year. -/
theorem daysBeforeYear_succ (y : Nat) :
    daysBeforeYear (y + 1) = daysBeforeYear y + (365 + if isLeapYear y then 1 else 0) := by
  rw [daysBeforeYear_eq, daysBeforeYear_eq, leapYearsBefore_succ]
  omega

/-- A later year begins after the days of an earlier one. -/
theorem daysBeforeYear_add_le {y z : Nat} (h : y < z) :
    daysBeforeYear y + (365 + if isLeapYear y then 1 else 0) ≤ daysBeforeYear z := by
  induction z, h using Nat.le_induction with
  | base => exact Nat.le_of_eq (daysBeforeYear_succ y).symm
  | succ z _ ih =>
    rw [daysBeforeYear_succ]
    omega

/-- A later month begins after the days of an earlier one. -/
theorem daysBeforeMonth_add_le {y m n : Nat} (hm : 1 ≤ m) (h : m < n) :
    daysBeforeMonth y m + monthLength y m ≤ daysBeforeMonth y n := by
  obtain ⟨k, rfl⟩ : ∃ k, m = k + 1 := ⟨m - 1, by omega⟩
  induction n, h using Nat.le_induction with
  | base => exact Nat.le_refl _
  | succ n hn ih =>
    obtain ⟨j, rfl⟩ : ∃ j, n = j + 1 := ⟨n - 1, by omega⟩
    rw [daysBeforeMonth]
    omega

/-- A date lies in its month. -/
theorem day_lt (t : Date) : t.day - 1 < monthLength t.year t.month := by
  have := t.day_mem
  omega

/-- The days of a year before a date are fewer than those of the year. -/
theorem daysBeforeMonth_add_day_lt (t : Date) :
    daysBeforeMonth t.year t.month + (t.day - 1) < 365 + if isLeapYear t.year then 1 else 0 := by
  have hday := t.day_lt
  have hyear := daysBeforeMonth_twelve t.year
  obtain ⟨hm1, hm12⟩ := t.month_mem
  rcases Nat.lt_or_ge t.month 12 with hm | hm
  · have hmonth := daysBeforeMonth_add_le (y := t.year) hm1 hm
    omega
  · have hmonth : t.month = 12 := by omega
    rw [hmonth] at hday ⊢
    omega

/-! ## Earlier dates -/

/-- The year, the month and the day. -/
def fields (t : Date) : List Nat :=
  [t.year, t.month, t.day]

/-- A date is earlier by its year, or else by its month, or else by its day. -/
theorem fields_lt_iff {a b : Date} :
    a.fields < b.fields ↔
      a.year < b.year ∨ a.year = b.year ∧ (a.month < b.month ∨ a.month = b.month ∧ a.day < b.day) := by
  simp only [fields, List.cons_lt_cons_iff, List.not_lt_nil, and_false, or_false]

/-- Dates are the same if their years, months and days are. -/
theorem eq_iff {a b : Date} : a = b ↔ a.year = b.year ∧ a.month = b.month ∧ a.day = b.day := by
  constructor
  · rintro rfl
    exact ⟨rfl, rfl, rfl⟩
  · obtain ⟨y, m, d, -, -⟩ := a
    rintro ⟨rfl, rfl, rfl⟩
    rfl

/-- A date of an earlier year has a lower number. -/
theorem dayNumber_lt_of_year {a b : Date} (h : a.year < b.year) : a.dayNumber < b.dayNumber := by
  have hdays := a.daysBeforeMonth_add_day_lt
  have hyear := daysBeforeYear_add_le h
  unfold dayNumber
  omega

/-- A date of an earlier month of the year has a lower number. -/
theorem dayNumber_lt_of_month {a b : Date} (hy : a.year = b.year) (h : a.month < b.month) :
    a.dayNumber < b.dayNumber := by
  have hday := a.day_lt
  have hmonth := daysBeforeMonth_add_le (y := a.year) a.month_mem.1 h
  unfold dayNumber
  rw [← hy]
  omega

/-- An earlier day of the month has a lower number. -/
theorem dayNumber_lt_of_day {a b : Date} (hy : a.year = b.year) (hm : a.month = b.month)
    (h : a.day < b.day) : a.dayNumber < b.dayNumber := by
  have hday := a.day_mem
  unfold dayNumber
  rw [hy, hm]
  omega

/-- An earlier date has a lower number. -/
theorem dayNumber_lt_of_fields_lt {a b : Date} (h : a.fields < b.fields) :
    a.dayNumber < b.dayNumber := by
  rcases fields_lt_iff.1 h with hy | ⟨hy, hm | ⟨hm, hd⟩⟩
  · exact dayNumber_lt_of_year hy
  · exact dayNumber_lt_of_month hy hm
  · exact dayNumber_lt_of_day hy hm hd

/-- Of two dates one is earlier, unless they are the same. -/
theorem fields_lt_or_eq_or_gt (a b : Date) : a.fields < b.fields ∨ a = b ∨ b.fields < a.fields := by
  rw [fields_lt_iff, fields_lt_iff, eq_iff]
  omega

/-- A date has a lower number just if it is earlier. -/
theorem dayNumber_lt_iff {a b : Date} : a.dayNumber < b.dayNumber ↔ a.fields < b.fields := by
  refine ⟨fun h => ?_, dayNumber_lt_of_fields_lt⟩
  rcases fields_lt_or_eq_or_gt a b with hlt | rfl | hgt
  · exact hlt
  · exact absurd h (Nat.lt_irrefl _)
  · exact absurd h (Nat.lt_asymm (dayNumber_lt_of_fields_lt hgt))

/-- Different dates have different numbers. -/
theorem dayNumber_eq_iff {a b : Date} : a.dayNumber = b.dayNumber ↔ a = b := by
  refine ⟨fun h => ?_, fun h => h ▸ rfl⟩
  rcases fields_lt_or_eq_or_gt a b with hlt | heq | hgt
  · exact absurd h (Nat.ne_of_lt (dayNumber_lt_of_fields_lt hlt))
  · exact heq
  · exact absurd h (Nat.ne_of_gt (dayNumber_lt_of_fields_lt hgt))

/-- Of two instants, the one of the earlier date is earlier, or else the one of the earlier time. -/
theorem fields_append_lt_iff {a b : Date} {us vs : List Nat} :
    a.fields ++ us < b.fields ++ vs ↔ a.fields < b.fields ∨ a = b ∧ us < vs := by
  rw [fields_lt_iff, eq_iff]
  simp only [fields, List.cons_append, List.nil_append, List.cons_lt_cons_iff]
  tauto

end Date

/-! ## Times of day -/

namespace TimeOfDay

/-- The hour, the minute and the second. -/
def fields (t : TimeOfDay) : List Nat :=
  [t.hour, t.minute, t.second]

/-- The first second of a day. -/
def midnight : TimeOfDay where
  hour := 0
  minute := 0
  second := 0
  hour_le := by decide
  minute_le := by decide
  second_le := by decide

/-- The last second of a day, which is a leap second. -/
def lastSecond : TimeOfDay where
  hour := 23
  minute := 59
  second := 60
  hour_le := by decide
  minute_le := by decide
  second_le := by decide

/-- A time is earlier by its hour, or else by its minute, or else by its second. -/
theorem fields_lt_iff {t u : TimeOfDay} :
    t.fields < u.fields ↔
      t.hour < u.hour ∨
        t.hour = u.hour ∧ (t.minute < u.minute ∨ t.minute = u.minute ∧ t.second < u.second) := by
  simp only [fields, List.cons_lt_cons_iff, List.not_lt_nil, and_false, or_false]

/-- A time has a lower position in the day just if it is earlier. -/
theorem position_lt_iff {t u : TimeOfDay} : t.position < u.position ↔ t.fields < u.fields := by
  have ht := t.minute_le
  have hu := u.minute_le
  have hts := t.second_le
  have hus := u.second_le
  rw [fields_lt_iff]
  unfold position
  omega

/-- No time is earlier than midnight. -/
theorem not_fields_lt_midnight (t : TimeOfDay) : ¬t.fields < midnight.fields := by
  rw [fields_lt_iff]
  dsimp only [midnight]
  omega

/-- No time is later than the last second. -/
theorem not_lastSecond_fields_lt (t : TimeOfDay) : ¬lastSecond.fields < t.fields := by
  have hhour := t.hour_le
  have hminute := t.minute_le
  have hsecond := t.second_le
  rw [fields_lt_iff]
  dsimp only [lastSecond]
  omega

end TimeOfDay

/-! ## Bounds -/

namespace DateBound

/-- The time at which a bound begins: a day at midnight. -/
def firstTime : DateBound → TimeOfDay
  | day _ => .midnight
  | moment _ t => t

/-- The time at which a bound ends: a day at its last second. -/
def lastTime : DateBound → TimeOfDay
  | day _ => .lastSecond
  | moment _ t => t

/-- The first instant of a bound: year, month, day, hour, minute and second. -/
def first (b : DateBound) : List Nat :=
  b.date.fields ++ b.firstTime.fields

/-- The last instant of a bound: year, month, day, hour, minute and second. -/
def last (b : DateBound) : List Nat :=
  b.date.fields ++ b.lastTime.fields

/-- A range from a day is empty just if the other bound is on an earlier day. -/
theorem isAfter_day (d : Date) (b : DateBound) :
    (day d).isAfter b = true ↔ b.date.dayNumber < d.dayNumber := by
  cases b with
  | day e => exact decide_eq_true_iff
  | moment e u => exact decide_eq_true_iff

/-- A range to a day is empty just if the other bound is on a later day. -/
theorem isAfter_moment_day (d : Date) (t : TimeOfDay) (e : Date) :
    (moment d t).isAfter (day e) = true ↔ e.dayNumber < d.dayNumber :=
  decide_eq_true_iff

/-- A range between moments is empty just if the second one is on an earlier day, or earlier on the
same day. -/
theorem isAfter_moment (d : Date) (t : TimeOfDay) (e : Date) (u : TimeOfDay) :
    (moment d t).isAfter (moment e u) = true ↔
      e.dayNumber < d.dayNumber ∨ d.dayNumber = e.dayNumber ∧ u.position < t.position := by
  simp [isAfter]

/-- A range is empty just if its lower bound begins after its upper bound ends. -/
theorem isAfter_iff {a b : DateBound} : a.isAfter b = true ↔ b.last < a.first := by
  unfold last first
  rw [Date.fields_append_lt_iff, ← Date.dayNumber_lt_iff]
  cases a with
  | day d =>
    -- The upper bound cannot end before the midnight of its own day.
    rw [isAfter_day]
    exact (or_iff_left fun h => b.lastTime.not_fields_lt_midnight h.2).symm
  | moment d t =>
    cases b with
    | day e =>
      -- The lower bound cannot begin after the last second of its own day.
      rw [isAfter_moment_day]
      exact (or_iff_left fun h => t.not_lastSecond_fields_lt h.2).symm
    | moment e u =>
      rw [isAfter_moment, TimeOfDay.position_lt_iff, eq_comm, Date.dayNumber_eq_iff]
      exact Iff.rfl

end DateBound

end MetricLayer
