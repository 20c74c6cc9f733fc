import MetricLayer.Keyword
import MetricLayer.Proofs.Calendar.WrittenDate
import MetricLayer.Proofs.Text.ByteOrder

/-!
# Periods of the calendar

The hour, day, week, month, quarter or year that contains an instant is given by which instants
share it (`Instant.SamePeriod`). A week runs from Monday to Sunday. `Granularity.start` is the first
instant of the period (`isFirst_start`), so two instants share a period just if their starts are the
same (`samePeriod_iff`).

The start of a period is written as a date, and that of an hour as a date and a time
(`Granularity.startText`). Different starts have different texts, and the texts are in the order of
the calendar (`startText_lt_iff`).
-/

namespace MetricLayer

namespace Date

/-- The day of the week, from Sunday: 1 January of the year 0 is a Saturday. -/
def weekday (t : Date) : Nat :=
  (t.dayNumber + 6) % 7

/-- The first day of the calendar. -/
def firstDay : Date where
  year := 0
  month := 1
  day := 1
  month_mem := by decide
  day_mem := by decide

/-- The date of a number of days from the first. -/
def ofDayNumber : Nat → Date
  | 0 => firstDay
  | n + 1 => (ofDayNumber n).next

/-- The date of a number has that number. -/
theorem dayNumber_ofDayNumber (n : Nat) : (ofDayNumber n).dayNumber = n := by
  induction n with
  | zero => decide
  | succ n ih => rw [ofDayNumber, dayNumber_next, ih]

/-- The dates of some numbers are the dates with these numbers. -/
theorem ofDayNumber_eq_iff {n : Nat} {t : Date} : ofDayNumber n = t ↔ t.dayNumber = n := by
  rw [← dayNumber_eq_iff, dayNumber_ofDayNumber, eq_comm]

/-- The Monday of the week of a date. -/
def monday (t : Date) : Date :=
  ofDayNumber (t.dayNumber - (t.dayNumber + 5) % 7)

/-- The first day of a month. -/
def firstOfMonth (year month : Nat) (h : 1 ≤ month ∧ month ≤ 12) : Date where
  year := year
  month := month
  day := 1
  month_mem := h
  day_mem := ⟨Nat.le_refl 1, one_le_monthLength year month⟩

/-- Two dates are in one week, from Monday to Sunday. -/
def SameWeek (s t : Date) : Prop :=
  ∃ m : Date, m.weekday = 1 ∧ (m.dayNumber ≤ s.dayNumber ∧ s.dayNumber < m.dayNumber + 7) ∧
    m.dayNumber ≤ t.dayNumber ∧ t.dayNumber < m.dayNumber + 7

/-- The quarter of a date, from zero. -/
def quarter (t : Date) : Nat :=
  (t.month - 1) / 3

end Date

/-- An instant, to the millisecond. -/
structure Instant where
  /-- The date. -/
  date : Date
  /-- The time of day. -/
  time : TimeOfDay
  /-- The millisecond of the second. -/
  millisecond : Nat
  deriving DecidableEq

namespace Instant

/-- The numbers of an instant, from the year to the millisecond. -/
def fields (i : Instant) : List Nat :=
  i.date.fields ++ (i.time.fields ++ [i.millisecond])

/-- The first instant of a day. -/
def dawn (t : Date) : Instant :=
  ⟨t, .midnight, 0⟩

/-- Two instants are in one period of a granularity. -/
def SamePeriod (g : Granularity) (i j : Instant) : Prop :=
  match g with
  | .hour => i.date = j.date ∧ i.time.hour = j.time.hour
  | .day => i.date = j.date
  | .week => i.date.SameWeek j.date
  | .month => i.date.year = j.date.year ∧ i.date.month = j.date.month
  | .quarter => i.date.year = j.date.year ∧ i.date.quarter = j.date.quarter
  | .year => i.date.year = j.date.year

/-- An instant is the first of the period of another. -/
def IsFirst (g : Granularity) (i first : Instant) : Prop :=
  SamePeriod g i first ∧ ∀ j, SamePeriod g i j → ¬j.fields < first.fields

end Instant

/-- The time of a full hour. -/
def TimeOfDay.fullHour (t : TimeOfDay) : TimeOfDay :=
  { midnight with
    hour := t.hour
    hour_le := t.hour_le }

/-- The first instant of the period that contains an instant. -/
def Granularity.start (g : Granularity) (i : Instant) : Instant :=
  match g with
  | .hour => ⟨i.date, i.time.fullHour, 0⟩
  | .day => .dawn i.date
  | .week => .dawn i.date.monday
  | .month => .dawn (.firstOfMonth i.date.year i.date.month i.date.month_mem)
  | .quarter =>
    .dawn (.firstOfMonth i.date.year (i.date.quarter * 3 + 1) (by
      have := i.date.month_mem
      unfold Date.quarter
      omega))
  | .year => .dawn (.firstOfMonth i.date.year 1 (by decide))

/-! ## Weeks -/

namespace Date

variable {s t u : Date}

/-- A date is a Monday by its number. -/
theorem weekday_eq_one_iff : t.weekday = 1 ↔ t.dayNumber % 7 = 2 := by
  unfold weekday
  omega

/-- The year 1 begins after the 366 days of the year 0, with a Monday. -/
theorem year_pos_iff : 1 ≤ t.year ↔ 366 ≤ t.dayNumber := by
  have hstart : daysBeforeYear 0 = 0 := rfl
  have hleap : isLeapYear 0 = true := rfl
  have hnumber : daysBeforeYear t.year ≤ t.dayNumber := by
    unfold dayNumber
    omega
  constructor
  · intro h
    have hyear := daysBeforeYear_add_le h
    simp only [hstart, hleap, if_true] at hyear
    omega
  · intro h
    rcases Nat.eq_zero_or_pos t.year with hzero | hpos
    · have hdays := t.daysBeforeMonth_add_day_lt
      unfold dayNumber at h
      rw [hzero, hstart] at h
      simp only [hzero, hleap, if_true] at hdays
      omega
    · exact hpos

/-- Less than a year after a date, it is the same year or the next one. -/
theorem year_le_succ (h : t.dayNumber < s.dayNumber + 365) : t.year ≤ s.year + 1 := by
  refine Nat.not_lt.1 fun hlt => ?_
  have hdays := s.daysBeforeMonth_add_day_lt
  have hnext := daysBeforeYear_succ s.year
  have hafter := daysBeforeYear_add_le hlt
  unfold dayNumber at h
  omega

/-- The number of the Monday of a week. -/
theorem dayNumber_monday (t : Date) :
    t.monday.dayNumber = t.dayNumber - (t.dayNumber + 5) % 7 :=
  dayNumber_ofDayNumber _

/-- From the year 1 on, a date is in the week of its Monday. -/
theorem sameWeek_monday (h : 1 ≤ t.year) : t.SameWeek t.monday := by
  have hnumber := year_pos_iff.1 h
  have hmonday := t.dayNumber_monday
  refine ⟨t.monday, weekday_eq_one_iff.2 ?_, ⟨?_, ?_⟩, ?_, ?_⟩ <;> omega

/-- No date of a week is before its Monday. -/
theorem SameWeek.monday_le (h : s.SameWeek t) : s.monday.dayNumber ≤ t.dayNumber := by
  obtain ⟨m, hm, hs, ht⟩ := h
  have hmonday := s.dayNumber_monday
  rw [weekday_eq_one_iff] at hm
  omega

/-- Dates of one week are so in either order. -/
theorem SameWeek.symm (h : s.SameWeek t) : t.SameWeek s := by
  obtain ⟨m, hm, hs, ht⟩ := h
  exact ⟨m, hm, ht, hs⟩

/-- Dates of the week of a third are in one week. -/
theorem SameWeek.trans (h : s.SameWeek t) (h' : t.SameWeek u) : s.SameWeek u := by
  obtain ⟨m, hm, hs, ht⟩ := h
  obtain ⟨n, hn, ht', hu⟩ := h'
  -- Both weeks have the middle date, so that their Mondays are the same.
  have heq : m = n := by
    rw [weekday_eq_one_iff] at hm hn
    rw [← dayNumber_eq_iff]
    omega
  exact ⟨m, hm, hs, heq ▸ hu⟩

end Date

/-! ## Periods -/

namespace Instant

variable {g : Granularity} {i j k : Instant} {t : Date}

/-- Instants of one period are so in either order. -/
theorem SamePeriod.symm (h : SamePeriod g i j) : SamePeriod g j i := by
  cases g with
  | hour => exact ⟨h.1.symm, h.2.symm⟩
  | day => exact Eq.symm h
  | week => exact Date.SameWeek.symm h
  | month => exact ⟨h.1.symm, h.2.symm⟩
  | quarter => exact ⟨h.1.symm, h.2.symm⟩
  | year => exact Eq.symm h

/-- Instants of the period of a third are in one period. -/
theorem SamePeriod.trans (h : SamePeriod g i j) (h' : SamePeriod g j k) : SamePeriod g i k := by
  cases g with
  | hour => exact ⟨h.1.trans h'.1, h.2.trans h'.2⟩
  | day => exact Eq.trans h h'
  | week => exact Date.SameWeek.trans h h'
  | month => exact ⟨h.1.trans h'.1, h.2.trans h'.2⟩
  | quarter => exact ⟨h.1.trans h'.1, h.2.trans h'.2⟩
  | year => exact Eq.trans h h'

/-- An instant is earlier by its date, or else by the time of the day. -/
theorem fields_lt_iff : i.fields < j.fields ↔
    i.date.fields < j.date.fields ∨ i.date = j.date ∧
      (i.time.fields < j.time.fields ∨
        i.time.fields = j.time.fields ∧ i.millisecond < j.millisecond) := by
  unfold fields
  rw [Date.fields_append_lt_iff]
  refine or_congr_right (and_congr_right fun _ => ?_)
  simp only [TimeOfDay.fields, List.cons_append, List.nil_append, List.cons_lt_cons_iff,
    List.not_lt_nil, and_false, or_false, List.cons.injEq, and_true]
  tauto

/-- No instant of a day is before its first. -/
theorem not_fields_lt_dawn (h : ¬j.date.fields < t.fields) : ¬j.fields < (dawn t).fields := by
  rw [fields_lt_iff]
  rintro (hdate | ⟨-, htime | ⟨-, hmillisecond⟩⟩)
  · exact h hdate
  · exact j.time.not_fields_lt_midnight htime
  · exact Nat.not_lt_zero _ hmillisecond

/-- Instants with the same numbers are the same. -/
theorem eq_of_not_lt (h : ¬i.fields < j.fields) (h' : ¬j.fields < i.fields) : i = j := by
  have hfields : i.fields = j.fields := List.le_antisymm h' h
  obtain ⟨⟨y, m, d, _, _⟩, ⟨hour, minute, second, _, _, _⟩, millisecond⟩ := i
  obtain ⟨⟨y', m', d', _, _⟩, ⟨hour', minute', second', _, _, _⟩, millisecond'⟩ := j
  simp only [fields, Date.fields, TimeOfDay.fields, List.cons_append, List.nil_append,
    List.cons.injEq, and_true] at hfields
  obtain ⟨rfl, rfl, rfl, rfl, rfl, rfl, rfl⟩ := hfields
  rfl

/-- A period has one first instant. -/
theorem IsFirst.unique (h : IsFirst g i j) (h' : IsFirst g i k) : j = k :=
  eq_of_not_lt (h'.2 j h.1) (h.2 k h'.1)

/-- The first day of a period begins with its first instant. -/
theorem isFirst_dawn (h : SamePeriod g i (dawn t))
    (hle : ∀ j, SamePeriod g i j → ¬j.date.fields < t.fields) : IsFirst g i (dawn t) :=
  ⟨h, fun j hj => not_fields_lt_dawn (hle j hj)⟩

/-- From the year 1 on, the start of a period is its first instant. -/
theorem isFirst_start (g : Granularity) (h : 1 ≤ i.date.year) : IsFirst g i (g.start i) := by
  have hmonth := i.date.month_mem
  cases g with
  | hour =>
    refine ⟨⟨rfl, rfl⟩, fun j hj hlt => ?_⟩
    obtain ⟨hdate, hhour⟩ : i.date = j.date ∧ i.time.hour = j.time.hour := hj
    rcases fields_lt_iff.1 hlt with hbefore | ⟨-, hbefore | ⟨-, hbefore⟩⟩
    · exact List.lt_irrefl _ (hdate ▸ hbefore : j.date.fields < j.date.fields)
    · rw [TimeOfDay.fields_lt_iff] at hbefore
      simp only [Granularity.start, TimeOfDay.fullHour, TimeOfDay.midnight, hhour] at hbefore
      omega
    · exact Nat.not_lt_zero _ hbefore
  | day =>
    refine isFirst_dawn rfl fun j hj => ?_
    rw [show i.date = j.date from hj]
    exact List.lt_irrefl _
  | week =>
    refine isFirst_dawn (Date.sameWeek_monday h) fun j hj => ?_
    rw [← Date.dayNumber_lt_iff]
    exact Nat.not_lt.2 (Date.SameWeek.monday_le hj)
  | month =>
    refine isFirst_dawn ⟨rfl, rfl⟩ fun j hj => ?_
    obtain ⟨hyear, hmonth⟩ : i.date.year = j.date.year ∧ i.date.month = j.date.month := hj
    have hday := j.date.day_mem
    rw [Date.fields_lt_iff]
    simp only [Date.firstOfMonth, hyear, hmonth]
    omega
  | quarter =>
    have hquarter : i.date.quarter = (i.date.month - 1) / 3 := rfl
    refine isFirst_dawn ⟨rfl, ?_⟩ fun j hj => ?_
    · simp only [dawn, Date.quarter, Date.firstOfMonth]
      omega
    · obtain ⟨hyear, hsame⟩ : i.date.year = j.date.year ∧ i.date.quarter = j.date.quarter := hj
      have hquarter' : j.date.quarter = (j.date.month - 1) / 3 := rfl
      have hday := j.date.day_mem
      have hmonth' := j.date.month_mem
      rw [Date.fields_lt_iff]
      simp only [Date.firstOfMonth, hyear]
      omega
  | year =>
    refine isFirst_dawn rfl fun j hj => ?_
    have hyear : i.date.year = j.date.year := hj
    have hday := j.date.day_mem
    have hmonth' := j.date.month_mem
    rw [Date.fields_lt_iff]
    simp only [Date.firstOfMonth, hyear]
    omega

/-- Two instants are in one period just if it has the same start. -/
theorem samePeriod_iff (hi : 1 ≤ i.date.year) (hj : 1 ≤ j.date.year) :
    SamePeriod g i j ↔ g.start i = g.start j := by
  have hfirst := isFirst_start g hi
  have hfirst' := isFirst_start g hj
  constructor
  · intro h
    refine hfirst.unique ⟨h.trans hfirst'.1, fun k hk => ?_⟩
    exact hfirst'.2 k (h.symm.trans hk)
  · intro h
    exact hfirst.1.trans (h ▸ hfirst'.1.symm)

/-- The start of a period is no later than the instant, and in the year 1 or later if that is. -/
theorem year_start (g : Granularity) (h : 1 ≤ i.date.year) :
    1 ≤ (g.start i).date.year ∧ (g.start i).date.year ≤ i.date.year := by
  have hmonday := i.date.dayNumber_monday
  have hnumber := Date.year_pos_iff.1 h
  cases g with
  | week =>
    refine ⟨Date.year_pos_iff.2 ?_, ?_⟩
    · show 366 ≤ i.date.monday.dayNumber
      omega
    · refine Nat.not_lt.1 fun hlt => ?_
      have hlater : i.date.dayNumber < i.date.monday.dayNumber := Date.dayNumber_lt_of_year hlt
      omega
  | _ => exact ⟨h, Nat.le_refl _⟩

/-- The start of a period is its own start. -/
theorem start_start (g : Granularity) (h : 1 ≤ i.date.year) : g.start (g.start i) = g.start i :=
  ((samePeriod_iff h (year_start g h).1).1 (isFirst_start g h).1).symm

end Instant

/-! ## Texts -/

/-- The characters of a time: hour, minute and second with colons. -/
def TimeOfDay.chars (t : TimeOfDay) : List Char :=
  Date.padded 2 t.hour ++ ':' :: (Date.padded 2 t.minute ++ ':' :: Date.padded 2 t.second)

/-- The text of an instant, as timestamps are stored. -/
def Instant.text (i : Instant) : String :=
  String.ofList (i.date.chars ++ ' ' :: i.time.chars)

/-- The text of the start of a period: a date, for an hour with the time. -/
def Granularity.startText (g : Granularity) (i : Instant) : String :=
  match g with
  | .hour => (g.start i).text
  | _ => (g.start i).date.text

namespace Instant

open DateBound (IsIsoDate IsTimestamp)

variable {g : Granularity} {i j : Instant}

/-- Up to the year 9999, the text of an instant is a stored timestamp. -/
theorem isTimestamp_text (h : i.date.year ≤ 9999) : IsTimestamp i.text i.date i.time := by
  have hhour := isNumeral_two (Nat.le_trans i.time.hour_le (by decide))
  have hminute := isNumeral_two (Nat.le_trans i.time.minute_le (by decide))
  have hsecond := isNumeral_two (Nat.le_trans i.time.second_le (by decide))
  exact ⟨i.date.chars, i.time.chars, String.toList_ofList,
    (DateBound.isWrittenDate_chars i.date).isIsoDate h, _, _, _, rfl, hhour, hminute, hsecond⟩

/-- Stored timestamps are in the order of their instants, apart from milliseconds. -/
theorem text_lt_iff (hi : i.date.year ≤ 9999) (hj : j.date.year ≤ 9999) :
    i.text.toList < j.text.toList ↔
      i.date.fields ++ i.time.fields < j.date.fields ++ j.time.fields := by
  have hj := isTimestamp_text hj
  exact (isTimestamp_text hi).lt_iff hj.isIsoText hj.letter_notMem

/-- Up to the year 9999, texts of dates are in the order of the calendar. -/
theorem dateText_lt_iff {s t : Date} (hs : s.year ≤ 9999) (ht : t.year ≤ 9999) :
    s.text.toList < t.text.toList ↔ s.fields < t.fields := by
  have hs := (DateBound.isWrittenDate_chars s).isIsoDate hs
  have ht := (DateBound.isWrittenDate_chars t).isIsoDate ht
  have horder : s.chars ++ [] < t.chars ++ [] ↔ _ := hs.append_lt_iff ht
  rw [List.append_nil, List.append_nil] at horder
  unfold Date.text
  rw [String.toList_ofList, String.toList_ofList, horder]
  exact or_iff_left fun h => List.lt_irrefl _ h.2

/-- The texts of the starts of periods are in the order of the starts. -/
theorem startText_lt_iff (g : Granularity) (hi : (g.start i).date.year ≤ 9999)
    (hj : (g.start j).date.year ≤ 9999) :
    Text.bytes (g.startText i) < Text.bytes (g.startText j) ↔
      (g.start i).fields < (g.start j).fields := by
  -- The starts of longer periods than hours are both at midnight.
  have hdawn : ∀ {s t : Date}, s.year ≤ 9999 → t.year ≤ 9999 →
      (s.text.toList < t.text.toList ↔ (dawn s).fields < (dawn t).fields) := by
    intro s t hs ht
    rw [dateText_lt_iff hs ht, fields_lt_iff]
    refine (or_iff_left ?_).symm
    rintro ⟨-, htime | ⟨-, hmillisecond⟩⟩
    · exact TimeOfDay.not_fields_lt_midnight _ htime
    · exact Nat.lt_irrefl 0 hmillisecond
  rw [Text.bytes_lt_iff]
  cases g with
  | hour =>
    show (Granularity.start .hour i).text.toList < (Granularity.start .hour j).text.toList ↔ _
    rw [text_lt_iff hi hj, Date.fields_append_lt_iff, fields_lt_iff]
    refine or_congr_right (and_congr_right fun _ => (or_iff_left ?_).symm)
    exact fun h => Nat.lt_irrefl 0 h.2
  | _ => exact hdawn hi hj

/-- The starts of periods have the same text just if they are the same. -/
theorem startText_eq_iff (g : Granularity) (hi : (g.start i).date.year ≤ 9999)
    (hj : (g.start j).date.year ≤ 9999) :
    g.startText i = g.startText j ↔ g.start i = g.start j := by
  constructor
  · intro h
    have hlt := startText_lt_iff g hi hj
    have hgt := startText_lt_iff g hj hi
    rw [h] at hlt hgt
    exact eq_of_not_lt (mt hlt.2 (List.lt_irrefl _)) (mt hgt.2 (List.lt_irrefl _))
  · intro h
    cases g <;> simp only [Granularity.startText, h]

/-- The start of a period has the text of the start of its own period. -/
theorem startText_start (g : Granularity) (h : 1 ≤ i.date.year) :
    g.startText (g.start i) = g.startText i := by
  cases g <;> simp only [Granularity.startText, start_start _ h]

end Instant

end MetricLayer
