/-!
# Calendar dates

Dates of the proleptic Gregorian calendar from the year 0 on, their numbering by days, and their
ISO text. `dayNumber_next` says that `Date.next` is the following day.
-/

namespace MetricLayer

/-- The year has a 29 February: every fourth year, of the full centuries every fourth. -/
def isLeapYear (y : Nat) : Bool :=
  y % 4 == 0 && (y % 100 != 0 || y % 400 == 0)

/-- The number of days of a month. -/
def monthLength (y m : Nat) : Nat :=
  if m = 2 then if isLeapYear y then 29 else 28
  else if m = 4 ∨ m = 6 ∨ m = 9 ∨ m = 11 then 30
  else 31

/-- A date of the calendar. -/
structure Date where
  /-- The year. -/
  year : Nat
  /-- The month, counted from one. -/
  month : Nat
  /-- The day of the month, counted from one. -/
  day : Nat
  /-- There are twelve months. -/
  month_mem : 1 ≤ month ∧ month ≤ 12
  /-- The month has that day. -/
  day_mem : 1 ≤ day ∧ day ≤ monthLength year month
  deriving DecidableEq, Repr

/-- A month has at least one day. -/
theorem one_le_monthLength (y m : Nat) : 1 ≤ monthLength y m := by
  unfold monthLength
  split
  · split <;> omega
  · split <;> omega

namespace Date

/-- The date of a year, a month and a day, if there is one. -/
def ofParts? (y m d : Nat) : Option Date :=
  if hm : 1 ≤ m ∧ m ≤ 12 then
    if hd : 1 ≤ d ∧ d ≤ monthLength y m then some ⟨y, m, d, hm, hd⟩ else none
  else none

/-- The following day. -/
def next (t : Date) : Date :=
  if hd : t.day < monthLength t.year t.month then
    ⟨t.year, t.month, t.day + 1, t.month_mem, by omega⟩
  else if hm : t.month < 12 then
    ⟨t.year, t.month + 1, 1, by omega, by simpa using one_le_monthLength t.year (t.month + 1)⟩
  else ⟨t.year + 1, 1, 1, by omega, by simpa using one_le_monthLength (t.year + 1) 1⟩

/-- The last year that dates are kept for. -/
def lastYear : Nat := 262142

/-- The following day, if dates are kept for it. -/
def next? (t : Date) : Option Date :=
  if t.next.year ≤ lastYear then some t.next else none

/-- The number of days before a year. -/
def daysBeforeYear (y : Nat) : Nat :=
  365 * y + (y + 3) / 4 - (y + 99) / 100 + (y + 399) / 400

/-- The number of days of a year before a month. -/
def daysBeforeMonth (y : Nat) : Nat → Nat
  | 0 => 0
  | 1 => 0
  | m + 2 => daysBeforeMonth y (m + 1) + monthLength y (m + 1)

/-- The number of days from 1 January of the year 0. -/
def dayNumber (t : Date) : Nat :=
  daysBeforeYear t.year + daysBeforeMonth t.year t.month + (t.day - 1)

/-- Digits with zeros before them up to a width. -/
def padded (width n : Nat) : List Char :=
  let ds := Nat.toDigits 10 n
  List.replicate (width - ds.length) '0' ++ ds

/-- The characters of a year: four digits, or a plus sign and more digits. -/
def yearChars (y : Nat) : List Char :=
  if y ≤ 9999 then padded 4 y else '+' :: Nat.toDigits 10 y

/-- The characters of a date: year, month and day with hyphens. -/
def chars (t : Date) : List Char :=
  yearChars t.year ++ ('-' :: (padded 2 t.month ++ ('-' :: padded 2 t.day)))

/-- The text of a date: year, month and day with hyphens. -/
def text (t : Date) : String :=
  String.ofList t.chars

/-- The number of leap years before a year. -/
def leapYearsBefore (y : Nat) : Nat :=
  (y + 3) / 4 + (y + 399) / 400 - (y + 99) / 100

/-- The days before a year, year by year. -/
theorem daysBeforeYear_eq (y : Nat) : daysBeforeYear y = 365 * y + leapYearsBefore y := by
  unfold daysBeforeYear leapYearsBefore
  omega

/-- A leap year is counted before the following year. -/
theorem leapYearsBefore_succ (y : Nat) :
    leapYearsBefore (y + 1) = leapYearsBefore y + (if isLeapYear y then 1 else 0) := by
  have h4 : (y + 1 + 3) / 4 = (y + 3) / 4 + if y % 4 = 0 then 1 else 0 := by split <;> omega
  have h100 : (y + 1 + 99) / 100 = (y + 99) / 100 + if y % 100 = 0 then 1 else 0 := by
    split <;> omega
  have h400 : (y + 1 + 399) / 400 = (y + 399) / 400 + if y % 400 = 0 then 1 else 0 := by
    split <;> omega
  have hle : (y + 99) / 100 ≤ (y + 3) / 4 := by omega
  unfold leapYearsBefore
  rw [h4, h100, h400]
  by_cases a : y % 4 = 0 <;> by_cases b : y % 100 = 0 <;> by_cases c : y % 400 = 0 <;>
    simp [isLeapYear, a, b, c] <;> omega

/-- The days of a whole year. -/
theorem daysBeforeMonth_twelve (y : Nat) :
    daysBeforeMonth y 12 + monthLength y 12 = 365 + if isLeapYear y then 1 else 0 := by
  cases h : isLeapYear y <;> simp [daysBeforeMonth, monthLength, h]

/-- The following day has the following number. -/
theorem dayNumber_next (t : Date) : t.next.dayNumber = t.dayNumber + 1 := by
  obtain ⟨y, m, d, hm, hd⟩ := t
  simp only [next]
  split
  · simp only [dayNumber]
    omega
  · have hdm : d = monthLength y m := by omega
    subst hdm
    split
    · obtain ⟨k, rfl⟩ : ∃ k, m = k + 1 := ⟨m - 1, by omega⟩
      simp only [dayNumber, daysBeforeMonth]
      omega
    · have hm12 : m = 12 := by omega
      subst hm12
      have hyear := daysBeforeMonth_twelve y
      simp only [dayNumber, daysBeforeYear_eq, leapYearsBefore_succ]
      rw [show daysBeforeMonth (y + 1) 1 = 0 from rfl]
      omega

end Date

end MetricLayer
