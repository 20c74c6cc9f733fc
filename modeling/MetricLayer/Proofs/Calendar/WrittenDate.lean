import MetricLayer.Proofs.Calendar.TextOrder

/-!
# Written dates and the day that follows

A date is written with four digits for its year, or with a plus sign and the digits of a later year
(`DateBound.isWrittenDate_chars`). Up to the year 9999 this is the text that is read as a bound; the
day after its last day is written with a plus sign, and this text comes before every timestamp
(`DateBound.IsTimestamp.not_lt_of_late`). No date lies between a date and the day that follows it
(`Date.lt_next_iff`).
-/

namespace MetricLayer

/-! ## The following day -/

namespace Date

/-- The dates before the following day are those that are not later. -/
theorem lt_next_iff {s t : Date} : s.fields < t.next.fields ↔ ¬t.fields < s.fields := by
  rw [← dayNumber_lt_iff, ← dayNumber_lt_iff, dayNumber_next]
  omega

/-- The following day has a later year just on the last day of a year. -/
theorem year_next_eq (t : Date) :
    t.next.year = if t.month = 12 ∧ t.day = 31 then t.year + 1 else t.year := by
  obtain ⟨y, m, d, hm, hd⟩ := t
  have hdecember : monthLength y 12 = 31 := rfl
  unfold next
  dsimp only
  split
  case isTrue hday =>
    have hnot : ¬(m = 12 ∧ d = 31) := by
      rintro ⟨rfl, rfl⟩
      omega
    rw [if_neg hnot]
  case isFalse hday =>
    split
    case isTrue hmonth =>
      have hnot : ¬(m = 12 ∧ d = 31) := by omega
      rw [if_neg hnot]
    case isFalse hmonth =>
      obtain rfl : m = 12 := by omega
      have hlast : d = 31 := by omega
      rw [if_pos ⟨rfl, hlast⟩]

end Date

/-! ## Written dates -/

/-- A month has at most 31 days. -/
theorem monthLength_le_thirtyOne (y m : Nat) : monthLength y m ≤ 31 := by
  unfold monthLength
  split
  · split
    · decide
    · decide
  · split
    · decide
    · decide

/-- Zeros in front of the digits of a number make a numeral. -/
theorem isNumeral_padded {width n : Nat} (h : (Nat.toDigits 10 n).length ≤ width) :
    IsNumeral width (Date.padded width n) n := by
  unfold Date.padded
  refine ⟨?_, fun c hc => ?_, ?_⟩
  · rw [List.length_append, List.length_replicate]
    omega
  · rcases List.mem_append.1 hc with hzero | hdigit
    · rw [List.eq_of_mem_replicate hzero]
      rfl
    · exact Nat.isDigit_of_mem_toDigits (by decide) (by decide) hdigit
  · rw [Nat.ofDigitChars_append, Nat.ofDigitChars_replicate_zero, Nat.mul_zero,
      Nat.ofDigitChars_ten_toDigits]

/-- A number of at most two digits is written as a numeral of two. -/
theorem isNumeral_two {n : Nat} (h : n ≤ 99) : IsNumeral 2 (Date.padded 2 n) n :=
  isNumeral_padded ((Nat.length_toDigits_le_iff (by decide) (by decide)).2 (by omega))

namespace DateBound

/-- The characters are those of a year: four digits, or a plus sign before the digits of a year with
more of them. -/
def IsWrittenYear (cs : List Char) (y : Nat) : Prop :=
  y ≤ 9999 ∧ IsNumeral 4 cs y ∨ 9999 < y ∧ cs = '+' :: Nat.toDigits 10 y

/-- The characters are those of a date: a year, two digits and two, with hyphens. -/
def IsWrittenDate (cs : List Char) (d : Date) : Prop :=
  ∃ ys ms ds, cs = ys ++ '-' :: (ms ++ '-' :: ds) ∧
    IsWrittenYear ys d.year ∧ IsNumeral 2 ms d.month ∧ IsNumeral 2 ds d.day

/-- A date is written with its year, its month and its day. -/
theorem isWrittenDate_chars (d : Date) : IsWrittenDate d.chars d := by
  have hmonth : d.month ≤ 99 := Nat.le_trans d.month_mem.2 (by decide)
  have hday : d.day ≤ 99 := by
    have hlength := monthLength_le_thirtyOne d.year d.month
    have hmem := d.day_mem
    omega
  refine ⟨Date.yearChars d.year, _, _, rfl, ?_, isNumeral_two hmonth, isNumeral_two hday⟩
  unfold Date.yearChars
  split
  case isTrue hyear =>
    have hwidth : (Nat.toDigits 10 d.year).length ≤ 4 :=
      (Nat.length_toDigits_le_iff (by decide) (by decide)).2 (by omega)
    exact .inl ⟨hyear, isNumeral_padded hwidth⟩
  case isFalse hyear => exact .inr ⟨by omega, rfl⟩

/-- Up to the year 9999, a written date is the text that is read. -/
theorem IsWrittenDate.isIsoDate {cs : List Char} {d : Date} (h : IsWrittenDate cs d)
    (hyear : d.year ≤ 9999) : IsIsoDate cs d := by
  obtain ⟨ys, ms, ds, rfl, ⟨-, hys⟩ | ⟨hlate, -⟩, hms, hds⟩ := h
  · exact ⟨ys, ms, ds, rfl, hys, hms, hds⟩
  · exact absurd hyear (Nat.not_le.2 hlate)

/-- Up to the year 9999, every date and every time of day make a stored timestamp. -/
theorem exists_isTimestamp {d : Date} (hyear : d.year ≤ 9999) (t : TimeOfDay) :
    ∃ s, IsTimestamp s d t := by
  have hhour := isNumeral_two (Nat.le_trans t.hour_le (by decide))
  have hminute := isNumeral_two (Nat.le_trans t.minute_le (by decide))
  have hsecond := isNumeral_two (Nat.le_trans t.second_le (by decide))
  exact ⟨String.ofList _, d.chars, _, String.toList_ofList,
    (isWrittenDate_chars d).isIsoDate hyear, _, _, _, rfl, hhour, hminute, hsecond⟩

/-- No stored timestamp comes before a date that is written with a plus sign, which comes before
every digit. -/
theorem IsTimestamp.not_lt_of_late {s : String} {d e : Date} {t : TimeOfDay} {cs : List Char}
    (h : IsTimestamp s d t) (he : IsWrittenDate cs e) (hyear : 9999 < e.year) :
    ¬s.toList < cs := by
  obtain ⟨_, _, hs, ⟨ys, ms, ds, rfl, hys, -, -⟩, -⟩ := h
  obtain ⟨y1, y2, y3, y4, rfl⟩ := hys.exists_four
  obtain ⟨ys', ms', ds', rfl, ⟨hearly, -⟩ | ⟨-, rfl⟩, -, -⟩ := he
  · omega
  · have hdigit := (Char.isDigit_iff_toNat.1 (hys.digits y1 List.mem_cons_self)).1
    simp only [hs, List.cons_append, List.cons_lt_cons_iff]
    rintro (hlt | ⟨rfl, -⟩)
    · have hlt : y1.toNat < '+'.toNat := hlt
      have hplus : '+'.toNat < '0'.toNat := by decide
      omega
    · exact absurd hdigit (by decide)

end DateBound

end MetricLayer
