import MetricLayer.Proofs.Calendar.WrittenDate
import MetricLayer.Proofs.Compile.Conjunct
import MetricLayer.Proofs.Text.ByteOrder

/-!
# What the bound texts of a date range select

The condition of a date range compares the text of a stored timestamp with two texts, byte by byte.
A range of days selects the timestamps of its days (`dayRange_selects_days`), up to the last day
that is written with four digits for the year: the day after that one is written with a plus sign,
before which no timestamp comes (`last_day_is_missed`). Its upper text is that of the following day,
at which the next range begins (`dayRange_meets_next`).

A range to a moment selects the timestamps of its instants, both ends included, if its bounds are
written as timestamps are (`momentRange_selects_instants`); a bound is bound as it was written, and
in another spelling it has another place in the order of the texts (`mixed_spellings_are_inverted`).
-/

namespace MetricLayer

/-- The last date that can be read, since the text of a bound has four digits for its year. -/
def Date.lastReadable : Date where
  year := 9999
  month := 12
  day := 31
  month_mem := by decide
  day_mem := by decide

/-- A time that is not earlier than the last second is the last second. -/
theorem TimeOfDay.eq_lastSecond {t : TimeOfDay} (h : ¬t.fields < lastSecond.fields) :
    t = lastSecond := by
  obtain ⟨hour, minute, second, hhour, hminute, hsecond⟩ := t
  rw [fields_lt_iff] at h
  dsimp only [lastSecond] at h
  obtain rfl : hour = 23 := by omega
  obtain rfl : minute = 59 := by omega
  obtain rfl : second = 60 := by omega
  rfl

/-- The characters of the text of a date. -/
theorem Date.toList_text (d : Date) : d.text.toList = d.chars :=
  String.toList_ofList

namespace DateRange

variable {x : DateRange}

/-- The condition of a date range, wherever it stands, is that of its upper bound, and its values
are two texts. -/
def Binds (x : DateRange) (upper : DateBound) (low high : String) : Prop :=
  ∀ bound sql, x.conjunct bound sql = .ok ⟨upper.condition bound sql, [.text low, .text high]⟩

/-- An accepted date range has the condition and the parameters of the bound that its upper text
denotes. -/
theorem conjunct_of_accepted {b : DateBound} (haccepted : checkDateRange (some x) = .ok ())
    (hupper : DateBound.IsIsoText x.upper.toList b) (bound : Nat) (sql : String) :
    x.conjunct bound sql = .ok ⟨b.condition bound sql, x.parameters b⟩ := by
  obtain ⟨⟨a, b'⟩, hbounds⟩ := checkDateRange_eq_ok_iff.1 haccepted x rfl
  have hb := (bounds_eq_ok_iff.1 hbounds).2.1
  obtain rfl := Option.some.inj (hb.symm.trans (DateBound.parse?_eq_some_iff.2 hupper))
  rw [conjunct_eq, hbounds]
  rfl

/-- An accepted date range does not begin after it ends. -/
theorem not_last_lt_first {a b : DateBound} (haccepted : checkDateRange (some x) = .ok ())
    (hlower : DateBound.IsIsoText x.lower.toList a)
    (hupper : DateBound.IsIsoText x.upper.toList b) : ¬b.last < a.first := by
  obtain ⟨⟨a', b'⟩, hbounds⟩ := checkDateRange_eq_ok_iff.1 haccepted x rfl
  obtain ⟨ha, hb, hafter⟩ := bounds_eq_ok_iff.1 hbounds
  obtain rfl := Option.some.inj (ha.symm.trans (DateBound.parse?_eq_some_iff.2 hlower))
  obtain rfl := Option.some.inj (hb.symm.trans (DateBound.parse?_eq_some_iff.2 hupper))
  intro h
  rw [DateBound.isAfter_iff.2 h] at hafter
  exact absurd hafter (by decide)

/-- An accepted range to a day binds its lower text and that of the following day. -/
theorem binds_day {b : Date} (haccepted : checkDateRange (some x) = .ok ())
    (hupper : DateBound.IsIsoDate x.upper.toList b) : x.Binds (.day b) x.lower b.next.text :=
  conjunct_of_accepted haccepted (.day hupper)

/-- A date range binds two texts only. -/
theorem Binds.unique {upper : DateBound} {low high low' high' : String}
    (h : x.Binds upper low high) (h' : x.Binds upper low' high') : low = low' ∧ high = high' := by
  have hsame := (Except.ok.inj ((h 0 "").symm.trans (h' 0 "")))
  simpa using congrArg Conjunct.values hsame

/-! ## Ranges of days -/

/-- A range of days selects the stored timestamps of its days and no others: a text is selected if
it does not come before the first of the two texts that are bound and comes before the second. -/
def SelectsDays (x : DateRange) (a b : Date) : Prop :=
  ∃ low high, x.Binds (.day b) low high ∧
    ∀ s d t, DateBound.IsTimestamp s d t →
      (¬Text.bytes s < Text.bytes low ∧ Text.bytes s < Text.bytes high ↔
        a.dayNumber ≤ d.dayNumber ∧ d.dayNumber ≤ b.dayNumber)

/-- The text of the day after a date that can be read can be read, unless this is the last such
date. -/
theorem isIsoDate_next {cs : List Char} {b : Date} (h : DateBound.IsIsoDate cs b)
    (hlast : b ≠ .lastReadable) : DateBound.IsIsoDate b.next.text.toList b.next := by
  have hyear : b.year ≤ 9999 := DateBound.year_le_of_isIsoText (.day h)
  have hnext := b.year_next_eq
  rw [ne_eq, Date.eq_iff] at hlast
  dsimp only [Date.lastReadable] at hlast
  rw [Date.toList_text]
  refine (DateBound.isWrittenDate_chars b.next).isIsoDate ?_
  split at hnext
  case isTrue hend => omega
  case isFalse => omega

/-- A range of days selects its days, unless it ends with the last day that can be read. -/
theorem selectsDays_of_ne {a b : Date} (haccepted : checkDateRange (some x) = .ok ())
    (hlower : DateBound.IsIsoDate x.lower.toList a) (hupper : DateBound.IsIsoDate x.upper.toList b)
    (hlast : b ≠ .lastReadable) : x.SelectsDays a b := by
  refine ⟨x.lower, b.next.text, binds_day haccepted hupper, fun s d t hs => ?_⟩
  have hfrom : ¬Text.bytes s < Text.bytes x.lower ↔ a.dayNumber ≤ d.dayNumber := by
    rw [Text.bytes_lt_iff, hs.lt_date_iff hlower, ← Date.dayNumber_lt_iff, Nat.not_lt]
  have hto : Text.bytes s < Text.bytes b.next.text ↔ d.dayNumber ≤ b.dayNumber := by
    rw [Text.bytes_lt_iff, hs.lt_date_iff (isIsoDate_next hupper hlast), ← Date.dayNumber_lt_iff,
      Date.dayNumber_next, Nat.lt_succ_iff]
  rw [hfrom, hto]

/-- A range that ends with the last day that can be read selects nothing of that day: the text of
the following day comes before every timestamp. -/
theorem not_selectsDays_lastReadable {a : Date} (haccepted : checkDateRange (some x) = .ok ())
    (hlower : DateBound.IsIsoDate x.lower.toList a)
    (hupper : DateBound.IsIsoDate x.upper.toList .lastReadable) :
    ¬x.SelectsDays a .lastReadable := by
  rintro ⟨low, high, hbinds, hselects⟩
  obtain ⟨-, rfl⟩ := hbinds.unique (binds_day haccepted hupper)
  -- The midnight of the last day is within the range, whatever its first day is.
  obtain ⟨s, hs⟩ := DateBound.exists_isTimestamp (Nat.le_refl Date.lastReadable.year) .midnight
  have horder : a.dayNumber ≤ Date.lastReadable.dayNumber := by
    have hordered := not_last_lt_first haccepted (.day hlower) (.day hupper)
    rw [← Nat.not_lt, Date.dayNumber_lt_iff]
    exact fun hlt => hordered (Date.fields_append_lt_iff.2 (.inl hlt))
  have hbefore := ((hselects s _ _ hs).2 ⟨horder, Nat.le_refl _⟩).2
  rw [Text.bytes_lt_iff, Date.toList_text] at hbefore
  exact hs.not_lt_of_late (DateBound.isWrittenDate_chars Date.lastReadable.next) (by decide) hbefore

end DateRange

/-- An accepted range of days selects the stored timestamps of its days and no others, unless it
ends with the last day that can be read. -/
theorem dayRange_selects_days {x : DateRange} {a b : Date}
    (haccepted : checkDateRange (some x) = .ok ())
    (hlower : DateBound.IsIsoDate x.lower.toList a)
    (hupper : DateBound.IsIsoDate x.upper.toList b) :
    x.SelectsDays a b ↔ b ≠ .lastReadable := by
  refine ⟨?_, DateRange.selectsDays_of_ne haccepted hlower hupper⟩
  rintro h rfl
  exact DateRange.not_selectsDays_lastReadable haccepted hlower hupper h

/-- A leap February is a range of days that selects the timestamps of its days. -/
theorem dayRange_selects_days_february :
    ∃ a b, checkDateRange (some ⟨"2024-02-01", "2024-02-29"⟩) = .ok () ∧
      DateBound.IsIsoDate "2024-02-01".toList a ∧ DateBound.IsIsoDate "2024-02-29".toList b ∧
      (⟨"2024-02-01", "2024-02-29"⟩ : DateRange).SelectsDays a b ∧
      ∃ t, DateBound.IsTimestamp "2024-02-29 23:59:59" b t := by
  have haccepted : checkDateRange (some ⟨"2024-02-01", "2024-02-29"⟩) = .ok () := by decide
  have hlower : DateBound.IsIsoDate "2024-02-01".toList ⟨2024, 2, 1, by decide, by decide⟩ :=
    ⟨"2024".toList, "02".toList, "01".toList, rfl, by decide, by decide, by decide⟩
  have hupper : DateBound.IsIsoDate "2024-02-29".toList ⟨2024, 2, 29, by decide, by decide⟩ :=
    ⟨"2024".toList, "02".toList, "29".toList, rfl, by decide, by decide, by decide⟩
  have hselects := (dayRange_selects_days haccepted hlower hupper).2 (by decide)
  have hstored : DateBound.IsTimestamp "2024-02-29 23:59:59" ⟨2024, 2, 29, by decide, by decide⟩
      ⟨23, 59, 59, by decide, by decide, by decide⟩ :=
    ⟨"2024-02-29".toList, "23:59:59".toList, rfl, hupper, "23".toList, "59".toList, "59".toList,
      rfl, by decide, by decide, by decide⟩
  exact ⟨_, _, haccepted, hlower, hupper, hselects, _, hstored⟩

/-- The last day that can be read is a range of one day that does not select its own noon. -/
theorem last_day_is_missed :
    checkDateRange (some ⟨"9999-12-31", "9999-12-31"⟩) = .ok () ∧
      DateBound.IsIsoDate "9999-12-31".toList .lastReadable ∧
      (∃ t, DateBound.IsTimestamp "9999-12-31 12:00:00" .lastReadable t) ∧
      (⟨"9999-12-31", "9999-12-31"⟩ : DateRange).Binds (.day .lastReadable)
        "9999-12-31" "+10000-01-01" ∧
      ¬Text.bytes "9999-12-31 12:00:00" < Text.bytes "+10000-01-01" ∧
      ¬(⟨"9999-12-31", "9999-12-31"⟩ : DateRange).SelectsDays .lastReadable .lastReadable := by
  have haccepted : checkDateRange (some ⟨"9999-12-31", "9999-12-31"⟩) = .ok () := by decide
  have hday : DateBound.IsIsoDate "9999-12-31".toList .lastReadable :=
    ⟨"9999".toList, "12".toList, "31".toList, rfl, by decide, by decide, by decide⟩
  have hstored : DateBound.IsTimestamp "9999-12-31 12:00:00" .lastReadable
      ⟨12, 0, 0, by decide, by decide, by decide⟩ :=
    ⟨"9999-12-31".toList, "12:00:00".toList, rfl, hday, "12".toList, "00".toList, "00".toList, rfl,
      by decide, by decide, by decide⟩
  exact ⟨haccepted, hday, ⟨_, hstored⟩, DateRange.binds_day haccepted hday, by decide,
    DateRange.not_selectsDays_lastReadable haccepted hday hday⟩

/-- The upper text of an accepted range to a day is the written date of the day whose number is one
more, the first date of the calendar after it. A range of days that begins with that day has this
text as its lower one. -/
theorem dayRange_meets_next {x : DateRange} {b : Date}
    (haccepted : checkDateRange (some x) = .ok ())
    (hupper : DateBound.IsIsoDate x.upper.toList b) :
    ∃ e high, x.Binds (.day b) x.lower high ∧ DateBound.IsWrittenDate high.toList e ∧
      e.dayNumber = b.dayNumber + 1 ∧
      (IsGregorian e.year e.month e.day ∧ b.fields < e.fields ∧
        ∀ y m d, IsGregorian y m d → b.fields < [y, m, d] → ¬[y, m, d] < e.fields) ∧
      ∀ (next : DateRange) (a c : Date), checkDateRange (some next) = .ok () →
        DateBound.IsIsoDate next.lower.toList a → DateBound.IsIsoDate next.upper.toList c →
        a.dayNumber = b.dayNumber + 1 → ∃ high', next.Binds (.day c) high high' := by
  have hwritten : DateBound.IsWrittenDate b.next.text.toList b.next := by
    rw [Date.toList_text]
    exact DateBound.isWrittenDate_chars b.next
  have hnumber := b.dayNumber_next
  have hlater : b.fields < b.next.fields := Date.dayNumber_lt_iff.1 (by omega)
  refine ⟨b.next, b.next.text, DateRange.binds_day haccepted hupper, hwritten, hnumber,
    ⟨Date.exists_iff.1 ⟨b.next, rfl, rfl, rfl⟩, hlater, fun y m d hdate => ?_⟩, ?_⟩
  · obtain ⟨t, rfl, rfl, rfl⟩ := Date.exists_iff.2 hdate
    exact fun hlt hbetween => Date.lt_next_iff.1 hbetween hlt
  · -- A date has one text, so the two ranges have the same one where they meet.
    intro next a c hnext hfrom hto hmeet
    obtain rfl := Date.dayNumber_eq_iff.1 (hmeet.trans hnumber.symm)
    have hsame := hfrom.unique (hwritten.isIsoDate (DateBound.year_le_of_isIsoText (.day hfrom)))
    rw [← String.toList_inj.1 hsame]
    exact ⟨c.next.text, DateRange.binds_day hnext hto⟩

/-- The February of a century without a leap day is met by the March after it. -/
theorem dayRange_meets_next_march :
    ∃ b c meet high, checkDateRange (some ⟨"1900-02-01", "1900-02-28"⟩) = .ok () ∧
      checkDateRange (some ⟨"1900-03-01", "1900-03-31"⟩) = .ok () ∧
      DateBound.IsIsoDate "1900-02-28".toList b ∧ DateBound.IsIsoDate "1900-03-31".toList c ∧
      (⟨"1900-02-01", "1900-02-28"⟩ : DateRange).Binds (.day b) "1900-02-01" meet ∧
      (⟨"1900-03-01", "1900-03-31"⟩ : DateRange).Binds (.day c) meet high := by
  have hfebruary : checkDateRange (some ⟨"1900-02-01", "1900-02-28"⟩) = .ok () := by decide
  have hmarch : checkDateRange (some ⟨"1900-03-01", "1900-03-31"⟩) = .ok () := by decide
  have hlast : DateBound.IsIsoDate "1900-02-28".toList ⟨1900, 2, 28, by decide, by decide⟩ :=
    ⟨"1900".toList, "02".toList, "28".toList, rfl, by decide, by decide, by decide⟩
  have hfirst : DateBound.IsIsoDate "1900-03-01".toList ⟨1900, 3, 1, by decide, by decide⟩ :=
    ⟨"1900".toList, "03".toList, "01".toList, rfl, by decide, by decide, by decide⟩
  have hend : DateBound.IsIsoDate "1900-03-31".toList ⟨1900, 3, 31, by decide, by decide⟩ :=
    ⟨"1900".toList, "03".toList, "31".toList, rfl, by decide, by decide, by decide⟩
  obtain ⟨_, meet, hbinds, -, -, -, hmeet⟩ := dayRange_meets_next hfebruary hlast
  obtain ⟨high, hnext⟩ := hmeet ⟨"1900-03-01", "1900-03-31"⟩ _ _ hmarch hfirst hend (by decide)
  exact ⟨_, _, meet, high, hfebruary, hmarch, hlast, hend, hbinds, hnext⟩

/-! ## Ranges to a moment -/

namespace DateRange

variable {x : DateRange} {a : DateBound} {e : Date} {u : TimeOfDay}

/-- A range to a moment selects the stored timestamps of its instants and no others, both ends
included, and its texts are in order: a text is selected if it does not come before the first of the
two texts that are bound and not after the second. -/
def SelectsInstants (x : DateRange) (a : DateBound) (e : Date) (u : TimeOfDay) : Prop :=
  ∃ low high, x.Binds (.moment e u) low high ∧ ¬Text.bytes high < Text.bytes low ∧
    ∀ s d t, DateBound.IsTimestamp s d t →
      (¬Text.bytes s < Text.bytes low ∧ ¬Text.bytes high < Text.bytes s ↔
        ¬d.fields ++ t.fields < a.first ∧ ¬(DateBound.moment e u).last < d.fields ++ t.fields)

/-- An accepted range to a moment binds both of its texts as they are. -/
theorem binds_moment (haccepted : checkDateRange (some x) = .ok ())
    (hupper : DateBound.IsIsoText x.upper.toList (.moment e u)) :
    x.Binds (.moment e u) x.lower x.upper :=
  conjunct_of_accepted haccepted hupper

/-- A stored timestamp comes before a lower text that is written with a blank just if its instant
comes before the bound. -/
theorem lt_lower_iff {s : String} {d : Date} {t : TimeOfDay}
    (hlower : DateBound.IsIsoText x.lower.toList a) (hblank : 'T' ∉ x.lower.toList)
    (hs : DateBound.IsTimestamp s d t) :
    Text.bytes s < Text.bytes x.lower ↔ d.fields ++ t.fields < a.first := by
  rw [Text.bytes_lt_iff, hs.lt_iff hlower hblank]

/-- A range to a moment selects its instants if its lower text is written with a blank and its upper
one comes before the timestamps of the later instants only. -/
theorem selectsInstants_of_upper (haccepted : checkDateRange (some x) = .ok ())
    (hlower : DateBound.IsIsoText x.lower.toList a) (hblank : 'T' ∉ x.lower.toList)
    (hupper : DateBound.IsIsoText x.upper.toList (.moment e u))
    (hto : ∀ s d t, DateBound.IsTimestamp s d t →
      (Text.bytes x.upper < Text.bytes s ↔ e.fields ++ u.fields < d.fields ++ t.fields)) :
    x.SelectsInstants a e u := by
  obtain ⟨s, hs⟩ := DateBound.exists_isTimestamp (DateBound.year_le_of_isIsoText hupper) u
  have horder := not_last_lt_first haccepted hlower hupper
  refine ⟨x.lower, x.upper, binds_moment haccepted hupper, ?_, fun r d t hr => ?_⟩
  · -- The timestamp of the upper bound lies between the two texts.
    have hfrom : ¬Text.bytes s < Text.bytes x.lower := mt (lt_lower_iff hlower hblank hs).1 horder
    have hend : ¬Text.bytes x.upper < Text.bytes s := mt (hto s e u hs).1 (List.lt_irrefl _)
    exact List.not_lt.2 (List.le_trans (List.not_lt.1 hfrom) (List.not_lt.1 hend))
  · exact and_congr (not_congr (lt_lower_iff hlower hblank hr)) (not_congr (hto r d t hr))

/-- A range whose lower text is written with a letter does not select the instant at which it
begins. -/
theorem blank_of_selectsInstants (haccepted : checkDateRange (some x) = .ok ())
    (hlower : DateBound.IsIsoText x.lower.toList a)
    (hupper : DateBound.IsIsoText x.upper.toList (.moment e u))
    (hselects : x.SelectsInstants a e u) : 'T' ∉ x.lower.toList := by
  intro hletter
  obtain ⟨low, high, hbinds, -, hselects⟩ := hselects
  obtain ⟨rfl, -⟩ := hbinds.unique (binds_moment haccepted hupper)
  obtain ⟨front, more, d, t, rfl, hfront, hdate⟩ := hlower.exists_of_letter_mem hletter
  obtain ⟨s, hs⟩ := DateBound.exists_isTimestamp (DateBound.year_le_of_isIsoText hlower) t
  have horder := not_last_lt_first haccepted hlower hupper
  have hfrom := ((hselects s d t hs).2 ⟨List.lt_irrefl _, horder⟩).1
  rw [Text.bytes_lt_iff, hfront] at hfrom
  exact hfrom ((hs.lt_letter_iff hdate).2 (List.lt_irrefl _))

/-- An upper text that is written with a letter comes before a stored timestamp just if its date is
earlier. -/
theorem letter_lt_iff {s : String} {d : Date} {t : TimeOfDay} {cs more : List Char}
    (hs : DateBound.IsTimestamp s d t) (htext : x.upper.toList = cs ++ 'T' :: more)
    (hdate : DateBound.IsIsoDate cs e) :
    Text.bytes x.upper < Text.bytes s ↔ e.fields < d.fields := by
  rw [Text.bytes_lt_iff, htext, hs.letter_lt_iff hdate]

/-- A range that selects its instants has an upper text that is written as a stored timestamp, or
with a letter and the last second of its day: another text with a letter comes after the rest of its
day, and one without a second comes before its own instant. -/
theorem upper_of_selectsInstants (haccepted : checkDateRange (some x) = .ok ())
    (hlower : DateBound.IsIsoText x.lower.toList a) (hblank : 'T' ∉ x.lower.toList)
    (hupper : DateBound.IsIsoText x.upper.toList (.moment e u))
    (hselects : x.SelectsInstants a e u) :
    DateBound.IsTimestamp x.upper e u ∨ 'T' ∈ x.upper.toList ∧ u = .lastSecond := by
  have hyear := DateBound.year_le_of_isIsoText hupper
  have horder := not_last_lt_first haccepted hlower hupper
  obtain ⟨low, high, hbinds, -, hselects⟩ := hselects
  obtain ⟨rfl, rfl⟩ := hbinds.unique (binds_moment haccepted hupper)
  rcases hupper.spelling with hstored | ⟨cs, more, htext, hdate⟩ |
    ⟨cs, hs, ms, htext, hdate, hhour, hminute⟩
  · exact .inl hstored
  · -- The last timestamp of the day comes before the letter, so it has to be that of the bound.
    obtain ⟨s, hs⟩ := DateBound.exists_isTimestamp hyear .lastSecond
    have hlast : ¬e.fields ++ TimeOfDay.lastSecond.fields < e.fields ++ u.fields :=
      List.not_lt.2 (List.append_left_le (List.not_lt.1 u.not_lastSecond_fields_lt))
    have hbegun : ¬e.fields ++ TimeOfDay.lastSecond.fields < a.first :=
      List.not_lt.2 (List.le_trans (List.not_lt.1 horder) (List.not_lt.1 hlast))
    have hto : ¬Text.bytes x.upper < Text.bytes s :=
      mt (letter_lt_iff hs htext hdate).1 (List.lt_irrefl _)
    have hend := ((hselects s e _ hs).1 ⟨mt (lt_lower_iff hlower hblank hs).1 hbegun, hto⟩).2
    exact .inr ⟨by simp [htext], TimeOfDay.eq_lastSecond fun hlt =>
      hend (List.append_left_lt hlt)⟩
  · -- The timestamp of the bound goes on where its text ends.
    obtain ⟨s, hs⟩ := DateBound.exists_isTimestamp hyear u
    have hto := ((hselects s e u hs).2 ⟨horder, List.lt_irrefl _⟩).2
    rw [Text.bytes_lt_iff, htext] at hto
    exact absurd (hs.short_lt hdate hhour hminute) hto

end DateRange

/-- An accepted range to a moment selects the stored timestamps of its instants and no others, and
binds its texts in order, just if its lower text has no letter and its upper one is written as a
stored timestamp is, or ends its day. -/
theorem momentRange_selects_instants {x : DateRange} {a : DateBound} {e : Date} {u : TimeOfDay}
    (haccepted : checkDateRange (some x) = .ok ())
    (hlower : DateBound.IsIsoText x.lower.toList a)
    (hupper : DateBound.IsIsoText x.upper.toList (.moment e u)) :
    x.SelectsInstants a e u ↔
      'T' ∉ x.lower.toList ∧
        (DateBound.IsTimestamp x.upper e u ∨ 'T' ∈ x.upper.toList ∧ u = .lastSecond) := by
  constructor
  · intro hselects
    have hblank := DateRange.blank_of_selectsInstants haccepted hlower hupper hselects
    exact ⟨hblank, DateRange.upper_of_selectsInstants haccepted hlower hblank hupper hselects⟩
  · rintro ⟨hblank, hstored | ⟨hletter, rfl⟩⟩
    · refine DateRange.selectsInstants_of_upper haccepted hlower hblank hupper fun s d t hs => ?_
      rw [Text.bytes_lt_iff, hstored.lt_iff hs.isIsoText hs.letter_notMem]
      exact Iff.rfl
    · refine DateRange.selectsInstants_of_upper haccepted hlower hblank hupper fun s d t hs => ?_
      obtain ⟨cs, more, _, _, hmoment, htext, hdate⟩ := hupper.exists_of_letter_mem hletter
      obtain ⟨rfl, -⟩ := DateBound.moment.inj hmoment
      rw [DateRange.letter_lt_iff hs htext hdate, Date.fields_append_lt_iff,
        or_iff_left fun hsame => t.not_lastSecond_fields_lt hsame.2]

/-- A range from a minute, with a blank, to a second selects its instants. -/
theorem momentRange_selects_instants_january :
    ∃ a e u, checkDateRange (some ⟨"2024-01-01 08:00", "2024-01-31 12:00:00"⟩) = .ok () ∧
      DateBound.IsIsoText "2024-01-01 08:00".toList a ∧
      DateBound.IsTimestamp "2024-01-31 12:00:00" e u ∧
      (⟨"2024-01-01 08:00", "2024-01-31 12:00:00"⟩ : DateRange).SelectsInstants a e u := by
  have haccepted :
      checkDateRange (some ⟨"2024-01-01 08:00", "2024-01-31 12:00:00"⟩) = .ok () := by decide
  have hlower : DateBound.IsIsoText "2024-01-01 08:00".toList
      (.moment ⟨2024, 1, 1, by decide, by decide⟩ ⟨8, 0, 0, by decide, by decide, by decide⟩) :=
    DateBound.ofChars?_eq_some_iff.1 (by decide)
  have hupper : DateBound.IsTimestamp "2024-01-31 12:00:00" ⟨2024, 1, 31, by decide, by decide⟩
      ⟨12, 0, 0, by decide, by decide, by decide⟩ :=
    ⟨"2024-01-31".toList, "12:00:00".toList, rfl,
      ⟨"2024".toList, "01".toList, "31".toList, rfl, by decide, by decide, by decide⟩,
      "12".toList, "00".toList, "00".toList, rfl, by decide, by decide, by decide⟩
  have hselects := (momentRange_selects_instants haccepted hlower hupper.isIsoText).2
    ⟨by decide, .inl hupper⟩
  exact ⟨_, _, _, haccepted, hlower, hupper, hselects⟩

/-- An hour that is written with a letter at its start and with a blank and no second at its end is
accepted, binds its texts in inverted order and does not select its instants. -/
theorem mixed_spellings_are_inverted :
    ∃ a e u, checkDateRange (some ⟨"2024-01-01T08:00", "2024-01-01 09:00"⟩) = .ok () ∧
      DateBound.IsIsoText "2024-01-01T08:00".toList a ∧
      DateBound.IsIsoText "2024-01-01 09:00".toList (.moment e u) ∧
      (⟨"2024-01-01T08:00", "2024-01-01 09:00"⟩ : DateRange).Binds (.moment e u)
        "2024-01-01T08:00" "2024-01-01 09:00" ∧
      Text.bytes "2024-01-01 09:00" < Text.bytes "2024-01-01T08:00" ∧
      ¬(⟨"2024-01-01T08:00", "2024-01-01 09:00"⟩ : DateRange).SelectsInstants a e u := by
  have haccepted :
      checkDateRange (some ⟨"2024-01-01T08:00", "2024-01-01 09:00"⟩) = .ok () := by decide
  have hlower : DateBound.IsIsoText "2024-01-01T08:00".toList
      (.moment ⟨2024, 1, 1, by decide, by decide⟩ ⟨8, 0, 0, by decide, by decide, by decide⟩) :=
    DateBound.ofChars?_eq_some_iff.1 (by decide)
  have hupper : DateBound.IsIsoText "2024-01-01 09:00".toList
      (.moment ⟨2024, 1, 1, by decide, by decide⟩ ⟨9, 0, 0, by decide, by decide, by decide⟩) :=
    DateBound.ofChars?_eq_some_iff.1 (by decide)
  refine ⟨_, _, _, haccepted, hlower, hupper, DateRange.binds_moment haccepted hupper, by decide,
    fun hselects => ?_⟩
  exact absurd (DateRange.blank_of_selectsInstants haccepted hlower hupper hselects) (by decide)

end MetricLayer
