import MetricLayer.Proofs.Calendar.IsoText
import MetricLayer.Proofs.Calendar.Order

/-!
# The order of ISO texts

A database that keeps timestamps as ISO texts (`DateBound.IsTimestamp`) compares the texts in place
of the instants. Numerals of one width are in the order of their numbers
(`IsNumeral.append_lt_iff`), so dates are in the order of the calendar
(`DateBound.IsIsoDate.append_lt_iff`), and a timestamp comes before the text of a bound just if its
instant comes before the bound begins (`DateBound.IsTimestamp.lt_iff`). This holds of bounds that
are written with a blank as timestamps are. Each of these facts speaks of texts with anything behind
them, since a text that ends comes before every text that goes on.
-/

namespace MetricLayer

/-! ## Numerals -/

/-- A greater number stays greater, whatever digits are put behind both. -/
theorem ofDigitChars_lt {cs ds : List Char} {m n : Nat} (hlength : cs.length = ds.length)
    (hcs : ∀ c ∈ cs, c.isDigit = true) (h : m < n) :
    Nat.ofDigitChars 10 cs m < Nat.ofDigitChars 10 ds n := by
  induction cs generalizing ds m n with
  | nil =>
    obtain rfl := List.length_eq_zero_iff.1 hlength.symm
    exact h
  | cons c cs ih =>
    obtain ⟨d, ds, rfl⟩ := List.exists_cons_of_length_eq_add_one hlength.symm
    rw [Nat.ofDigitChars_cons, Nat.ofDigitChars_cons]
    have hc := IsNumeral.digit_le (hcs c List.mem_cons_self)
    exact ih (Nat.succ.inj hlength) (fun x hx => hcs x (List.mem_cons_of_mem _ hx)) (by omega)

/-- As many digits behind the same number are in the order of the numbers that they make. -/
theorem digits_append_lt_iff {cs ds us vs : List Char} {k : Nat} (hlength : cs.length = ds.length)
    (hcs : ∀ c ∈ cs, c.isDigit = true) (hds : ∀ d ∈ ds, d.isDigit = true) :
    cs ++ us < ds ++ vs ↔
      Nat.ofDigitChars 10 cs k < Nat.ofDigitChars 10 ds k ∨
        Nat.ofDigitChars 10 cs k = Nat.ofDigitChars 10 ds k ∧ us < vs := by
  induction cs generalizing ds k with
  | nil =>
    obtain rfl := List.length_eq_zero_iff.1 hlength.symm
    exact ⟨fun h => .inr ⟨rfl, h⟩, fun h => (h.resolve_left (Nat.lt_irrefl _)).2⟩
  | cons c cs ih =>
    obtain ⟨d, ds, rfl⟩ := List.exists_cons_of_length_eq_add_one hlength.symm
    have htails : cs.length = ds.length := Nat.succ.inj hlength
    have hcs' : ∀ x ∈ cs, x.isDigit = true := fun x hx => hcs x (List.mem_cons_of_mem _ hx)
    have hds' : ∀ x ∈ ds, x.isDigit = true := fun x hx => hds x (List.mem_cons_of_mem _ hx)
    have hc := (Char.isDigit_iff_toNat.1 (hcs c List.mem_cons_self)).1
    have hd := (Char.isDigit_iff_toNat.1 (hds d List.mem_cons_self)).1
    rw [List.cons_append, List.cons_append, List.cons_lt_cons_iff, Nat.ofDigitChars_cons,
      Nat.ofDigitChars_cons]
    -- The first digit decides, unless it is the same.
    rcases Nat.lt_trichotomy c.toNat d.toNat with hlt | heq | hgt
    · exact iff_of_true (.inl hlt) (.inl (ofDigitChars_lt htails hcs' (by omega)))
    · obtain rfl := Char.toNat_inj.1 heq
      have hself : ¬c < c := Nat.lt_irrefl c.toNat
      rw [or_iff_right hself, and_iff_right rfl, ih htails hcs' hds']
    · have hvalue := ofDigitChars_lt htails.symm hds'
        (show 10 * k + (d.toNat - '0'.toNat) < 10 * k + (c.toNat - '0'.toNat) by omega)
      refine iff_of_false ?_ ?_
      · rintro (hlt | ⟨rfl, -⟩)
        · exact Nat.lt_asymm hlt hgt
        · exact Nat.lt_irrefl _ hgt
      · omega

namespace IsNumeral

variable {width m n : Nat} {cs ds us vs : List Char}

/-- Numerals of one width are in the order of their numbers, or else of what follows them. -/
theorem append_lt_iff (hc : IsNumeral width cs m) (hd : IsNumeral width ds n) :
    cs ++ us < ds ++ vs ↔ m < n ∨ m = n ∧ us < vs := by
  have hlength : cs.length = ds.length := hc.length_eq.trans hd.length_eq.symm
  rw [digits_append_lt_iff (k := 0) hlength hc.digits hd.digits, hc.value, hd.value]

/-- The characters are a numeral of a number and a width, which can be decided. -/
instance : Decidable (IsNumeral width cs n) :=
  decidable_of_iff
    (cs.length = width ∧ cs.all Char.isDigit = true ∧ Nat.ofDigitChars 10 cs 0 = n)
    ⟨fun h => ⟨h.1, List.all_eq_true.1 h.2.1, h.2.2⟩,
      fun h => ⟨h.length_eq, List.all_eq_true.2 h.digits, h.value⟩⟩

end IsNumeral

namespace DateBound

/-! ## Dates -/

/-- Texts of dates are in the order of the calendar, or else of what follows them. -/
theorem IsIsoDate.append_lt_iff {cs ds us vs : List Char} {d e : Date} (hc : IsIsoDate cs d)
    (hd : IsIsoDate ds e) : cs ++ us < ds ++ vs ↔ d.fields < e.fields ∨ d = e ∧ us < vs := by
  obtain ⟨ys, ms, xs, rfl, hyear, hmonth, hday⟩ := hc
  obtain ⟨ys', ms', xs', rfl, hyear', hmonth', hday'⟩ := hd
  rw [Date.fields_lt_iff, Date.eq_iff]
  simp only [List.append_assoc, List.cons_append, hyear.append_lt_iff hyear',
    List.cons_lt_cons_self, hmonth.append_lt_iff hmonth', hday.append_lt_iff hday']
  tauto

/-- A date has one text. -/
theorem IsIsoDate.unique {cs ds : List Char} {d : Date} (hc : IsIsoDate cs d)
    (hd : IsIsoDate ds d) : cs = ds := by
  have hnot : ∀ {us vs : List Char}, IsIsoDate us d → IsIsoDate vs d → ¬us < vs := by
    intro us vs hu hv h
    have happend : us ++ [] < vs ++ [] := by rwa [List.append_nil, List.append_nil]
    rcases (hu.append_lt_iff hv).1 happend with hlt | ⟨-, hlt⟩
    · exact List.lt_irrefl _ hlt
    · exact List.lt_irrefl _ hlt
  exact List.le_antisymm (hnot hd hc) (hnot hc hd)

/-! ## Timestamps -/

/-- The characters are those of a time of day with its second: six digits with colons. -/
def IsClockTime (cs : List Char) (t : TimeOfDay) : Prop :=
  ∃ hs ms ss, cs = hs ++ ':' :: (ms ++ ':' :: ss) ∧
    IsNumeral 2 hs t.hour ∧ IsNumeral 2 ms t.minute ∧ IsNumeral 2 ss t.second

/-- The text is a stored timestamp: a date, a blank and a time of day with its second. -/
def IsTimestamp (s : String) (d : Date) (t : TimeOfDay) : Prop :=
  ∃ ds ts, s.toList = ds ++ ' ' :: ts ∧ IsIsoDate ds d ∧ IsClockTime ts t

/-- A time of day with its second comes before the text of a time just if it is earlier. -/
theorem IsClockTime.lt_iff {cs ds : List Char} {t u : TimeOfDay} (hc : IsClockTime cs t)
    (hd : IsIsoTime ds u) : cs < ds ↔ t.fields < u.fields := by
  obtain ⟨hs, ms, ss, rfl, hhour, hminute, hsecond⟩ := hc
  obtain ⟨hs', ms', hhour', hminute', ⟨rfl, hzero⟩ | ⟨ss', rfl, hsecond'⟩⟩ := hd
  · -- The shorter text stands for no seconds, and comes before every text that goes on with some.
    rw [TimeOfDay.fields_lt_iff, hhour.append_lt_iff hhour', List.cons_lt_cons_self,
      ← List.append_nil ms', hminute.append_lt_iff hminute', hzero]
    simp
  · rw [TimeOfDay.fields_lt_iff, hhour.append_lt_iff hhour', List.cons_lt_cons_self,
      hminute.append_lt_iff hminute', List.cons_lt_cons_self, ← List.append_nil ss,
      ← List.append_nil ss', hsecond.append_lt_iff hsecond']
    simp

/-- A time of day with its second is the text of a time. -/
theorem IsClockTime.isIsoTime {cs : List Char} {t : TimeOfDay} (h : IsClockTime cs t) :
    IsIsoTime cs t := by
  obtain ⟨hs, ms, ss, rfl, hhour, hminute, hsecond⟩ := h
  exact ⟨hs, ms, hhour, hminute, .inr ⟨ss, rfl, hsecond⟩⟩

/-- Digits are no letters. -/
theorem letter_notMem_of_isNumeral {width n : Nat} {cs : List Char} (h : IsNumeral width cs n) :
    'T' ∉ cs :=
  fun hmem => absurd (h.digits 'T' hmem) (by decide)

/-- The text of a date has no letter. -/
theorem IsIsoDate.letter_notMem {cs : List Char} {d : Date} (h : IsIsoDate cs d) : 'T' ∉ cs := by
  obtain ⟨ys, ms, ds, rfl, hyear, hmonth, hday⟩ := h
  simp [letter_notMem_of_isNumeral hyear, letter_notMem_of_isNumeral hmonth,
    letter_notMem_of_isNumeral hday]

/-- The text of a time has no letter. -/
theorem IsIsoTime.letter_notMem {cs : List Char} {t : TimeOfDay} (h : IsIsoTime cs t) :
    'T' ∉ cs := by
  obtain ⟨hs, ms, hhour, hminute, ⟨rfl, -⟩ | ⟨ss, rfl, hsecond⟩⟩ := h
  · simp [letter_notMem_of_isNumeral hhour, letter_notMem_of_isNumeral hminute]
  · simp [letter_notMem_of_isNumeral hhour, letter_notMem_of_isNumeral hminute,
      letter_notMem_of_isNumeral hsecond]

/-- The text of a bound with a letter is that of a moment, with the letter after its date. -/
theorem IsIsoText.exists_of_letter_mem {cs : List Char} {b : DateBound} (h : IsIsoText cs b)
    (hletter : 'T' ∈ cs) :
    ∃ front more d t, b = .moment d t ∧ cs = front ++ 'T' :: more ∧ IsIsoDate front d := by
  rcases h with @⟨cs, d, hdate⟩ | @⟨cs, more, sep, d, t, hdate, hsep, htime⟩
  · exact absurd hletter hdate.letter_notMem
  · obtain rfl : sep = 'T' := by
      refine hsep.resolve_left ?_
      rintro rfl
      simp [hdate.letter_notMem, htime.letter_notMem] at hletter
    exact ⟨cs, more, d, t, rfl, rfl, hdate⟩

/-- The text of a moment is a timestamp, or has a letter after its date, or has a blank there and
ends after the minute. -/
theorem IsIsoText.spelling {s : String} {d : Date} {t : TimeOfDay}
    (h : IsIsoText s.toList (.moment d t)) :
    IsTimestamp s d t ∨ (∃ cs more, s.toList = cs ++ 'T' :: more ∧ IsIsoDate cs d) ∨
      ∃ cs hs ms, s.toList = cs ++ ' ' :: (hs ++ ':' :: ms) ∧ IsIsoDate cs d ∧
        IsNumeral 2 hs t.hour ∧ IsNumeral 2 ms t.minute := by
  generalize hs : s.toList = text at h
  cases h with
  | moment hdate hsep htime =>
    obtain rfl | rfl := hsep
    · obtain ⟨hours, minutes, hhour, hminute, ⟨rfl, -⟩ | ⟨seconds, rfl, hsecond⟩⟩ := htime
      · exact .inr (.inr ⟨_, _, _, rfl, hdate, hhour, hminute⟩)
      · exact .inl ⟨_, _, hs, hdate, hours, minutes, seconds, rfl, hhour, hminute, hsecond⟩
    · exact .inr (.inl ⟨_, _, rfl, hdate⟩)

namespace IsTimestamp

variable {s : String} {d : Date} {t : TimeOfDay}

/-- A stored timestamp is the text of its moment. -/
theorem isIsoText (h : IsTimestamp s d t) : IsIsoText s.toList (.moment d t) := by
  obtain ⟨ds, ts, hs, hdate, htime⟩ := h
  rw [hs]
  exact .moment hdate (.inl rfl) htime.isIsoTime

/-- A stored timestamp has no letter between its date and its time. -/
theorem letter_notMem (h : IsTimestamp s d t) : 'T' ∉ s.toList := by
  obtain ⟨ds, ts, hs, hdate, htime⟩ := h
  rw [hs]
  simp [hdate.letter_notMem, htime.isIsoTime.letter_notMem]

/-- A stored timestamp comes before the text of a date just if its date is earlier. -/
theorem lt_date_iff {cs : List Char} {e : Date} (h : IsTimestamp s d t) (he : IsIsoDate cs e) :
    s.toList < cs ↔ d.fields < e.fields := by
  obtain ⟨ds, ts, hs, hdate, -⟩ := h
  -- On the same day, the text of the date ends where the timestamp goes on.
  rw [hs, ← List.append_nil cs, hdate.append_lt_iff he]
  exact or_iff_left fun hsame => List.not_lt_nil _ hsame.2

/-- A stored timestamp comes before the text of a bound, if that is written with a blank, just if
its instant comes before the bound begins. -/
theorem lt_iff {cs : List Char} {b : DateBound} (h : IsTimestamp s d t) (hb : IsIsoText cs b)
    (hblank : 'T' ∉ cs) : s.toList < cs ↔ d.fields ++ t.fields < b.first := by
  unfold first
  rw [Date.fields_append_lt_iff]
  rcases hb with @⟨cs, e, hdate'⟩ | @⟨cs, more, sep, e, u, hdate', hsep, htime'⟩
  · -- A day begins at midnight, before which there is no time.
    rw [h.lt_date_iff hdate']
    exact (or_iff_left fun hsame => t.not_fields_lt_midnight hsame.2).symm
  · obtain ⟨ds, ts, hs, hdate, htime⟩ := h
    have hsep : sep = ' ' := by
      refine hsep.resolve_right ?_
      rintro rfl
      exact hblank (List.mem_append_right _ List.mem_cons_self)
    rw [hs, hsep, hdate.append_lt_iff hdate', List.cons_lt_cons_self, htime.lt_iff htime']
    exact Iff.rfl

/-- A stored timestamp comes before the text of a moment, if that is written with a letter, just if
its date is not later: a blank comes before every letter. -/
theorem lt_letter_iff {cs more : List Char} {e : Date} (h : IsTimestamp s d t)
    (he : IsIsoDate cs e) : s.toList < cs ++ 'T' :: more ↔ ¬e.fields < d.fields := by
  obtain ⟨ds, ts, hs, hdate, -⟩ := h
  have hblank : ' ' :: ts < 'T' :: more := List.cons_lt_cons_iff.2 (.inl (by decide))
  rw [hs, hdate.append_lt_iff he, and_iff_left hblank, ← Date.dayNumber_lt_iff,
    ← Date.dayNumber_lt_iff, ← Date.dayNumber_eq_iff]
  omega

/-- The text of a moment, if that is written with a letter, comes before a stored timestamp just if
its date is earlier. -/
theorem letter_lt_iff {cs more : List Char} {e : Date} (h : IsTimestamp s d t)
    (he : IsIsoDate cs e) : cs ++ 'T' :: more < s.toList ↔ e.fields < d.fields := by
  obtain ⟨ds, ts, hs, hdate, -⟩ := h
  have hblank : ¬('T' :: more < ' ' :: ts) := by simp [List.cons_lt_cons_iff]
  rw [hs, he.append_lt_iff hdate]
  exact or_iff_left fun hsame => hblank hsame.2

/-- A moment that is written without its second comes before the stored timestamp of its instant:
its text ends where the timestamp goes on. -/
theorem short_lt {cs hs ms : List Char} (h : IsTimestamp s d t) (hd : IsIsoDate cs d)
    (hhour : IsNumeral 2 hs t.hour) (hminute : IsNumeral 2 ms t.minute) :
    cs ++ ' ' :: (hs ++ ':' :: ms) < s.toList := by
  obtain ⟨ds, ts, hs', hdate, hours, minutes, seconds, rfl, hhour', hminute', -⟩ := h
  rw [hs', hd.append_lt_iff hdate, List.cons_lt_cons_self, hhour.append_lt_iff hhour',
    List.cons_lt_cons_self, ← List.append_nil ms, hminute.append_lt_iff hminute']
  exact .inr ⟨rfl, .inr ⟨rfl, .inr ⟨rfl, List.nil_lt_cons _ _⟩⟩⟩

end IsTimestamp

end DateBound

end MetricLayer
