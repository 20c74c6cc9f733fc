import MetricLayer.Calendar.DateBound

/-!
# The texts of bounds

What a bound of a date range looks like: `DateBound.IsIsoText` says which characters denote which
bound, and `DateBound.ofChars?_eq_some_iff` that these are the characters from which the bound is
read. A date of the calendar is given by its year, month and day (`Date.exists_iff`), a time by its
hour, minute and second. A year has four digits, so there is a day after every bound that is read
(`DateBound.next?_of_parse`).
-/

namespace MetricLayer

/-! ## Dates and times of some numbers -/

/-- The year has the month, and the month the day, by the rules of the Gregorian calendar: a year
has a 29 February if four divides it, and of the full centuries if four hundred does. -/
def IsGregorian (y m d : Nat) : Prop :=
  1 ≤ d ∧
    (m ∈ [1, 3, 5, 7, 8, 10, 12] ∧ d ≤ 31 ∨ m ∈ [4, 6, 9, 11] ∧ d ≤ 30 ∨
      m = 2 ∧ (d ≤ 28 ∨ d = 29 ∧ 4 ∣ y ∧ (100 ∣ y → 400 ∣ y)))

/-- A year has a leap day if four divides it, and of the full centuries if four hundred does. -/
theorem isLeapYear_iff {y : Nat} : isLeapYear y = true ↔ 4 ∣ y ∧ (100 ∣ y → 400 ∣ y) := by
  simp only [isLeapYear, Bool.and_eq_true, Bool.or_eq_true, beq_iff_eq, bne_iff_ne, ne_eq,
    Nat.dvd_iff_mod_eq_zero]
  omega

/-- Dates are those of the Gregorian calendar. -/
theorem Date.exists_iff {y m d : Nat} :
    (∃ t : Date, t.year = y ∧ t.month = m ∧ t.day = d) ↔ IsGregorian y m d := by
  have hparts : (∃ t : Date, t.year = y ∧ t.month = m ∧ t.day = d) ↔
      (1 ≤ m ∧ m ≤ 12) ∧ 1 ≤ d ∧ d ≤ monthLength y m := by
    constructor
    · rintro ⟨t, rfl, rfl, rfl⟩
      exact ⟨t.month_mem, t.day_mem⟩
    · rintro ⟨hm, hd⟩
      exact ⟨⟨y, m, d, hm, hd⟩, rfl, rfl, rfl⟩
  rw [hparts, IsGregorian, ← isLeapYear_iff]
  clear hparts
  simp only [List.mem_cons, List.not_mem_nil, or_false]
  -- The months fall into three classes: February, the four of thirty days, and the rest.
  unfold monthLength
  split
  case isTrue hfebruary =>
    cases isLeapYear y with
    | true => simp only [if_true, and_true]; omega
    | false => simp only [Bool.false_eq_true, if_false, and_false, or_false]; omega
  case isFalse hfebruary =>
    split
    case isTrue hthirty => omega
    case isFalse hthirty => omega

/-- Times have 24 hours of 60 minutes, of 60 seconds and perhaps a leap second. -/
theorem TimeOfDay.exists_iff {h m s : Nat} :
    (∃ t : TimeOfDay, t.hour = h ∧ t.minute = m ∧ t.second = s) ↔ h ≤ 23 ∧ m ≤ 59 ∧ s ≤ 60 := by
  constructor
  · rintro ⟨t, rfl, rfl, rfl⟩
    exact ⟨t.hour_le, t.minute_le, t.second_le⟩
  · rintro ⟨hh, hm, hs⟩
    exact ⟨⟨h, m, s, hh, hm, hs⟩, rfl, rfl, rfl⟩

/-- A date is made of some numbers if they are its year, month and day. -/
theorem Date.ofParts?_eq_some_iff {y m d : Nat} {t : Date} :
    Date.ofParts? y m d = some t ↔ t.year = y ∧ t.month = m ∧ t.day = d := by
  constructor
  · intro h
    unfold Date.ofParts? at h
    split at h
    · split at h
      · obtain rfl := Option.some.inj h
        exact ⟨rfl, rfl, rfl⟩
      · exact absurd h (by simp)
    · exact absurd h (by simp)
  · rintro ⟨rfl, rfl, rfl⟩
    unfold Date.ofParts?
    rw [dif_pos t.month_mem, dif_pos t.day_mem]

/-- The following day is in the same year or in the next one. -/
theorem Date.year_next_le (t : Date) : t.next.year ≤ t.year + 1 := by
  unfold Date.next
  split
  · exact Nat.le_succ _
  · split
    · exact Nat.le_succ _
    · exact Nat.le_refl _

/-- A time is made of some numbers if they are its hour, minute and second. -/
theorem TimeOfDay.ofParts?_eq_some_iff {h m s : Nat} {t : TimeOfDay} :
    TimeOfDay.ofParts? h m s = some t ↔ t.hour = h ∧ t.minute = m ∧ t.second = s := by
  constructor
  · intro ht
    unfold TimeOfDay.ofParts? at ht
    split at ht
    · split at ht
      · split at ht
        · obtain rfl := Option.some.inj ht
          exact ⟨rfl, rfl, rfl⟩
        · exact absurd ht (by simp)
      · exact absurd ht (by simp)
    · exact absurd ht (by simp)
  · rintro ⟨rfl, rfl, rfl⟩
    unfold TimeOfDay.ofParts?
    rw [dif_pos t.hour_le, dif_pos t.minute_le, dif_pos t.second_le]

/-! ## Digits -/

/-- The characters are a number of digits of ASCII, and stand for a number in decimal notation. -/
structure IsNumeral (width : Nat) (cs : List Char) (n : Nat) : Prop where
  /-- There are so many characters. -/
  length_eq : cs.length = width
  /-- Each one is a digit. -/
  digits : ∀ c ∈ cs, c.isDigit = true
  /-- They stand for the number. -/
  value : Nat.ofDigitChars 10 cs 0 = n

namespace IsNumeral

variable {cs : List Char} {n : Nat}

/-- A numeral of two digits. -/
theorem exists_two (h : IsNumeral 2 cs n) : ∃ a b, cs = [a, b] :=
  match cs, h.length_eq with
  | [a, b], _ => ⟨a, b, rfl⟩

/-- A numeral of four digits. -/
theorem exists_four (h : IsNumeral 4 cs n) : ∃ a b c d, cs = [a, b, c, d] :=
  match cs, h.length_eq with
  | [a, b, c, d], _ => ⟨a, b, c, d, rfl⟩

/-- A digit is at most nine. -/
theorem digit_le {c : Char} (h : c.isDigit = true) : c.toNat - '0'.toNat ≤ 9 := by
  have hc : c.toNat ≤ '9'.toNat := (Char.isDigit_iff_toNat.1 h).2
  have h9 : '9'.toNat = '0'.toNat + 9 := rfl
  omega

/-- Four digits make a number of at most 9999. -/
theorem le_of_four (h : IsNumeral 4 cs n) : n ≤ 9999 := by
  obtain ⟨a, b, c, d, rfl⟩ := h.exists_four
  have ha := digit_le (h.digits a (by simp))
  have hb := digit_le (h.digits b (by simp))
  have hc := digit_le (h.digits c (by simp))
  have hd := digit_le (h.digits d (by simp))
  have hvalue := h.value
  rw [Nat.ofDigitChars_cons, Nat.ofDigitChars_cons, Nat.ofDigitChars_cons, Nat.ofDigitChars_cons,
    Nat.ofDigitChars_nil] at hvalue
  omega

/-- A numeral is read as its number. -/
theorem number? {width : Nat} (h : IsNumeral width cs n) : DateBound.number? cs = some n := by
  have hdigits : cs.all Char.isDigit = true := List.all_eq_true.2 h.digits
  unfold DateBound.number?
  rw [if_pos hdigits, h.value]

end IsNumeral

namespace DateBound

/-- Characters that are read as a number are a numeral. -/
theorem isNumeral_of_number? {cs : List Char} {n : Nat} (h : number? cs = some n) :
    IsNumeral cs.length cs n := by
  unfold number? at h
  split at h
  case isTrue hdigits => exact ⟨rfl, List.all_eq_true.1 hdigits, Option.some.inj h⟩
  case isFalse => exact absurd h (by simp)

/-! ## Texts -/

/-- The characters are those of a date: four digits, two and two, with hyphens. -/
def IsIsoDate (cs : List Char) (d : Date) : Prop :=
  ∃ ys ms ds, cs = ys ++ '-' :: (ms ++ '-' :: ds) ∧
    IsNumeral 4 ys d.year ∧ IsNumeral 2 ms d.month ∧ IsNumeral 2 ds d.day

/-- The characters are those of a time: two digits and two, and perhaps two more, with colons. -/
def IsIsoTime (cs : List Char) (t : TimeOfDay) : Prop :=
  ∃ hs ms, IsNumeral 2 hs t.hour ∧ IsNumeral 2 ms t.minute ∧
    (cs = hs ++ ':' :: ms ∧ t.second = 0 ∨
      ∃ ss, cs = hs ++ ':' :: (ms ++ ':' :: ss) ∧ IsNumeral 2 ss t.second)

/-- The characters are those of a bound: a date, and for a moment a space or a `T` and a time. -/
inductive IsIsoText : List Char → DateBound → Prop where
  /-- A date alone is a day. -/
  | day {cs : List Char} {d : Date} (date : IsIsoDate cs d) : IsIsoText cs (.day d)
  /-- A date and a time are a moment. -/
  | moment {cs more : List Char} {sep : Char} {d : Date} {t : TimeOfDay} (date : IsIsoDate cs d)
    (separator : sep = ' ' ∨ sep = 'T') (time : IsIsoTime more t) :
    IsIsoText (cs ++ sep :: more) (.moment d t)

/-- The text of a bound begins with its date. -/
theorem IsIsoText.isIsoDate {cs : List Char} {b : DateBound} (h : IsIsoText cs b) :
    ∃ front, front <+: cs ∧ IsIsoDate front b.date := by
  cases h with
  | day date => exact ⟨cs, List.prefix_refl cs, date⟩
  | moment date _ _ => exact ⟨_, List.prefix_append _ _, date⟩

/-- Characters are read as a date if they are numerals of its year, month and day. -/
theorem readDate?_eq_some_iff {ys ms ds : List Char} {d : Date} :
    readDate? ys ms ds = some d ↔
      number? ys = some d.year ∧ number? ms = some d.month ∧ number? ds = some d.day := by
  unfold readDate?
  simp only [bind, Option.bind_eq_some_iff, Date.ofParts?_eq_some_iff]
  constructor
  · rintro ⟨y, hy, m, hm, x, hx, rfl, rfl, rfl⟩
    exact ⟨hy, hm, hx⟩
  · rintro ⟨hy, hm, hx⟩
    exact ⟨_, hy, _, hm, _, hx, rfl, rfl, rfl⟩

/-- Characters are read as a time if they are numerals of its hour, minute and second. -/
theorem readTime?_eq_some_iff {hs ms ss : List Char} {t : TimeOfDay} :
    readTime? hs ms ss = some t ↔
      number? hs = some t.hour ∧ number? ms = some t.minute ∧ number? ss = some t.second := by
  unfold readTime?
  simp only [bind, Option.bind_eq_some_iff, TimeOfDay.ofParts?_eq_some_iff]
  constructor
  · rintro ⟨h, hh, m, hm, x, hx, rfl, rfl, rfl⟩
    exact ⟨hh, hm, hx⟩
  · rintro ⟨hh, hm, hx⟩
    exact ⟨_, hh, _, hm, _, hx, rfl, rfl, rfl⟩

/-- A digit zero alone stands for no seconds. -/
theorem number?_zero_eq_some_iff {n : Nat} : number? ['0'] = some n ↔ n = 0 := by
  have hzero : number? ['0'] = some 0 := by decide
  rw [hzero, Option.some.injEq, eq_comm]

/-- A moment that is read has one of the separators, and its time has the numbers of the digits. -/
theorem exists_time_of_readTime? {sep : Char} {hs ms ss : List Char} {d : Date} {b : DateBound}
    (h : (if sep = ' ' ∨ sep = 'T' then (readTime? hs ms ss).map (moment d) else none) = some b) :
    ∃ t : TimeOfDay, (sep = ' ' ∨ sep = 'T') ∧ number? hs = some t.hour ∧
      number? ms = some t.minute ∧ number? ss = some t.second ∧ b = .moment d t := by
  split at h
  case isTrue hsep =>
    obtain ⟨t, ht, rfl⟩ := Option.map_eq_some_iff.1 h
    obtain ⟨hhour, hminute, hsecond⟩ := readTime?_eq_some_iff.1 ht
    exact ⟨t, hsep, hhour, hminute, hsecond, rfl⟩
  case isFalse => exact absurd h (by simp)

/-- What follows a date is nothing for a day, and a separator and a time for a moment. -/
theorem isIsoText_of_readTail? {front cs : List Char} {d : Date} {b : DateBound}
    (hd : IsIsoDate front d) (h : readTail? d cs = some b) : IsIsoText (front ++ cs) b := by
  unfold readTail? at h
  split at h
  · obtain rfl := Option.some.inj h
    rw [List.append_nil]
    exact .day hd
  case h_2 sep h1 h2 m1 m2 =>
    obtain ⟨t, hsep, hhour, hminute, hsecond, rfl⟩ := exists_time_of_readTime? h
    exact .moment hd hsep ⟨[h1, h2], [m1, m2], isNumeral_of_number? hhour,
      isNumeral_of_number? hminute, .inl ⟨rfl, number?_zero_eq_some_iff.1 hsecond⟩⟩
  case h_3 sep h1 h2 m1 m2 s1 s2 =>
    obtain ⟨t, hsep, hhour, hminute, hsecond, rfl⟩ := exists_time_of_readTime? h
    exact .moment hd hsep ⟨[h1, h2], [m1, m2], isNumeral_of_number? hhour,
      isNumeral_of_number? hminute, .inr ⟨[s1, s2], rfl, isNumeral_of_number? hsecond⟩⟩
  · exact absurd h (by simp)

/-- A separator and a time after a date are read as a moment. -/
theorem readTail?_of_isIsoTime {d : Date} {sep : Char} {cs : List Char} {t : TimeOfDay}
    (hsep : sep = ' ' ∨ sep = 'T') (h : IsIsoTime cs t) :
    readTail? d (sep :: cs) = some (.moment d t) := by
  obtain ⟨hs, ms, hhour, hminute, ⟨rfl, hsecond⟩ | ⟨ss, rfl, hsecond⟩⟩ := h
  · obtain ⟨h1, h2, rfl⟩ := hhour.exists_two
    obtain ⟨m1, m2, rfl⟩ := hminute.exists_two
    have ht := readTime?_eq_some_iff.2
      ⟨hhour.number?, hminute.number?, number?_zero_eq_some_iff.2 hsecond⟩
    show (if sep = ' ' ∨ sep = 'T' then _ else _) = _
    rw [if_pos hsep, ht]
    rfl
  · obtain ⟨h1, h2, rfl⟩ := hhour.exists_two
    obtain ⟨m1, m2, rfl⟩ := hminute.exists_two
    obtain ⟨s1, s2, rfl⟩ := hsecond.exists_two
    have ht := readTime?_eq_some_iff.2 ⟨hhour.number?, hminute.number?, hsecond.number?⟩
    show (if sep = ' ' ∨ sep = 'T' then _ else _) = _
    rw [if_pos hsep, ht]
    rfl

/-- A date in front of other characters is read, and these are read as what follows it. -/
theorem ofChars?_append {cs : List Char} {d : Date} (h : IsIsoDate cs d) (more : List Char) :
    ofChars? (cs ++ more) = readTail? d more := by
  obtain ⟨ys, ms, ds, rfl, hyear, hmonth, hday⟩ := h
  obtain ⟨y1, y2, y3, y4, rfl⟩ := hyear.exists_four
  obtain ⟨m1, m2, rfl⟩ := hmonth.exists_two
  obtain ⟨d1, d2, rfl⟩ := hday.exists_two
  have hd := readDate?_eq_some_iff.2 ⟨hyear.number?, hmonth.number?, hday.number?⟩
  show (readDate? [y1, y2, y3, y4] [m1, m2] [d1, d2]).bind (fun d => readTail? d more) = _
  rw [hd]
  rfl

/-- A bound is read from the characters that denote it, and from no others. -/
theorem ofChars?_eq_some_iff {cs : List Char} {b : DateBound} :
    ofChars? cs = some b ↔ IsIsoText cs b := by
  constructor
  · intro h
    unfold ofChars? at h
    split at h
    case h_1 y1 y2 y3 y4 m1 m2 d1 d2 tail =>
      obtain ⟨d, hd, htail⟩ := Option.bind_eq_some_iff.1 h
      obtain ⟨hyear, hmonth, hday⟩ := readDate?_eq_some_iff.1 hd
      exact isIsoText_of_readTail? ⟨[y1, y2, y3, y4], [m1, m2], [d1, d2], rfl,
        isNumeral_of_number? hyear, isNumeral_of_number? hmonth, isNumeral_of_number? hday⟩ htail
    case h_2 => exact absurd h (by simp)
  · rintro (@⟨cs, d, hd⟩ | @⟨cs, more, sep, d, t, hd, hsep, ht⟩)
    · have hread := ofChars?_append hd []
      rwa [List.append_nil] at hread
    · rw [ofChars?_append hd, readTail?_of_isIsoTime hsep ht]

/-- A bound is read from the texts that denote it. -/
theorem parse?_eq_some_iff {s : String} {b : DateBound} :
    parse? s = some b ↔ IsIsoText s.toList b :=
  ofChars?_eq_some_iff

/-- No bound is read from a text that denotes none. -/
theorem parse?_eq_none_iff {s : String} : parse? s = none ↔ ¬∃ b, IsIsoText s.toList b := by
  simp only [Option.eq_none_iff_forall_ne_some, ne_eq, parse?_eq_some_iff, not_exists]

/-! ## Years -/

/-- A bound that is denoted by a text has a year of at most 9999. -/
theorem year_le_of_isIsoText {cs : List Char} {b : DateBound} (h : IsIsoText cs b) :
    b.date.year ≤ 9999 := by
  obtain ⟨_, -, ys, _, _, -, hyear, -⟩ := h.isIsoDate
  exact hyear.le_of_four

/-- There is a day after every bound that is read. -/
theorem next?_of_parse {s : String} {b : DateBound} (h : parse? s = some b) :
    b.date.next? = some b.date.next := by
  have hyear := year_le_of_isIsoText (parse?_eq_some_iff.1 h)
  have hnext := b.date.year_next_le
  unfold Date.next?
  rw [if_pos]
  unfold Date.lastYear
  omega

end DateBound

end MetricLayer
