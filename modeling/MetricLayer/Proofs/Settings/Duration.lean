import Mathlib.Data.List.Induction
import MetricLayer.Proofs.Items
import MetricLayer.Settings.Text

/-!
# The text of a duration

Which texts are durations, said without their reader: a number below `2^64` in decimal digits, with
any zeros before them, and a unit right behind it or nothing, between blanks (`Duration.Spells`). A
duration is as long as the number of its units says, in nanoseconds. `Duration.parse_spelled` says
that the reader takes just these texts, and that the error for any other names it without the blanks
around it.
-/

namespace MetricLayer

/-! ## Blanks at the ends -/

/-- The second characters are the first without the blanks at both ends. -/
structure Text.IsTrimmed (cs ds : List Char) : Prop where
  /-- Only blanks are left out, and only at the ends. -/
  around : ∃ before after, cs = before ++ (ds ++ after) ∧ ∀ c ∈ before ++ after, isBlank c = true
  /-- No blank is left at the beginning. -/
  head : ∀ c ∈ ds.head?, isBlank c = false
  /-- No blank is left at the end. -/
  last : ∀ c ∈ ds.getLast?, isBlank c = false

/-- Trimming leaves out the blanks at both ends. -/
theorem Text.isTrimmed_trimChars (cs : List Char) : IsTrimmed cs (trimChars cs) := by
  obtain ⟨after, hafter, hblanks⟩ : ∃ after,
      cs.dropWhile isBlank = trimChars cs ++ after ∧ ∀ c ∈ after, isBlank c = true := by
    refine ⟨((cs.dropWhile isBlank).reverse.takeWhile isBlank).reverse, ?_, fun c hc => ?_⟩
    · rw [trimChars, ← List.reverse_append, List.takeWhile_append_dropWhile, List.reverse_reverse]
    · exact List.mem_takeWhile_imp (List.mem_reverse.1 hc)
  constructor
  case around =>
    refine ⟨cs.takeWhile isBlank, after, ?_, ?_⟩
    · rw [← hafter, List.takeWhile_append_dropWhile]
    · rw [List.forall_mem_append]
      exact ⟨fun c hc => List.mem_takeWhile_imp hc, hblanks⟩
  case head =>
    -- The first character that is left was so before the end was trimmed.
    intro c hc
    have hmem : c ∈ (cs.dropWhile isBlank).head? := by
      rw [hafter, List.head?_append, Option.mem_def.1 hc]
      rfl
    exact eq_false_of_mem_head?_dropWhile c hmem
  case last =>
    rw [trimChars, List.getLast?_reverse]
    exact eq_false_of_mem_head?_dropWhile

/-! ## Digits -/

/-- The characters are the decimal digits of a number, perhaps with zeros before them. -/
def IsDecimal (cs : List Char) (n : Nat) : Prop :=
  ∃ zeros, cs = List.replicate zeros '0' ++ Nat.toDigits 10 n

/-- A digit is that of a number below ten. -/
theorem exists_digitChar {c : Char} (h : c.isDigit = true) : ∃ d < 10, c = Nat.digitChar d := by
  have hbounds : 48 ≤ c.toNat ∧ c.toNat ≤ 57 := by
    simp only [Char.isDigit, Bool.and_eq_true, decide_eq_true_eq] at h
    exact h
  refine ⟨c.toNat - 48, by omega, Char.toNat_inj.1 ?_⟩
  rw [Nat.toNat_digitChar_of_lt_ten (by omega)]
  omega

/-- Digits are the decimal digits of what they are worth. -/
theorem isDecimal_ofDigitChars {cs : List Char} (hne : cs ≠ [])
    (h : ∀ c ∈ cs, c.isDigit = true) : IsDecimal cs (Nat.ofDigitChars 10 cs 0) := by
  -- From the right end, since that is where a digit is added to the number of those before it.
  induction cs using List.reverseRecOn with
  | nil => exact absurd rfl hne
  | append_singleton cs c ih =>
    rw [List.forall_mem_append, List.forall_mem_singleton] at h
    obtain ⟨d, hd, rfl⟩ := exists_digitChar h.2
    have hvalue : Nat.ofDigitChars 10 (cs ++ [d.digitChar]) 0 =
        10 * Nat.ofDigitChars 10 cs 0 + d := by
      rw [Nat.ofDigitChars_append, Nat.ofDigitChars_cons, Nat.ofDigitChars_nil,
        Nat.toNat_digitChar_of_lt_ten hd]
      simp
    have hlast : Nat.toDigits 10 d = [d.digitChar] := Nat.toDigits_of_lt_base hd
    rw [hvalue]
    rcases eq_or_ne cs [] with rfl | hcs
    · exact ⟨0, by simp [hlast]⟩
    obtain ⟨zeros, hzeros⟩ := ih hcs h.1
    generalize Nat.ofDigitChars 10 cs 0 = m at hzeros ⊢
    rcases Nat.eq_zero_or_pos m with rfl | hm
    -- A zero before another digit is one more of those in front.
    · refine ⟨zeros + 1, ?_⟩
      rw [hzeros, Nat.mul_zero, Nat.zero_add, hlast, List.replicate_succ']
      rfl
    · refine ⟨zeros, ?_⟩
      rw [hzeros, ← Nat.toDigits_append_toDigits (by decide) hm hd, hlast, List.append_assoc]

/-- Decimal digits are digits that are worth the number, at least one. -/
theorem isDecimal_iff {cs : List Char} {n : Nat} :
    IsDecimal cs n ↔ cs ≠ [] ∧ (∀ c ∈ cs, c.isDigit = true) ∧ Nat.ofDigitChars 10 cs 0 = n := by
  constructor
  · rintro ⟨zeros, rfl⟩
    refine ⟨List.append_ne_nil_of_right_ne_nil _ Nat.toDigits_ne_nil, ?_, ?_⟩
    · rw [List.forall_mem_append]
      refine ⟨fun c hc => ?_, fun c hc => Nat.isDigit_of_mem_toDigits (by decide) (by decide) hc⟩
      rw [List.eq_of_mem_replicate hc]
      decide
    · rw [Nat.ofDigitChars_append, Nat.ofDigitChars_replicate_zero, Nat.mul_zero,
        Nat.ofDigitChars_ten_toDigits]
  · rintro ⟨hne, hdigits, rfl⟩
    exact isDecimal_ofDigitChars hne hdigits

/-! ## Units -/

/-- A unit of time. -/
inductive TimeUnit where
  | millisecond | second | minute | hour
  deriving DecidableEq, Repr

/-- How long a unit is. -/
def TimeUnit.nanoseconds : TimeUnit → Nat
  | millisecond => 1000000
  | second => 1000000000
  | minute => 60 * 1000000000
  | hour => 3600 * 1000000000

/-- The characters write a unit: its sign, or nothing for seconds. -/
inductive TimeUnit.IsWritten : List Char → TimeUnit → Prop
  | milliseconds : IsWritten ['m', 's'] millisecond
  | seconds : IsWritten ['s'] second
  | unmarked : IsWritten [] second
  | minutes : IsWritten ['m'] minute
  | hours : IsWritten ['h'] hour

/-- A unit does not begin with a digit. -/
theorem TimeUnit.IsWritten.isDigit_eq_false {cs : List Char} {u : TimeUnit} (h : u.IsWritten cs) :
    ∀ c ∈ cs.head?, c.isDigit = false := by
  cases h with
  | unmarked => simp
  | _ => simp [Char.isDigit]

namespace Duration

variable {cs : List Char} {n : Nat} {d d' : Duration}

/-- How long a duration is, in nanoseconds. -/
def inNanoseconds (d : Duration) : Nat :=
  d.seconds * 1000000000 + d.nanoseconds

/-- Durations that are equally long are equal. -/
theorem eq_of_inNanoseconds_eq (h : d.inNanoseconds = d'.inNanoseconds) : d = d' := by
  obtain ⟨s, n, hn⟩ := d
  obtain ⟨s', n', hn'⟩ := d'
  unfold inNanoseconds at h
  obtain rfl : s = s' := by dsimp only at h; omega
  obtain rfl : n = n' := Nat.add_left_cancel h
  rfl

/-- The length of some milliseconds. -/
theorem inNanoseconds_ofMilliseconds (n : Nat) :
    (ofMilliseconds n).inNanoseconds = n * 1000000 := by
  unfold inNanoseconds ofMilliseconds
  dsimp only
  omega

/-- The length of some seconds. -/
theorem inNanoseconds_ofSeconds (n : Nat) : (ofSeconds n).inNanoseconds = n * 1000000000 := by
  unfold inNanoseconds ofSeconds
  exact Nat.add_zero _

/-- Some units make a duration if the unit is written, and it is as long as they are. -/
theorem exists_ofUnits?_of_isWritten {u : TimeUnit} (h : u.IsWritten cs) (n : Nat) :
    ∃ d, ofUnits? n cs = some d ∧ d.inNanoseconds = n * u.nanoseconds := by
  cases h with
  | milliseconds => exact ⟨_, rfl, inNanoseconds_ofMilliseconds n⟩
  | seconds => exact ⟨_, rfl, inNanoseconds_ofSeconds n⟩
  | unmarked => exact ⟨_, rfl, inNanoseconds_ofSeconds n⟩
  | minutes =>
    refine ⟨_, rfl, ?_⟩
    rw [inNanoseconds_ofSeconds, TimeUnit.nanoseconds, Nat.mul_comm 60 n, Nat.mul_assoc]
  | hours =>
    refine ⟨_, rfl, ?_⟩
    rw [inNanoseconds_ofSeconds, TimeUnit.nanoseconds, Nat.mul_comm 3600 n, Nat.mul_assoc]

/-- Some units make a duration just if the unit is written. -/
theorem exists_isWritten_of_ofUnits? (h : ofUnits? n cs = some d) :
    ∃ u : TimeUnit, u.IsWritten cs := by
  unfold ofUnits? at h
  split at h
  case h_1 => exact ⟨_, .milliseconds⟩
  case h_2 => exact ⟨_, .unmarked⟩
  case h_3 => exact ⟨_, .seconds⟩
  case h_4 => exact ⟨_, .minutes⟩
  case h_5 => exact ⟨_, .hours⟩
  case h_6 => cases h

/-- Some units make the duration that is as long as they are, just if the unit is written. -/
theorem ofUnits?_eq_some_iff :
    ofUnits? n cs = some d ↔
      ∃ u : TimeUnit, u.IsWritten cs ∧ d.inNanoseconds = n * u.nanoseconds := by
  constructor
  · intro h
    obtain ⟨u, hu⟩ := exists_isWritten_of_ofUnits? h
    obtain ⟨d', hd', hlong⟩ := exists_ofUnits?_of_isWritten hu n
    obtain rfl : d = d' := Option.some.inj (h.symm.trans hd')
    exact ⟨u, hu, hlong⟩
  · rintro ⟨u, hu, hlong⟩
    obtain ⟨d', hd', hlong'⟩ := exists_ofUnits?_of_isWritten hu n
    rwa [eq_of_inNanoseconds_eq (hlong.trans hlong'.symm)]

/-! ## Texts -/

/-- The characters spell a duration: a number below `2^64` in decimal digits, and the sign of a unit
right behind it or nothing. The duration is as long as that number of units. -/
def Spells (cs : List Char) (d : Duration) : Prop :=
  ∃ digits unit n u, cs = digits ++ unit ∧ IsDecimal digits n ∧ n < UInt64.size ∧
    TimeUnit.IsWritten unit u ∧ d.inNanoseconds = n * u.nanoseconds

/-- The characters of a duration are those that spell it. -/
theorem ofChars?_eq_some_iff : ofChars? cs = some d ↔ Spells cs d := by
  constructor
  · intro h
    unfold ofChars? at h
    dsimp only at h
    split at h
    · cases h
    case isFalse hnumber =>
      rw [Bool.or_eq_true, not_or, List.isEmpty_iff, decide_eq_true_eq, Nat.not_le] at hnumber
      obtain ⟨u, hu, hlong⟩ := ofUnits?_eq_some_iff.1 h
      have hdigits := isDecimal_iff.2 ⟨hnumber.1, fun c hc => List.mem_takeWhile_imp hc, rfl⟩
      exact ⟨_, _, _, u, List.takeWhile_append_dropWhile.symm, hdigits, hnumber.2, hu, hlong⟩
  · rintro ⟨digits, unit, n, u, rfl, hdigits, hn, hu, hlong⟩
    obtain ⟨hne, hall, hvalue⟩ := isDecimal_iff.1 hdigits
    -- No unit begins with a digit, so the run that the reader takes is the number as it was written.
    obtain ⟨htake, hdrop⟩ := run_append hall hu.isDigit_eq_false
    have hnumber : ¬(digits.isEmpty || decide (UInt64.size ≤ n)) = true := by
      rw [Bool.or_eq_true, not_or, List.isEmpty_iff, decide_eq_true_eq, Nat.not_le]
      exact ⟨hne, hn⟩
    unfold ofChars?
    dsimp only
    rw [htake, hdrop, hvalue, if_neg hnumber]
    exact ofUnits?_eq_some_iff.2 ⟨u, hu, hlong⟩

/-- A text without the blanks at both ends is that of a duration of fewer than `2^64` seconds just
if it spells this; a text that spells no duration is the error that names it, and no other is
an error. -/
theorem parse_spelled (s : String) :
    Text.IsTrimmed s.toList (Text.trim s).toList ∧
      (∀ d, d.seconds < UInt64.size → (parse s = .ok d ↔ Spells (Text.trim s).toList d)) ∧
      ∀ e, parse s = .error e ↔
        e = .invalidDuration (Text.trim s) ∧ ¬∃ d, Spells (Text.trim s).toList d := by
  have htrim : (Text.trim s).toList = Text.trimChars s.toList := String.toList_ofList
  rw [htrim]
  refine ⟨Text.isTrimmed_trimChars _, fun d _ => ?_, fun e => ?_⟩
  · rw [← ofChars?_eq_some_iff]
    unfold parse
    cases ofChars? (Text.trimChars s.toList) with
    | none => simp
    | some d' => simp
  · simp only [← ofChars?_eq_some_iff]
    unfold parse
    cases ofChars? (Text.trimChars s.toList) with
    | none => simp [eq_comm]
    | some d' => simp

/-- Seven minutes, with zeros before the number and blanks around. -/
theorem parse_spelled_paddedMinutes :
    (420 < UInt64.size) ∧ Spells (Text.trim "\u3000 007m\n").toList (ofSeconds 420) ∧
      parse "\u3000 007m\n" = .ok (ofSeconds 420) := by
  have hspells : Spells (Text.trim "\u3000 007m\n").toList (ofSeconds 420) :=
    ⟨['0', '0', '7'], ['m'], 7, .minute, by decide, ⟨2, by decide⟩, by decide, .minutes, by decide⟩
  exact ⟨by decide, hspells, ((parse_spelled _).2.1 (ofSeconds 420) (by decide)).2 hspells⟩

end Duration

end MetricLayer
