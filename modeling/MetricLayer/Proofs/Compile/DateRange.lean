import MetricLayer.Proofs.Calendar.Order
import MetricLayer.Proofs.Compile.Conjunct

/-!
# Which date ranges are accepted

A date range is valid if its texts denote bounds and the lower one does not begin after the upper
one ends (`DateRange.Valid`). Any other has a fault (`DateRange.HasFault`): a text that denotes no
bound, the lower one before the upper one, or else the order of the bounds. The check of a date range
and the step that makes its condition agree on both, since each is a function of the bounds that are
read.
-/

namespace MetricLayer

namespace DateRange

/-- Both texts denote bounds, and the lower bound does not begin after the upper one ends. -/
def Valid (x : DateRange) : Prop :=
  ∃ a b, DateBound.IsIsoText x.lower.toList a ∧ DateBound.IsIsoText x.upper.toList b ∧
    ¬b.last < a.first

/-- What is wrong with a date range. The lower text is looked at first, then the upper one, and then
the order of the bounds. -/
inductive HasFault (x : DateRange) : DateRangeFault → Prop where
  /-- The lower text denotes no bound. -/
  | lower (hlower : ¬∃ a, DateBound.IsIsoText x.lower.toList a) : HasFault x (.notIsoDate x.lower)
  /-- The lower text denotes a bound, and the upper one does not. -/
  | upper {a : DateBound} (hlower : DateBound.IsIsoText x.lower.toList a)
    (hupper : ¬∃ b, DateBound.IsIsoText x.upper.toList b) : HasFault x (.notIsoDate x.upper)
  /-- The lower bound begins after the upper one ends. -/
  | inverted {a b : DateBound} (hlower : DateBound.IsIsoText x.lower.toList a)
    (hupper : DateBound.IsIsoText x.upper.toList b) (horder : b.last < a.first) :
    HasFault x (.inverted x.lower x.upper)

/-- The check of a date range and the step that makes its condition accept it just if it is valid,
and report the fault that it has. -/
structure JudgedRightly (x : DateRange) : Prop where
  /-- The check accepts a valid date range and no other. -/
  check_ok : checkDateRange (some x) = .ok () ↔ x.Valid
  /-- The check reports the fault of a date range. -/
  check_error : ∀ e,
    checkDateRange (some x) = .error e ↔ ∃ fault, x.HasFault fault ∧ e = .invalidDateRange fault
  /-- There is a condition for a valid date range and for no other. -/
  conjunct_ok : ∀ bound sql, (∃ c, x.conjunct bound sql = .ok c) ↔ x.Valid
  /-- The missing condition is reported as the fault of the date range. -/
  conjunct_error : ∀ bound sql e,
    x.conjunct bound sql = .error e ↔ ∃ fault, x.HasFault fault ∧ e = .invalidDateRange fault
  /-- A day after the upper bound is never missing. -/
  conjunct_following : ∀ bound sql text,
    x.conjunct bound sql ≠ .error (.invalidDateRange (.noFollowingDay text))

/-! ## Bounds -/

/-- A bound is missing if the text denotes none, and then the text is reported. -/
theorem bound_eq_error_iff {s : String} {e : RequestError} :
    bound s = .error e ↔
      (¬∃ b, DateBound.IsIsoText s.toList b) ∧ e = .invalidDateRange (.notIsoDate s) := by
  rw [← DateBound.parse?_eq_none_iff]
  unfold bound
  cases DateBound.parse? s with
  | none => simp [eq_comm]
  | some b => simp

/-- A valid date range has bounds, and no other has. -/
theorem exists_bounds_iff {x : DateRange} : (∃ p, x.bounds = .ok p) ↔ x.Valid := by
  unfold Valid
  simp only [Prod.exists, bounds_eq_ok_iff, DateBound.parse?_eq_some_iff, ← DateBound.isAfter_iff,
    Bool.not_eq_true]

/-- The error of the bounds is the fault of the date range. -/
theorem bounds_eq_error_iff {x : DateRange} {e : RequestError} :
    x.bounds = .error e ↔ ∃ fault, x.HasFault fault ∧ e = .invalidDateRange fault := by
  unfold bounds
  simp only [bind_eq_error_iff, bound_eq_error_iff, bound_eq_ok_iff, DateBound.parse?_eq_some_iff]
  constructor
  · rintro (⟨hlower, rfl⟩ | ⟨a, hlower, ⟨hupper, rfl⟩ | ⟨b, hupper, h⟩⟩)
    · exact ⟨_, .lower hlower, rfl⟩
    · exact ⟨_, .upper hlower hupper, rfl⟩
    · split at h
      case isTrue hafter =>
        have horder := DateBound.isAfter_iff.1 hafter
        exact ⟨_, .inverted hlower hupper horder, (Except.error.inj h).symm⟩
      case isFalse => exact absurd h (by simp)
  · rintro ⟨_, hlower | ⟨hlower, hupper⟩ | ⟨hlower, hupper, horder⟩, rfl⟩
    · exact .inl ⟨hlower, rfl⟩
    · exact .inr ⟨_, hlower, .inl ⟨hupper, rfl⟩⟩
    · have hafter := DateBound.isAfter_iff.2 horder
      exact .inr ⟨_, hlower, .inr ⟨_, hupper, if_pos hafter⟩⟩

end DateRange

/-! ## The check and the condition -/

/-- The dates are those of the Gregorian calendar, and the times those of a day whose last minute may
have a leap second. A date range is accepted, by its check and for its condition, just if both of its
texts denote bounds made of these and the lower bound does not begin after the upper one ends; what
fails first is reported. -/
theorem dateRange_judgedRightly :
    (∀ y m d, (∃ t : Date, t.year = y ∧ t.month = m ∧ t.day = d) ↔ IsGregorian y m d) ∧
    (∀ h m s, (∃ t : TimeOfDay, t.hour = h ∧ t.minute = m ∧ t.second = s) ↔
      h ≤ 23 ∧ m ≤ 59 ∧ s ≤ 60) ∧
    ∀ x : DateRange, x.JudgedRightly := by
  refine ⟨fun y m d => Date.exists_iff, fun h m s => TimeOfDay.exists_iff, fun x => ?_⟩
  have herror : ∀ bound sql e, x.conjunct bound sql = .error e ↔
      ∃ fault, x.HasFault fault ∧ e = .invalidDateRange fault := by
    intro bound sql e
    rw [DateRange.conjunct_eq, map_eq_error_iff, DateRange.bounds_eq_error_iff]
  refine ⟨?_, fun e => ?_, fun bound sql => ?_, herror, fun bound sql text h => ?_⟩
  · rw [checkDateRange_eq_ok_iff, ← DateRange.exists_bounds_iff]
    simp only [Option.mem_some_iff, forall_eq']
  · rw [← DateRange.bounds_eq_error_iff]
    exact map_eq_error_iff
  · rw [DateRange.conjunct_eq, exists_map_eq_ok_iff, DateRange.exists_bounds_iff]
  · -- The fault is none of the three that a date range may have.
    obtain ⟨fault, hfault, hsame⟩ := (herror _ _ _).1 h
    obtain rfl := RequestError.invalidDateRange.inj hsame
    cases hfault

end MetricLayer
