import MetricLayer.Compile.CompiledQuery
import MetricLayer.Proofs.Fallible

/-!
# Pagination

The limits of a request are taken over if a query can name them and an offset comes with a limit
(`pagination_eq_ok_iff`). Any other request has a fault, and the first one is its error
(`pagination_eq_error_iff`).
-/

namespace MetricLayer

/-- A number of rows passes its check if a query can name it. -/
theorem checkRows_eq_ok_iff {field : String} {n : Option UInt64} {u : Unit} :
    checkRows field n = .ok u ↔ ∀ k ∈ n, k.toNat ≤ maxRows := by
  unfold checkRows
  cases n with
  | none => simp
  | some k =>
    rw [Option.any_some]
    split
    case isTrue h =>
      refine iff_of_false (by simp) fun hk => ?_
      exact absurd (hk k rfl) (Nat.not_le.2 (of_decide_eq_true h))
    case isFalse h =>
      refine iff_of_true rfl fun k' hk => ?_
      rw [← Option.some.inj hk]
      simpa using h

/-- There is no limit if none is asked for, or zero. -/
theorem effectiveLimit_eq_none_iff {cap limit : Option UInt64} :
    effectiveLimit cap limit = none ↔ limit = none ∨ limit = some 0 := by
  unfold effectiveLimit
  cases limit with
  | none => simp
  | some n =>
    by_cases hn : n = 0
    · simp [hn]
    · simp [hn]

/-- A cap takes the place of a greater number. -/
theorem toNat_capped (cap : Option UInt64) (k : UInt64) :
    (capped cap k).toNat = cap.elim k.toNat fun m => min k.toNat m.toNat := by
  unfold capped
  cases cap with
  | none => rfl
  | some m =>
    dsimp only [Option.elim]
    split
    case isTrue hlt => exact (Nat.min_eq_right (UInt64.lt_iff_toNat_lt.1 hlt).le).symm
    case isFalse hlt =>
      have hle : k.toNat ≤ m.toNat := Nat.le_of_not_lt (mt UInt64.lt_iff_toNat_lt.2 hlt)
      exact (Nat.min_eq_left hle).symm

/-- A cap makes no number greater. -/
theorem toNat_capped_le (cap : Option UInt64) (k : UInt64) : (capped cap k).toNat ≤ k.toNat := by
  rw [toNat_capped]
  cases cap with
  | none => exact le_rfl
  | some m => exact Nat.min_le_left _ _

/-- A limit that takes effect is one that is asked for, under the cap. -/
theorem exists_of_mem_effectiveLimit {cap limit : Option UInt64} :
    ∀ n ∈ effectiveLimit cap limit, ∃ k ∈ limit, n = capped cap k := by
  intro n hn
  unfold effectiveLimit at hn
  cases limit with
  | none => cases hn
  | some k =>
    dsimp only at hn
    split at hn
    · cases hn
    · exact ⟨k, rfl, (Option.some.inj hn).symm⟩

/-- The limit of a query is one that a query can name. -/
theorem effectiveLimit_le {cap limit : Option UInt64} (h : ∀ n ∈ limit, n.toNat ≤ maxRows) :
    ∀ n ∈ effectiveLimit cap limit, n.toNat ≤ maxRows := by
  intro n hn
  obtain ⟨k, hk, rfl⟩ := exists_of_mem_effectiveLimit n hn
  exact (toNat_capped_le cap k).trans (h k hk)

/-- The clause for limits is left out only if there is no limit. -/
theorem Page.limit_clause? (p : Page) : p.clause?.bind (·.limit) = p.limit := by
  obtain ⟨limit, offset⟩ := p
  cases limit with
  | none => cases offset <;> rfl
  | some n => rfl

/-- The clause for limits is left out only if there is no offset. -/
theorem Page.offset_clause? (p : Page) : p.clause?.bind (·.offset) = p.offset := by
  obtain ⟨limit, offset⟩ := p
  cases limit with
  | none => cases offset <;> rfl
  | some n => rfl

/-- The limits of a request are taken over if a query can name them and an offset comes with a limit
other than zero. -/
theorem pagination_eq_ok_iff {cap : Option UInt64} {q : Request} {p : Page} :
    pagination cap q = .ok p ↔
      (∀ n ∈ q.limit, n.toNat ≤ maxRows) ∧ (∀ n ∈ q.offset, n.toNat ≤ maxRows) ∧
        (q.offset ≠ none → ∃ n, q.limit = some n ∧ n ≠ 0) ∧
          p = ⟨effectiveLimit cap q.limit, q.offset⟩ := by
  have hlimit : (∃ n, q.limit = some n ∧ n ≠ 0) ↔ effectiveLimit cap q.limit ≠ none := by
    rw [ne_eq, effectiveLimit_eq_none_iff]
    cases q.limit with
    | none => simp
    | some n => simp
  have hguard : (q.offset.isSome && (effectiveLimit cap q.limit).isNone) = true ↔
      ¬(q.offset ≠ none → effectiveLimit cap q.limit ≠ none) := by
    rw [Bool.and_eq_true, Option.isNone_iff_eq_none, Option.isSome_iff_ne_none, Classical.not_imp,
      not_not]
  unfold pagination
  simp only [bind_eq_ok_iff, checkRows_eq_ok_iff, hlimit]
  split
  case isTrue h =>
    refine iff_of_false (fun ⟨_, _, _, _, h'⟩ => absurd h' (by simp)) fun ⟨_, _, h', _⟩ => ?_
    exact hguard.1 h h'
  case isFalse h =>
    have hoffset := not_not.1 (mt hguard.2 h)
    constructor
    · rintro ⟨_, h1, _, h2, hp⟩
      exact ⟨h1, h2, hoffset, (Except.ok.inj hp).symm⟩
    · rintro ⟨h1, h2, -, rfl⟩
      exact ⟨(), h1, (), h2, rfl⟩

/-! ## Requests with a fault -/

/-- There is a number of rows, and it is greater than a query can name. -/
def TooManyRows (n : Option UInt64) : Prop :=
  ∃ k ∈ n, maxRows < k.toNat

/-- What is wrong with the limits of a request. The limit is looked at first, then the offset, and
then whether the offset comes with a limit other than zero. -/
inductive Request.HasRowFault (q : Request) : RequestError → Prop where
  /-- The limit is too great. -/
  | limit (hlimit : TooManyRows q.limit) : HasRowFault q (.invalidRequest (.tooLarge "limit"))
  /-- The offset is too great, and the limit is not. -/
  | offset (hlimit : ¬TooManyRows q.limit) (hoffset : TooManyRows q.offset) :
    HasRowFault q (.invalidRequest (.tooLarge "offset"))
  /-- There is an offset that is not too great, and no limit or zero. -/
  | alone (hlimit : ¬TooManyRows q.limit) (hoffset : ¬TooManyRows q.offset)
    (hsome : q.offset ≠ none) (hnone : q.limit = none ∨ q.limit = some 0) :
    HasRowFault q .offsetWithoutLimit

/-- A number of rows that is not too great can be named. -/
theorem not_tooManyRows_iff {n : Option UInt64} :
    ¬TooManyRows n ↔ ∀ k ∈ n, k.toNat ≤ maxRows := by
  simp [TooManyRows]

/-- A number of rows that is too great is reported with its field. -/
theorem checkRows_eq_error_iff {field : String} {n : Option UInt64} {e : RequestError} :
    checkRows field n = .error e ↔ TooManyRows n ∧ e = .invalidRequest (.tooLarge field) := by
  have hiff : n.any (fun k => maxRows < k.toNat) = true ↔ TooManyRows n := by
    cases n <;> simp [TooManyRows]
  unfold checkRows
  split
  case isTrue h => simp [hiff.1 h, eq_comm]
  case isFalse h => simp [mt hiff.2 h]

/-- The error of the limits of a request is the first fault that they have. -/
theorem pagination_eq_error_iff {cap : Option UInt64} {q : Request} {e : RequestError} :
    pagination cap q = .error e ↔ q.HasRowFault e := by
  have halone : (if q.offset.isSome && (effectiveLimit cap q.limit).isNone then
      (.error .offsetWithoutLimit : Except RequestError Page)
      else .ok ⟨effectiveLimit cap q.limit, q.offset⟩) = .error e ↔
        (q.offset ≠ none ∧ (q.limit = none ∨ q.limit = some 0)) ∧ e = .offsetWithoutLimit := by
    have hnone : (effectiveLimit cap q.limit).isNone = true ↔ q.limit = none ∨ q.limit = some 0 :=
      Option.isNone_iff_eq_none.trans effectiveLimit_eq_none_iff
    rw [← hnone, ← Option.isSome_iff_ne_none, ← Bool.and_eq_true]
    split
    case isTrue h => simp [h, eq_comm]
    case isFalse h => simp [h]
  unfold pagination
  simp only [bind_eq_error_iff, checkRows_eq_error_iff, checkRows_eq_ok_iff, ← not_tooManyRows_iff,
    halone]
  constructor
  · rintro (⟨hlimit, rfl⟩ | ⟨-, hlimit, ⟨hoffset, rfl⟩ | ⟨-, hoffset, ⟨hsome, hnone⟩, rfl⟩⟩)
    · exact .limit hlimit
    · exact .offset hlimit hoffset
    · exact .alone hlimit hoffset hsome hnone
  · rintro (hlimit | ⟨hlimit, hoffset⟩ | ⟨hlimit, hoffset, hsome, hnone⟩)
    · exact .inl ⟨hlimit, rfl⟩
    · exact .inr ⟨(), hlimit, .inl ⟨hoffset, rfl⟩⟩
    · exact .inr ⟨(), hlimit, .inr ⟨(), hoffset, ⟨hsome, hnone⟩, rfl⟩⟩

end MetricLayer
