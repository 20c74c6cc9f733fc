import Mathlib.Algebra.Order.Field.Rat
import Mathlib.Tactic.Positivity
import MetricLayer.Decimal.Shortest

/-!
# Decimals in rounding intervals

Shortest decimals of distinct ranks are distinct numbers (`magnitude_shortest_inj`).

The decimal of a rank lies in the interval of the rank (`contains_shortest`): what is taken of a
grid lies there, and something is taken of the multiples of `10 ^ -324` at the latest, which lie
closer than the ends. The intervals are disjoint (`rank_eq_of_contains`): the upper end of one is
the lower end of the next (`low_succ`), and of two neighbours only the one with the even mantissa
has its ends (`closed_iff`).
-/

namespace MetricLayer.Binary64

/-! ## The ends of an interval -/

/-- A rank is below the leading bit, or it has a shift and bits after the leading one. -/
theorem rank_cases (r : Nat) :
    r < leadingBit ∨ ∃ s t, t < leadingBit ∧ r = (s + 1) * leadingBit + t := by
  rcases Nat.lt_or_ge r leadingBit with hlt | hle
  · exact .inl hlt
  · have hpos : 1 ≤ r / leadingBit := Nat.div_pos hle (by decide)
    refine .inr ⟨r / leadingBit - 1, r % leadingBit, Nat.mod_lt _ (by decide), ?_⟩
    rw [Nat.sub_add_cancel hpos, Nat.div_add_mod']

/-- The interval of a rank below the leading bit. -/
theorem interval_of_lt {r : Nat} (h : r < leadingBit) :
    interval r = ⟨4 * r - 2, 4 * r, 4 * r + 2, r % 2 == 0⟩ := by
  have hmantissa : mantissa r = r := if_pos h
  have hshift : shift r = 0 := by rw [shift, Nat.div_eq_of_lt h]
  simp only [interval, hmantissa, hshift, Nat.shiftLeft_zero, Nat.lt_irrefl, and_false, if_false]

/-- The interval of a rank with a shift. -/
theorem interval_shifted (s : Nat) {t : Nat} (ht : t < leadingBit) :
    interval ((s + 1) * leadingBit + t) =
      ⟨4 * (leadingBit + t) * 2 ^ s - (if t = 0 ∧ 0 < s then 1 else 2) * 2 ^ s,
        4 * (leadingBit + t) * 2 ^ s, (4 * (leadingBit + t) + 2) * 2 ^ s, t % 2 == 0⟩ := by
  have hge : ¬ (s + 1) * leadingBit + t < leadingBit := by
    rw [Nat.succ_mul]
    omega
  have hmod : ((s + 1) * leadingBit + t) % leadingBit = t := by
    rw [Nat.mul_add_mod', Nat.mod_eq_of_lt ht]
  have hdiv : ((s + 1) * leadingBit + t) / leadingBit = s + 1 := by
    rw [Nat.mul_comm, Nat.mul_add_div (by decide), Nat.div_eq_of_lt ht, Nat.add_zero]
  have hmantissa : mantissa ((s + 1) * leadingBit + t) = leadingBit + t := by
    rw [mantissa, if_neg hge, hmod]
  have hshift : shift ((s + 1) * leadingBit + t) = s := by
    rw [shift, hdiv, Nat.add_sub_cancel]
  have hparity : (leadingBit + t) % 2 = t % 2 := by
    rw [Nat.add_mod, show leadingBit % 2 = 0 by decide, Nat.zero_add, Nat.mod_mod]
  have hzero : leadingBit + t = leadingBit ↔ t = 0 := by omega
  simp only [interval, hmantissa, hshift, hparity, hzero, Nat.shiftLeft_eq]
  rw [Nat.add_mul]
  split
  · rfl
  · rfl

/-- The lower end of the next interval is the upper end of this one. -/
theorem low_succ (r : Nat) : (interval (r + 1)).low = (interval r).high := by
  have hone : 1 < leadingBit := by decide
  rcases rank_cases r with hlt | ⟨s, t, ht, rfl⟩
  · rw [interval_of_lt hlt]
    rcases Nat.lt_or_ge (r + 1) leadingBit with hlt' | hge
    · rw [interval_of_lt hlt']
      dsimp only
      omega
    · -- The first rank with a leading bit has the shift of those without.
      have hr : r + 1 = (0 + 1) * leadingBit + 0 := by omega
      rw [hr, interval_shifted 0 (by decide)]
      dsimp only
      rw [if_neg (by decide)]
      omega
  · rw [interval_shifted s ht]
    rcases Nat.lt_or_ge (t + 1) leadingBit with hlt | hge
    · rw [Nat.add_assoc, interval_shifted s hlt]
      dsimp only
      have hend : 4 * (leadingBit + (t + 1)) - 2 = 4 * (leadingBit + t) + 2 := by omega
      rw [if_neg (by simp), ← Nat.sub_mul, hend]
    · -- Beyond the last mantissa the shift grows, so the ends below lie half as far.
      have hr : (s + 1) * leadingBit + t + 1 = (s + 1 + 1) * leadingBit + 0 := by
        rw [Nat.succ_mul (s + 1)]
        omega
      rw [hr, interval_shifted (s + 1) (by decide)]
      dsimp only
      have hend : (4 * (leadingBit + 0) - 1) * 2 = 4 * (leadingBit + t) + 2 := by omega
      rw [if_pos ⟨rfl, Nat.succ_pos s⟩, ← Nat.sub_mul, Nat.pow_succ', ← Nat.mul_assoc, hend]

/-- The ends belong to the intervals of even ranks. -/
theorem closed_iff (r : Nat) : (interval r).closed = true ↔ r % 2 = 0 := by
  rcases rank_cases r with hlt | ⟨s, t, ht, rfl⟩
  · rw [interval_of_lt hlt, beq_iff_eq]
  · have heven : (s + 1) * leadingBit % 2 = 0 := by
      rw [Nat.mul_mod, show leadingBit % 2 = 0 by decide, Nat.mul_zero, Nat.zero_mod]
    rw [interval_shifted s ht, beq_iff_eq, Nat.add_mod, heven, Nat.zero_add, Nat.mod_mod]

/-- The number lies above the lower end, unless it is zero. -/
theorem low_lt_value {r : Nat} (hr : 0 < r) : (interval r).low < (interval r).value := by
  rcases rank_cases r with hlt | ⟨s, t, ht, rfl⟩
  · rw [interval_of_lt hlt]
    dsimp only
    omega
  · have hpos : 0 < 2 ^ s := Nat.two_pow_pos s
    have hlead : 0 < leadingBit := by decide
    rw [interval_shifted s ht]
    dsimp only
    refine Nat.sub_lt (Nat.mul_pos (by omega) hpos) (Nat.mul_pos ?_ hpos)
    split
    · decide
    · decide

/-- The number lies below the upper end. -/
theorem value_lt_high (r : Nat) : (interval r).value < (interval r).high := by
  rcases rank_cases r with hlt | ⟨s, t, ht, rfl⟩
  · rw [interval_of_lt hlt]
    dsimp only
    omega
  · rw [interval_shifted s ht]
    exact Nat.mul_lt_mul_of_pos_right (by omega) (Nat.two_pow_pos s)

/-- An interval has more than one point. -/
theorem low_lt_high (r : Nat) : (interval r).low < (interval r).high := by
  rcases Nat.eq_zero_or_pos r with rfl | hr
  · decide
  · exact (low_lt_value hr).trans (value_lt_high r)

/-- Greater ranks have intervals further up. -/
theorem high_le_low {r r' : Nat} (h : r < r') : (interval r).high ≤ (interval r').low := by
  induction r', h using Nat.le_induction with
  | base => exact (low_succ r).ge
  | succ r' _ ih => exact ih.trans (low_succ r' ▸ (low_lt_high r').le)

/-! ## Points of an interval -/

/-- The rational lies in the interval. -/
def Interval.Contains (x : Interval) (q : ℚ) : Prop :=
  if x.closed then x.low ≤ q ∧ q ≤ x.high else x.low < q ∧ q < x.high

/-- A point of an interval lies between its ends. -/
theorem Interval.Contains.bounds {x : Interval} {q : ℚ} (h : x.Contains q) :
    x.low ≤ q ∧ q ≤ x.high := by
  unfold Interval.Contains at h
  split at h
  · exact h
  · exact ⟨h.1.le, h.2.le⟩

/-- A point of an interval without its ends lies strictly between them. -/
theorem Interval.Contains.strict {x : Interval} {q : ℚ} (h : x.Contains q)
    (hopen : ¬ x.closed = true) : x.low < q ∧ q < x.high := by
  rwa [Interval.Contains, if_neg hopen] at h

/-- The interval of a greater rank does not meet that of a smaller one. -/
theorem not_contains_of_lt {r r' : Nat} (h : r < r') {q : ℚ} (hq : (interval r).Contains q) :
    ¬ (interval r').Contains q := by
  intro hq'
  have hup : q ≤ (interval r).high := hq.bounds.2
  have hdown : (interval r').low ≤ q := hq'.bounds.1
  rcases Nat.lt_or_ge (r + 1) r' with hfar | hnear
  · -- A whole interval lies between the two.
    have hgap : (interval r).high < (interval r').low :=
      (low_succ r ▸ low_lt_high (r + 1)).trans_le (high_le_low hfar)
    have hgap' : ((interval r).high : ℚ) < (interval r').low := Nat.cast_lt.2 hgap
    exact absurd (hup.trans_lt hgap') hdown.not_gt
  · -- Neighbours share one end, which belongs to the even one.
    obtain rfl : r' = r + 1 := by omega
    rw [low_succ] at hdown
    rcases Nat.mod_two_eq_zero_or_one r with heven | hodd
    · have hopen : ¬ (interval (r + 1)).closed = true := by
        rw [closed_iff]
        omega
      exact absurd (low_succ r ▸ (hq'.strict hopen).1) hup.not_gt
    · have hopen : ¬ (interval r).closed = true := by
        rw [closed_iff]
        omega
      exact absurd (hq.strict hopen).2 hdown.not_gt

/-- A point lies in the interval of one rank only. -/
theorem rank_eq_of_contains {r r' : Nat} {q : ℚ} (h : (interval r).Contains q)
    (h' : (interval r').Contains q) : r = r' := by
  rcases Nat.lt_trichotomy r r' with hlt | heq | hgt
  · exact absurd h' (not_contains_of_lt hlt h)
  · exact heq
  · exact absurd h (not_contains_of_lt hgt h')

/-! ## Points of a grid -/

/-- The number that digits and a power of ten make. -/
def magnitude (d : Nat × Int) : ℚ :=
  d.1 * 10 ^ d.2

/-- Intervals are in units of `2 ^ -1076`. -/
def unitBits : Nat := 1076

/-- The whole factor of a multiple of `10 ^ k` in units of the intervals; `gridDen` divides it. -/
def gridNum (k : Int) : Nat :=
  Nat.pow 10 k.toNat <<< unitBits

/-- The whole number that divides a multiple of `10 ^ k`. -/
def gridDen (k : Int) : Nat :=
  Nat.pow 10 (-k).toNat

/-- The multiple of `10 ^ k` with the factor `d` lies in the interval, as `gridPoint?` tests it. -/
def Interval.admits (x : Interval) (k : Int) (d : Nat) : Bool :=
  if x.closed then x.low * gridDen k ≤ d * gridNum k && d * gridNum k ≤ x.high * gridDen k
  else x.low * gridDen k < d * gridNum k && d * gridNum k < x.high * gridDen k

/-- The whole factor is positive. -/
theorem gridNum_pos (k : Int) : 0 < gridNum k := by
  rw [gridNum, Nat.shiftLeft_eq]
  exact Nat.mul_pos (Nat.pow_pos (by decide)) (Nat.two_pow_pos unitBits)

/-- The divisor is positive. -/
theorem gridDen_pos (k : Int) : 0 < gridDen k :=
  Nat.pow_pos (by decide)

/-- A multiple of `10 ^ k` as a fraction of whole numbers. -/
theorem magnitude_scaled (d : Nat) (k : Int) :
    magnitude (d, k) * 2 ^ unitBits = (d * gridNum k : ℕ) / (gridDen k : ℚ) := by
  have hsplit : (10 : ℚ) ^ k = 10 ^ k.toNat / 10 ^ (-k).toNat := by
    rw [← zpow_natCast, ← zpow_natCast, ← zpow_sub₀ (by norm_num)]
    congr 1
    omega
  rw [magnitude, hsplit, gridNum, gridDen, Nat.shiftLeft_eq, Nat.pow_eq, Nat.pow_eq]
  push_cast
  rw [mul_div_assoc', div_mul_eq_mul_div, mul_assoc]

/-- The test says whether the multiple lies in the interval. -/
theorem admits_iff (x : Interval) (k : Int) (d : Nat) :
    x.admits k d = true ↔ x.Contains (magnitude (d, k) * 2 ^ unitBits) := by
  have hpos : (0 : ℚ) < gridDen k := Nat.cast_pos.2 (gridDen_pos k)
  rw [magnitude_scaled, Interval.Contains, Interval.admits]
  split
  · rw [Bool.and_eq_true, decide_eq_true_eq, decide_eq_true_eq, le_div_iff₀ hpos, div_le_iff₀ hpos]
    norm_cast
  · rw [Bool.and_eq_true, decide_eq_true_eq, decide_eq_true_eq, lt_div_iff₀ hpos, div_lt_iff₀ hpos]
    norm_cast

/-- The multiple next below a number. -/
def Interval.lower (x : Interval) (k : Int) : Nat :=
  x.value * gridDen k / gridNum k

/-- What is taken of a grid lies in the interval; nothing is taken only if the multiple next below
the number does not lie there. -/
theorem gridPoint?_cases (tie : Tie) (x : Interval) (k : Int) :
    (gridPoint? tie x k = none ∧ x.admits k (x.lower k) = false) ∨
      ∃ d, gridPoint? tie x k = some d ∧ x.admits k d = true := by
  unfold gridPoint?
  extract_lets a b has d
  split
  case h_1 hlower _ => exact .inl ⟨rfl, hlower⟩
  case h_2 hlower _ => exact .inr ⟨d, rfl, hlower⟩
  case h_3 _ hupper => exact .inr ⟨d + 1, rfl, hupper⟩
  case h_4 hlower hupper =>
    -- Either may be taken, by what is nearer or by the rule for ties.
    have hchoice : ∀ p : Prop, [Decidable p] → ∃ e,
        (if p then some d else some (d + 1)) = some e ∧ x.admits k e = true := by
      intro p _
      split
      · exact ⟨d, rfl, hlower⟩
      · exact ⟨d + 1, rfl, hupper⟩
    refine .inr ?_
    split
    · exact ⟨d, rfl, hlower⟩
    · split
      · exact ⟨d + 1, rfl, hupper⟩
      · cases tie with
        | toEven => exact hchoice (d % 2 = 0)
        | up => exact ⟨d + 1, rfl, hupper⟩

/-- The multiple next below a number lies in its interval if the grid is fine enough. -/
theorem admits_lower {x : Interval} {k : Int} (hlow : x.low < x.value) (hhigh : x.value < x.high)
    (hfine : gridNum k ≤ gridDen k) : x.admits k (x.lower k) = true := by
  have hbelow : x.lower k * gridNum k ≤ x.value * gridDen k := Nat.div_mul_le_self _ _
  have habove : x.value * gridDen k < x.lower k * gridNum k + gridNum k :=
    Nat.lt_div_mul_add (gridNum_pos k)
  have hgap : x.low * gridDen k + gridDen k ≤ x.value * gridDen k := by
    rw [← Nat.succ_mul]
    exact Nat.mul_le_mul_right _ hlow
  have hleft : x.low * gridDen k < x.lower k * gridNum k := by omega
  have hright : x.lower k * gridNum k < x.high * gridDen k :=
    hbelow.trans_lt (Nat.mul_lt_mul_of_pos_right hhigh (gridDen_pos k))
  rw [Interval.admits]
  split
  · rw [decide_eq_true hleft.le, decide_eq_true hright.le, Bool.and_self]
  · rw [decide_eq_true hleft, decide_eq_true hright, Bool.and_self]

/-- A search that comes to a grid fine enough ends in the interval. -/
theorem contains_coarsestPoint {tie : Tie} {x : Interval} {n : Nat} {k : Int} (j : Nat)
    (hj : j < n) (h : x.admits (k - j) (x.lower (k - j)) = true) :
    x.Contains (magnitude (coarsestPoint tie x n k) * 2 ^ unitBits) := by
  -- By induction on the grids left: `j` of them lie in front of the one that is fine enough.
  induction n generalizing k j with
  | zero => exact absurd hj (Nat.not_lt_zero j)
  | succ n ih =>
    rw [coarsestPoint]
    rcases gridPoint?_cases tie x k with ⟨hnone, hlower⟩ | ⟨d, hsome, hadmits⟩
    · rw [hnone]
      cases j with
      | zero => simp [hlower] at h
      | succ j =>
        refine ih j (Nat.lt_of_succ_lt_succ hj) ?_
        rwa [show k - 1 - (j : Int) = k - (j + 1 : Nat) by omega]
    · rw [hsome]
      exact (admits_iff x k d).1 hadmits

/-- Multiples of `10 ^ -324` lie closer than the units of the intervals. -/
theorem gridNum_le_gridDen : gridNum (-324) ≤ gridDen (-324) := by
  decide +kernel

/-- The shortest decimal of zero is zero. -/
theorem magnitude_shortest_zero (tie : Tie) : magnitude (shortest tie 0) = 0 := by
  rw [shortest, if_pos rfl, magnitude, Nat.cast_zero, zero_mul]

/-- The shortest decimal of a rank lies in its interval. -/
theorem contains_shortest (tie : Tie) (r : Nat) :
    (interval r).Contains (magnitude (shortest tie r) * 2 ^ unitBits) := by
  rcases Nat.eq_zero_or_pos r with rfl | hr
  · rw [magnitude_shortest_zero, zero_mul, interval_of_lt (by decide)]
    simp [Interval.Contains]
  · rw [shortest, if_neg hr.ne']
    refine contains_coarsestPoint 632 (by decide) ?_
    exact admits_lower (low_lt_value hr) (value_lt_high r) gridNum_le_gridDen

/-- The shortest decimals of distinct ranks are distinct numbers. -/
theorem magnitude_shortest_inj {tie : Tie} {r r' : Nat}
    (h : magnitude (shortest tie r) = magnitude (shortest tie r')) : r = r' :=
  rank_eq_of_contains (contains_shortest tie r) (h ▸ contains_shortest tie r')

end MetricLayer.Binary64
