import MetricLayer.Proofs.Decimal.RoundingInterval
import MetricLayer.Proofs.Json.Writing

/-!
# Written floating-point numbers

The numeral of a floating-point number is a numeral of data (`wellFormed_numeral`), never an integer
(`isInteger_numeral`), and of no other number (`numeral_injective`). However the digits are laid out
around the point, the numeral is worth the shortest decimal (`magnitude_numeral`), and this
determines the number up to its sign, which is written apart.
-/

namespace MetricLayer

/-- The number that a numeral stands for, without its sign. -/
def Numeral.magnitude (x : Numeral) : ℚ :=
  Nat.ofDigitChars 10 (x.whole ++ x.fraction) 0 * 10 ^ (x.exponent.getD 0 - x.fraction.length)

/-- A zero behind the point of a numeral without fraction does not change its worth. -/
theorem Numeral.magnitude_zero_fraction (negative : Bool) (whole : List Char) :
    (Numeral.mk negative whole ['0'] none).magnitude =
      (Numeral.mk negative whole [] none).magnitude := by
  have hdigits : Nat.ofDigitChars 10 (whole ++ ['0']) 0 = Nat.ofDigitChars 10 whole 0 * 10 := by
    rw [Nat.ofDigitChars_append, ← List.replicate_one, Nat.ofDigitChars_replicate_zero,
      Nat.pow_one, Nat.mul_comm]
  rw [magnitude, magnitude, hdigits, List.append_nil]
  simp

namespace Binary64

open Json (IsDigits IsWhole)

variable {ds : List Char}

/-! ## Digits around the point -/

/-- Digits with a point somewhere, or zeros between them and the point, are worth the digits times
the power of ten. -/
theorem magnitude_positional (negative : Bool) (ds : List Char) (k : Int) :
    (Numeral.mk negative (positional ds k).1 (positional ds k).2 none).magnitude =
      Nat.ofDigitChars 10 ds 0 * 10 ^ k := by
  unfold positional Numeral.magnitude
  split
  case isTrue hk =>
    have hpow : (10 : ℚ) ^ k = 10 ^ k.toNat := by rw [← zpow_natCast, Int.toNat_of_nonneg hk]
    rw [List.append_nil, Nat.ofDigitChars_append, Nat.ofDigitChars_replicate_zero, hpow]
    push_cast
    simp [mul_comm]
  case isFalse hk =>
    have hplaces : (0 : Int) - ((-k).toNat : Int) = k := by omega
    dsimp only
    split
    case isTrue hlt =>
      have hlength : (ds.drop (ds.length - (-k).toNat)).length = (-k).toNat := by
        rw [List.length_drop]
        omega
      dsimp only
      rw [List.take_append_drop, hlength, Option.getD_none, hplaces]
    case isFalse hge =>
      have hlength : (List.replicate ((-k).toNat - ds.length) '0' ++ ds).length = (-k).toNat := by
        rw [List.length_append, List.length_replicate]
        omega
      have hdigits : Nat.ofDigitChars 10
          (['0'] ++ (List.replicate ((-k).toNat - ds.length) '0' ++ ds)) 0 =
            Nat.ofDigitChars 10 ds 0 := by
        rw [List.singleton_append, Nat.ofDigitChars_cons, Nat.ofDigitChars_append,
          Nat.ofDigitChars_replicate_zero]
        simp
      dsimp only
      rw [hdigits, hlength, Option.getD_none, hplaces]

/-- Zeros are digits. -/
theorem isDigit_of_mem_zeros {n : Nat} {c : Char} (h : c ∈ List.replicate n '0') :
    c.isDigit = true := by
  rw [List.eq_of_mem_replicate h]
  decide

/-- The digits before the point have no zero in front of others. -/
theorem isWhole_positional (hds : IsWhole ds) {k : Int} (hzero : ds = ['0'] → k = 0) :
    IsWhole (positional ds k).1 := by
  unfold positional
  split
  case isTrue hk =>
    rcases hds with rfl | ⟨hdigits, hhead⟩
    · rw [hzero rfl]
      exact .inl rfl
    · have hall : ∀ c ∈ ds ++ List.replicate k.toNat '0', c.isDigit = true :=
        List.forall_mem_append.2 ⟨hdigits.2, fun _ => isDigit_of_mem_zeros⟩
      refine .inr ⟨⟨List.append_ne_nil_of_left_ne_nil hdigits.1 _, hall⟩, ?_⟩
      rwa [List.head?_append_of_ne_nil _ hdigits.1]
  case isFalse hk =>
    dsimp only
    split
    case isTrue hlt =>
      rcases hds with rfl | ⟨hdigits, hhead⟩
      · exact absurd (hzero rfl) (by omega)
      · have hpos : ds.length - (-k).toNat ≠ 0 := by omega
        refine .inr ⟨⟨?_, fun c hc => hdigits.2 c (List.mem_of_mem_take hc)⟩, ?_⟩
        · rw [Ne, List.take_eq_nil_iff, not_or]
          exact ⟨hpos, hdigits.1⟩
        · rwa [List.head?_take, if_neg hpos]
    case isFalse => exact .inl rfl

/-- The digits behind the point are digits. -/
theorem isDigits_positional (hds : IsDigits ds) (k : Int) :
    (positional ds k).2 = [] ∨ IsDigits (positional ds k).2 := by
  unfold positional
  split
  case isTrue => exact .inl rfl
  case isFalse hk =>
    dsimp only
    split
    case isTrue hlt =>
      refine .inr ⟨?_, fun c hc => hds.2 c (List.mem_of_mem_drop hc)⟩
      rw [Ne, List.drop_eq_nil_iff]
      omega
    case isFalse =>
      exact .inr ⟨List.append_ne_nil_of_right_ne_nil _ hds.1,
        List.forall_mem_append.2 ⟨fun _ => isDigit_of_mem_zeros, hds.2⟩⟩

/-! ## The layout of a numeral -/

/-- The digits and their power of ten, positional or scientific as `numeral` lays them out. -/
def layout (negative : Bool) (ds : List Char) (k : Int) : Numeral :=
  if -5 ≤ k + ds.length - 1 ∧ k + ds.length - 1 < 16 then
    let (whole, fraction) := positional ds k
    ⟨negative, whole, if fraction.isEmpty then ['0'] else fraction, none⟩
  else ⟨negative, ds.take 1, ds.drop 1, some (k + ds.length - 1)⟩

/-- The numeral of a number is the layout of its shortest decimal. -/
theorem numeral_eq_layout (x : Binary64) :
    x.numeral = layout x.negative (Nat.toDigits 10 (shortest .toEven x.rank).1)
      (shortest .toEven x.rank).2 :=
  rfl

/-- The layout keeps the sign. -/
theorem negative_layout (negative : Bool) (ds : List Char) (k : Int) :
    (layout negative ds k).negative = negative := by
  unfold layout
  split
  · rfl
  · rfl

/-- The layout is worth the digits times the power of ten. -/
theorem magnitude_layout (negative : Bool) (hds : ds ≠ []) (k : Int) :
    (layout negative ds k).magnitude = Nat.ofDigitChars 10 ds 0 * 10 ^ k := by
  unfold layout
  split
  · rw [← magnitude_positional negative ds k]
    dsimp only
    split
    case isTrue hempty =>
      rw [List.isEmpty_iff.1 hempty, Numeral.magnitude_zero_fraction]
    case isFalse => rfl
  · have hlength : 0 < ds.length := List.length_pos_of_ne_nil hds
    have hexponent : k + ds.length - 1 - ((ds.length - 1 : Nat) : Int) = k := by omega
    unfold Numeral.magnitude
    dsimp only
    rw [List.take_append_drop, List.length_drop, Option.getD_some, hexponent]

/-- A layout has a fraction or an exponent. -/
theorem isInteger_layout (negative : Bool) (ds : List Char) (k : Int) :
    (layout negative ds k).isInteger = false := by
  unfold layout
  split
  · dsimp only [Numeral.isInteger]
    split
    case isTrue => rfl
    case isFalse hempty => rw [Bool.eq_false_iff.2 hempty, Bool.false_and]
  · exact Bool.and_false _

/-- A layout of digits without zeros in front is a numeral of data. -/
theorem wellFormed_layout (negative : Bool) (hds : IsWhole ds) {k : Int}
    (hzero : ds = ['0'] → k = 0) : (layout negative ds k).WellFormed := by
  have hdigits : IsDigits ds := IsWhole.isDigits hds
  unfold layout
  split
  · refine ⟨isWhole_positional hds hzero, ?_⟩
    dsimp only
    split
    case isTrue => exact .inr (by simp [IsDigits])
    case isFalse => exact isDigits_positional hdigits k
  · obtain ⟨c, cs, rfl⟩ := List.exists_cons_of_ne_nil hdigits.1
    have hc : IsDigits [c] :=
      ⟨List.cons_ne_nil c [], List.forall_mem_singleton.2 (hdigits.2 c List.mem_cons_self)⟩
    refine ⟨?_, ?_⟩
    · -- One digit in front of the point may be a zero.
      rcases eq_or_ne c '0' with rfl | hne
      · exact .inl rfl
      · exact .inr ⟨hc, by simpa using hne⟩
    · rcases eq_or_ne cs [] with rfl | hne
      · exact .inl rfl
      · exact .inr ⟨hne, fun e he => hdigits.2 e (List.mem_cons_of_mem c he)⟩

/-! ## The numeral of a number -/

/-- The numeral of a number is worth its shortest decimal. -/
theorem magnitude_numeral (x : Binary64) :
    x.numeral.magnitude = magnitude (shortest .toEven x.rank) := by
  rw [numeral_eq_layout, magnitude_layout _ Nat.toDigits_ne_nil, Nat.ofDigitChars_ten_toDigits,
    magnitude]

/-- The numeral of a number is no integer. -/
theorem isInteger_numeral (x : Binary64) : x.numeral.isInteger = false := by
  rw [numeral_eq_layout, isInteger_layout]

/-- The numeral of a number has the form in which numbers are read. -/
theorem wellFormed_numeral (x : Binary64) : x.numeral.WellFormed := by
  rw [numeral_eq_layout]
  refine wellFormed_layout x.negative (Json.isWhole_toDigits _) fun hdigits => ?_
  have hzero : (shortest .toEven x.rank).1 = 0 := by
    rw [← Nat.ofDigitChars_ten_toDigits (n := (shortest .toEven x.rank).1), hdigits]
    decide
  have hmagnitude : magnitude (shortest .toEven x.rank) = magnitude (shortest .toEven 0) := by
    rw [magnitude_shortest_zero, magnitude, hzero, Nat.cast_zero, zero_mul]
  rw [magnitude_shortest_inj hmagnitude, shortest, if_pos rfl]

/-- Distinct numbers have distinct numerals. -/
theorem numeral_injective : Function.Injective numeral := by
  intro x y h
  have hnegative : x.negative = y.negative := by
    rw [← negative_layout x.negative _ _, ← numeral_eq_layout, h, numeral_eq_layout,
      negative_layout]
  have hrank : x.rank = y.rank :=
    magnitude_shortest_inj (by rw [← magnitude_numeral, h, magnitude_numeral])
  obtain ⟨xn, xr, _⟩ := x
  obtain ⟨yn, yr, _⟩ := y
  dsimp only at hnegative hrank
  subst hnegative hrank
  rfl

end Binary64

end MetricLayer
