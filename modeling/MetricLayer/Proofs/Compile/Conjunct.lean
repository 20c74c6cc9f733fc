import MetricLayer.Compile.Conjunct
import MetricLayer.Proofs.Calendar.IsoText
import MetricLayer.Proofs.Fallible
import MetricLayer.Proofs.Sql.Placeholders

/-!
# The condition and the values of a filter

What the conjuncts of a selection are, said without the steps that make them. The condition of a
filter depends on its operator and the number of its values only (`FilterOperator.condition`), that
of a date range on the kind of its upper bound only (`DateBound.condition`); the values go into the
list of parameters (`Filter.parameters`, `DateRange.parameters`). `Filter.conjunct_eq` and
`DateRange.conjunct_eq` are the specifications of the two steps, and `Selection.conjuncts_eq_ok_iff`
is that of the whole.
-/

namespace MetricLayer

/-- An arity admits a number of values. -/
def Arity.Admits : Arity → Nat → Prop
  | exactly n, k => k = n
  | atLeast n, k => n ≤ k

/-- The number of values that an operator takes. -/
def FilterOperator.arity : FilterOperator → Arity
  | .isIn => .atLeast 1
  | _ => .exactly 1

/-- Whether an arity admits a number of values can be decided. -/
instance (a : Arity) (k : Nat) : Decidable (a.Admits k) :=
  match a with
  | .exactly n => inferInstanceAs (Decidable (k = n))
  | .atLeast n => inferInstanceAs (Decidable (n ≤ k))

/-- A filter has as many values as its operator takes. -/
def Filter.Fits (f : Filter) : Prop :=
  f.operator.arity.Admits f.values.length

/-- Whether a filter has as many values as its operator takes can be decided. -/
instance (f : Filter) : Decidable f.Fits :=
  inferInstanceAs (Decidable (f.operator.arity.Admits f.values.length))

/-- The condition of an operator on an operand, for `count` values after `bound` others. -/
def FilterOperator.condition (bound count : Nat) (operand : Expr) : FilterOperator → Expr
  | .eq => .binary .eq operand (.param (bound + 1))
  | .ne => .binary .ne operand (.param (bound + 1))
  | .gt => .binary .gt operand (.param (bound + 1))
  | .gte => .binary .gte operand (.param (bound + 1))
  | .lt => .binary .lt operand (.param (bound + 1))
  | .lte => .binary .lte operand (.param (bound + 1))
  | .isIn => .isIn false operand ((List.range' (bound + 1) count).map .param)
  | .contains => .like false true '\\' operand (.param (bound + 1))

/-- The condition of a filter on an operand, after `bound` values. -/
def Filter.condition (bound : Nat) (operand : Expr) (f : Filter) : Expr :=
  f.operator.condition bound f.values.length operand

/-- The parameters of a filter: its values, or the pattern for a text that is looked for. -/
def Filter.parameters (f : Filter) : List Value :=
  match f.operator with
  | .contains => f.values.map fun v => .text ("%" ++ Text.likeEscaped v.asText ++ "%")
  | _ => f.values

/-- A filter has as many parameters as values. -/
@[simp] theorem Filter.length_parameters (f : Filter) : f.parameters.length = f.values.length := by
  unfold Filter.parameters
  split
  · rw [List.length_map]
  · rfl

/-- The condition that a raw timestamp lies below an upper bound and not below the lower one, after
`bound` values. -/
def DateBound.condition (bound : Nat) (sql : String) : DateBound → Expr
  | .day _ =>
    .binary .and (.binary .gte (.raw sql) (.param (bound + 1)))
      (.binary .lt (.raw sql) (.param (bound + 2)))
  | .moment _ _ => .between false (.raw sql) (.param (bound + 1)) (.param (bound + 2))

/-- The parameters of a date range: its lower bound as written, and the day after an upper bound
that is a day, or else the upper bound as written. -/
def DateRange.parameters (x : DateRange) : DateBound → List Value
  | .day d => [.text x.lower, .text d.next.text]
  | .moment _ _ => [.text x.lower, .text x.upper]

/-- A date range has two parameters. -/
@[simp] theorem DateRange.length_parameters (x : DateRange) (upper : DateBound) :
    (x.parameters upper).length = 2 := by
  cases upper with
  | day d => rfl
  | moment d t => rfl

/-! ## One filter -/

/-- The placeholders after `bound` values are numbered from `bound + 1` on. -/
theorem placeholdersFrom_eq (bound : Nat) (vs : List Value) :
    placeholdersFrom bound vs = (List.range' (bound + 1) vs.length).map .param := by
  induction vs generalizing bound with
  | nil => rfl
  | cons v vs ih => rw [placeholdersFrom, ih, List.length_cons, List.range'_succ, List.map_cons]

/-- The step of an operator that takes one value, where `g` says what its parameters are. -/
theorem Filter.map_onlyValue_eq {f : Filter} {e : Expr} {g : Value → List Value}
    (hf : f.operator.arity = .exactly 1) (hg : ∀ v, f.values = [v] → g v = f.parameters) :
    f.onlyValue.map (fun v => (⟨e, g v⟩ : Conjunct)) =
      if f.Fits then .ok ⟨e, f.parameters⟩
      else .error (.arity f.operator.name f.operator.arity f.values.length) := by
  unfold Filter.onlyValue
  split
  case h_1 v hv =>
    have hfits : f.Fits := by
      unfold Filter.Fits
      rw [hf, hv]
      exact rfl
    rw [if_pos hfits, ← hg v hv]
    rfl
  case h_2 hne =>
    have hfits : ¬ f.Fits := by
      unfold Filter.Fits
      rw [hf]
      intro h1
      obtain ⟨v, hv⟩ := List.length_eq_one_iff.1 h1
      exact hne v hv
    rw [if_neg hfits, hf]
    rfl

/-- The step of a membership. -/
theorem Filter.membership_eq {f : Filter} (hf : f.operator = .isIn) (bound : Nat) (operand : Expr) :
    f.membership bound operand =
      if f.Fits then .ok ⟨f.condition bound operand, f.parameters⟩
      else .error (.arity f.operator.name f.operator.arity f.values.length) := by
  have hfits : f.Fits ↔ 1 ≤ f.values.length := by
    unfold Filter.Fits
    rw [hf]
    exact Iff.rfl
  unfold Filter.membership
  by_cases hv : f.values = []
  · have hnot : ¬ f.Fits := by
      rw [hfits, hv]
      exact Nat.not_succ_le_zero 0
    rw [if_pos (by simp [hv]), if_neg hnot, hf, hv]
    rfl
  · have hpos := List.length_pos_of_ne_nil hv
    rw [if_neg (by simpa using hv), if_pos (hfits.2 hpos), placeholdersFrom_eq]
    unfold Filter.condition Filter.parameters
    rw [hf]
    rfl

/-- The conjunct of a filter: its condition and its parameters, if it has as many values as its
operator takes. -/
theorem Filter.conjunct_eq (f : Filter) (bound : Nat) (operand : Expr) :
    f.conjunct bound operand =
      if f.Fits then .ok ⟨f.condition bound operand, f.parameters⟩
      else .error (.arity f.operator.name f.operator.arity f.values.length) := by
  obtain ⟨id, op, vs⟩ := f
  cases op with
  | isIn => exact Filter.membership_eq rfl bound operand
  | contains =>
    refine Filter.map_onlyValue_eq rfl ?_
    rintro v rfl
    rfl
  | _ => exact Filter.map_onlyValue_eq rfl fun v hv => hv.symm

/-! ## One date range -/

/-- A bound of a date range is that which its text says. -/
theorem DateRange.bound_eq_ok_iff {s : String} {b : DateBound} :
    DateRange.bound s = .ok b ↔ DateBound.parse? s = some b := by
  unfold DateRange.bound
  split
  case h_1 c h => rw [h, Except.ok.injEq, Option.some.injEq]
  case h_2 h => simp [h]

/-- The bounds of a date range are those that its texts say, if the lower one is not after the upper
one. -/
theorem DateRange.bounds_eq_ok_iff {x : DateRange} {a b : DateBound} :
    x.bounds = .ok (a, b) ↔
      DateBound.parse? x.lower = some a ∧ DateBound.parse? x.upper = some b ∧
        a.isAfter b = false := by
  unfold DateRange.bounds
  rw [bind_eq_ok_iff]
  constructor
  · rintro ⟨a', ha, h⟩
    obtain ⟨b', hb, h⟩ := bind_eq_ok_iff.1 h
    split at h
    case isTrue => exact absurd h (by simp)
    case isFalse hab =>
      obtain ⟨rfl, rfl⟩ := Prod.mk.inj (Except.ok.inj h)
      exact ⟨bound_eq_ok_iff.1 ha, bound_eq_ok_iff.1 hb, by simpa using hab⟩
  · rintro ⟨ha, hb, hab⟩
    refine ⟨a, bound_eq_ok_iff.2 ha, bind_eq_ok_iff.2 ⟨b, bound_eq_ok_iff.2 hb, ?_⟩⟩
    rw [hab, if_neg (by simp)]

/-- There is a day after an upper bound that is a day. -/
theorem DateRange.following_eq {x : DateRange} {d : Date}
    (h : DateBound.parse? x.upper = some (.day d)) : x.following d = .ok d.next := by
  have hnext : d.next? = some d.next := DateBound.next?_of_parse h
  unfold DateRange.following
  rw [hnext]

/-- The conjunct of a date range: the condition of its upper bound and its parameters, if its bounds
are in order. -/
theorem DateRange.conjunct_eq (x : DateRange) (bound : Nat) (sql : String) :
    x.conjunct bound sql =
      x.bounds.map fun p => ⟨p.2.condition bound sql, x.parameters p.2⟩ := by
  unfold DateRange.conjunct
  cases hx : x.bounds with
  | error e => rfl
  | ok p =>
    obtain ⟨a, b⟩ := p
    cases b with
    | day d =>
      have hd := DateRange.following_eq (DateRange.bounds_eq_ok_iff.1 hx).2.1
      show x.following d >>= _ = _
      rw [hd]
      rfl
    | moment d t => rfl

/-- A date range passes its check if its bounds are in order. -/
theorem checkDateRange_eq_ok_iff {x : Option DateRange} {u : Unit} :
    checkDateRange x = .ok u ↔ ∀ y ∈ x, ∃ p, y.bounds = .ok p := by
  cases x with
  | none => simp [checkDateRange]
  | some y => simp [checkDateRange, map_eq_ok_iff]

/-! ## All conjuncts -/

/-- The conjuncts of filters on their dimensions, after `bound` values. -/
def statedFilters (bound : Nat) : List (Filter × Dimension) → List Conjunct
  | [] => []
  | (f, d) :: fs =>
    ⟨f.condition bound d.operand.expr, f.parameters⟩ :: statedFilters (bound + f.values.length) fs

/-- The conjunct of the date range of a time dimension, if it has one, after `bound` values. -/
def SelectedTime.statedRange (bound : Nat) (t : SelectedTime) : List Conjunct :=
  match t.clause.dateRange with
  | none => []
  | some x =>
    match DateBound.parse? x.upper with
    | some b => [⟨b.condition bound t.dimension.sql, x.parameters b⟩]
    | none => []

/-- Without a date range there is no conjunct for one. -/
theorem SelectedTime.statedRange_of_none {t : SelectedTime} (h : t.clause.dateRange = none)
    (bound : Nat) : t.statedRange bound = [] := by
  unfold SelectedTime.statedRange
  simp only [h]

/-- The conjunct of a date range whose upper bound can be read. -/
theorem SelectedTime.statedRange_of_some {t : SelectedTime} {x : DateRange} {b : DateBound}
    (h : t.clause.dateRange = some x) (hb : DateBound.parse? x.upper = some b) (bound : Nat) :
    t.statedRange bound = [⟨b.condition bound t.dimension.sql, x.parameters b⟩] := by
  unfold SelectedTime.statedRange
  simp only [h, hb]

/-- The conjuncts of a selection: those of its filters in order, and then that of its date range. -/
def Selection.statedConjuncts (s : Selection) : List Conjunct :=
  statedFilters 0 s.filters ++
    s.time.toList.flatMap (·.statedRange (boundValues (statedFilters 0 s.filters)).length)

/-- The conjuncts of filters are made if every filter has as many values as its operator takes. -/
theorem filterConjuncts_eq_ok_iff {bound : Nat} {fs : List (Filter × Dimension)}
    {cs : List Conjunct} :
    filterConjuncts bound fs = .ok cs ↔
      (∀ p ∈ fs, p.1.Fits) ∧ cs = statedFilters bound fs := by
  induction fs generalizing bound cs with
  | nil => simp [filterConjuncts, statedFilters, eq_comm]
  | cons p fs ih =>
    obtain ⟨f, d⟩ := p
    rw [filterConjuncts, bind_eq_ok_iff, List.forall_mem_cons, Filter.conjunct_eq]
    constructor
    · rintro ⟨c, hc, h⟩
      obtain ⟨cs', hcs, h⟩ := bind_eq_ok_iff.1 h
      obtain ⟨hfits, rfl⟩ := ih.1 hcs
      split at hc
      case isTrue hf =>
        obtain rfl := Except.ok.inj hc
        rw [Filter.length_parameters] at h
        exact ⟨⟨hf, hfits⟩, (Except.ok.inj h).symm⟩
      case isFalse => exact absurd hc (by simp)
    · rintro ⟨⟨hf, hfits⟩, rfl⟩
      refine ⟨_, if_pos hf, bind_eq_ok_iff.2 ⟨_, ih.2 ⟨hfits, rfl⟩, ?_⟩⟩
      rw [Filter.length_parameters]
      rfl

/-- The conjunct of a date range is made if its bounds are in order. -/
theorem rangeConjuncts_eq_ok_iff {bound : Nat} {t : Option SelectedTime} {cs : List Conjunct} :
    rangeConjuncts bound t = .ok cs ↔
      (∀ x ∈ t, checkDateRange x.clause.dateRange = .ok ()) ∧
        cs = t.toList.flatMap (·.statedRange bound) := by
  cases t with
  | none => simp [rangeConjuncts, eq_comm]
  | some t =>
    rw [Option.toList_some, List.flatMap_singleton]
    simp only [rangeConjuncts, checkDateRange_eq_ok_iff, Option.mem_some_iff, forall_eq']
    cases ht : t.clause.dateRange with
    | none => simp [SelectedTime.statedRange_of_none ht, eq_comm]
    | some x =>
      simp only [DateRange.conjunct_eq, Option.mem_some_iff, forall_eq']
      cases hx : x.bounds with
      | error e => exact iff_of_false (by simp [Except.map]) fun ⟨⟨p, hp⟩, _⟩ => absurd hp (by simp)
      | ok p =>
        have hupper := (DateRange.bounds_eq_ok_iff (a := p.1) (b := p.2).1 hx).2.1
        rw [SelectedTime.statedRange_of_some ht hupper]
        simp [Except.map, eq_comm]

/-- The conjuncts of a selection are made if every filter has as many values as its operator takes
and the bounds of the date range are in order. -/
theorem Selection.conjuncts_eq_ok_iff {s : Selection} {cs : List Conjunct} :
    s.conjuncts = .ok cs ↔
      (∀ p ∈ s.filters, p.1.Fits) ∧
        (∀ t ∈ s.time, checkDateRange t.clause.dateRange = .ok ()) ∧ cs = s.statedConjuncts := by
  unfold Selection.conjuncts
  simp only [bind_eq_ok_iff, filterConjuncts_eq_ok_iff, rangeConjuncts_eq_ok_iff]
  constructor
  · rintro ⟨_, ⟨hf, rfl⟩, _, ⟨ht, rfl⟩, h⟩
    exact ⟨hf, ht, (Except.ok.inj h).symm⟩
  · rintro ⟨hf, ht, rfl⟩
    exact ⟨_, ⟨hf, rfl⟩, _, ⟨ht, rfl⟩, rfl⟩

end MetricLayer
