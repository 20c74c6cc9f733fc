import MetricLayer.Compile.Selection
import MetricLayer.Proofs.Fallible

/-!
# Names and selections

When the names of a request are found (`Names.Resolve`) and when what they name can be selected
(`Names.Sound`). `Registry.names_eq_ok_iff` and `Names.select_eq_ok_iff` say that the two stages
give a result just then, and which.
-/

namespace MetricLayer

/-! ## Names -/

/-- The names of a request are those of the definitions, each in its catalogue. -/
structure Names.Resolve (r : Registry) (q : Request) (n : Names) : Prop where
  /-- The measures are defined. -/
  measures : List.Forall₂ (fun id m => r.measure? id = some m) q.measures n.measures
  /-- The dimensions are defined. -/
  dimensions : List.Forall₂ (fun id d => r.dimension? id = some d) q.dimensions n.dimensions
  /-- The dimensions of the filters are defined. -/
  filters : List.Forall₂ (fun f p => f = p.1 ∧ r.dimension? f.dimension = some p.2)
    q.filters n.filters
  /-- The time dimension is defined. -/
  time : Option.Rel (fun t p => t = p.1 ∧ r.dimension? t.dimension = some p.2) q.time n.time
  /-- Every order key is the time key or the identifier of a measure or a dimension. -/
  order : ∀ item ∈ q.order,
    item.key = timeKey ∨ (r.measure? item.key).isSome ∨ (r.dimension? item.key).isSome

namespace Registry

/-- A measure is named if it is defined. -/
theorem namedMeasure_eq (r : Registry) (id : String) :
    r.namedMeasure id =
      match r.measure? id with
      | some m => .ok m
      | none => .error (.unknownIdentifier id) := by
  unfold namedMeasure lookupMeasure
  cases r.measure? id with
  | none => rfl
  | some m => rfl

/-- A dimension is named if it is defined. -/
theorem namedDimension_eq (r : Registry) (id : String) :
    r.namedDimension id =
      match r.dimension? id with
      | some d => .ok d
      | none => .error (.unknownIdentifier id) := by
  unfold namedDimension lookupDimension
  cases r.dimension? id with
  | none => rfl
  | some d => rfl

/-- A named measure is the one that is defined. -/
theorem namedMeasure_eq_ok_iff {r : Registry} {id : String} {m : Measure} :
    r.namedMeasure id = .ok m ↔ r.measure? id = some m := by
  rw [namedMeasure_eq]
  cases r.measure? id with
  | none => simp
  | some m' => simp

/-- A named dimension is the one that is defined. -/
theorem namedDimension_eq_ok_iff {r : Registry} {id : String} {d : Dimension} :
    r.namedDimension id = .ok d ↔ r.dimension? id = some d := by
  rw [namedDimension_eq]
  cases r.dimension? id with
  | none => simp
  | some d' => simp

/-- A filter is named with the dimension that is defined. -/
theorem namedFilter_eq_ok_iff {r : Registry} {f : Filter} {p : Filter × Dimension} :
    r.namedFilter f = .ok p ↔ f = p.1 ∧ r.dimension? f.dimension = some p.2 := by
  obtain ⟨g, d⟩ := p
  unfold namedFilter
  rw [map_eq_ok_iff]
  simp only [namedDimension_eq_ok_iff, Prod.mk.injEq]
  constructor
  · rintro ⟨d', hd, rfl, rfl⟩
    exact ⟨rfl, hd⟩
  · rintro ⟨rfl, hd⟩
    exact ⟨d, hd, rfl, rfl⟩

/-- A time clause is named with the dimension that is defined. -/
theorem namedTime_eq_ok_iff {r : Registry} {t : Option TimeClause}
    {p : Option (TimeClause × Dimension)} :
    r.namedTime t = .ok p ↔
      Option.Rel (fun t p => t = p.1 ∧ r.dimension? t.dimension = some p.2) t p := by
  cases t with
  | none =>
    cases p with
    | none => exact ⟨fun _ => .none, fun _ => rfl⟩
    | some p => exact ⟨fun h => absurd h (by simp [namedTime]), nofun⟩
  | some t =>
    unfold namedTime
    rw [map_eq_ok_iff]
    simp only [namedDimension_eq_ok_iff]
    constructor
    · rintro ⟨d, hd, rfl⟩
      exact .some ⟨rfl, hd⟩
    · intro h
      cases h with
      | some h =>
        obtain ⟨rfl, hd⟩ := h
        exact ⟨_, hd, rfl⟩

/-- An order key passes its check if it is the time key or names something. -/
theorem checkOrderKey_eq_ok_iff {r : Registry} {item : OrderItem} :
    r.checkOrderKey item = .ok () ↔
      item.key = timeKey ∨ (r.measure? item.key).isSome ∨ (r.dimension? item.key).isSome := by
  unfold checkOrderKey
  split
  case isTrue h => exact iff_of_true rfl h
  case isFalse h => exact iff_of_false (by simp) h

/-- The names of a request are found if each is defined in its catalogue. -/
theorem names_eq_ok_iff {r : Registry} {q : Request} {n : Names} :
    r.names q = .ok n ↔ n.Resolve r q := by
  unfold names
  simp only [bind_eq_ok_iff, mapM_eq_ok_iff, forM_eq_ok_iff, namedMeasure_eq_ok_iff,
    namedDimension_eq_ok_iff, namedFilter_eq_ok_iff, namedTime_eq_ok_iff, checkOrderKey_eq_ok_iff]
  constructor
  · rintro ⟨ms, hms, ds, hds, fs, hfs, t, ht, _, ho, h⟩
    rw [← Except.ok.inj h]
    exact ⟨hms, hds, hfs, ht, ho⟩
  · intro h
    exact ⟨_, h.measures, _, h.dimensions, _, h.filters, _, h.time, (), h.order, rfl⟩

end Registry

/-! ## The names of a request -/

/-- The date range of a request. -/
def Request.dateRange (q : Request) : Option DateRange :=
  q.time.bind (·.dateRange)

/-- A measure that is found is registered under the identifier. -/
theorem Registry.measure?_eq_some {r : Registry} {id : String} {m : Measure}
    (h : r.measure? id = some m) : m ∈ r.measures ∧ m.id = id :=
  ⟨List.mem_of_find?_eq_some h, by simpa using List.find?_some h⟩

/-- A dimension that is found is registered under the identifier. -/
theorem Registry.dimension?_eq_some {r : Registry} {id : String} {d : Dimension}
    (h : r.dimension? id = some d) : d ∈ r.dimensions ∧ d.id = id :=
  ⟨List.mem_of_find?_eq_some h, by simpa using List.find?_some h⟩

namespace Names.Resolve

variable {r : Registry} {q : Request} {n : Names}

/-- The measures have the identifiers of the request. -/
theorem map_measures (h : n.Resolve r q) : n.measures.map (·.id) = q.measures :=
  map_eq_of_results h.measures fun _ _ hm => (Registry.measure?_eq_some hm).2

/-- The dimensions have the identifiers of the request. -/
theorem map_dimensions (h : n.Resolve r q) : n.dimensions.map (·.id) = q.dimensions :=
  map_eq_of_results h.dimensions fun _ _ hd => (Registry.dimension?_eq_some hd).2

/-- The filters are those of the request. -/
theorem map_filters (h : n.Resolve r q) : n.filters.map (·.1) = q.filters :=
  map_eq_of_results h.filters fun _ _ hf => hf.1.symm

/-- The time clause is that of the request. -/
theorem map_time (h : n.Resolve r q) : n.time.map (·.1) = q.time := by
  have htime := h.time
  cases hn : n.time with
  | none =>
    rw [hn] at htime
    cases hq : q.time with
    | none => rfl
    | some t => rw [hq] at htime; cases htime
  | some p =>
    rw [hn] at htime
    cases hq : q.time with
    | none => rw [hq] at htime; cases htime
    | some t =>
      rw [hq] at htime
      cases htime with
      | some hp => rw [Option.map_some, hp.1]

/-- The dimension of the time clause is the one that is defined. -/
theorem time_dimension (h : n.Resolve r q) {p : TimeClause × Dimension} (hp : n.time = some p) :
    r.dimension? p.1.dimension = some p.2 := by
  have htime := h.time
  rw [← h.map_time, hp] at htime
  cases htime with
  | some hd => exact hd.2

end Names.Resolve

/-! ## Repetitions -/

/-- No text is repeated if they are new. -/
theorem firstRepeated?_eq_none_iff {seen xs : List String} :
    firstRepeated? seen xs = none ↔ Fresh seen xs := by
  induction xs generalizing seen with
  | nil => exact iff_of_true rfl (fresh_nil seen)
  | cons x xs ih =>
    rw [fresh_cons_iff, firstRepeated?]
    split
    case isTrue h => exact iff_of_false (by simp) fun ⟨hx, _⟩ => hx h
    case isFalse h => rw [ih, and_iff_right h]

/-- Identifiers pass their check if they are distinct. -/
theorem checkDistinct_eq_ok_iff {ids : List String} {u : Unit} :
    checkDistinct ids = .ok u ↔ ids.Nodup := by
  have h : firstRepeated? [] ids = none ↔ ids.Nodup := by
    rw [firstRepeated?_eq_none_iff, fresh_nil_left_iff]
  rw [← h]
  unfold checkDistinct
  cases firstRepeated? [] ids with
  | none => simp
  | some id => simp

/-! ## Selections -/

/-- What is named can be selected. -/
structure Names.Sound (n : Names) : Prop where
  /-- Something is selected. -/
  nonempty : ¬(n.measures = [] ∧ n.dimensions = [] ∧ n.time = none)
  /-- No measure is selected twice. -/
  measures : (n.measures.map (·.id)).Nodup
  /-- No dimension is selected twice. -/
  dimensions : (n.dimensions.map (·.id)).Nodup
  /-- The time dimension holds timestamps, and its date range is well formed. -/
  time : ∀ p ∈ n.time, p.2.kind = .time ∧ checkDateRange p.1.dateRange = .ok ()

/-- The selection of the definitions. -/
def Names.selection (n : Names) : Selection :=
  ⟨n.measures, n.dimensions, n.filters,
    n.time.map fun p => ⟨p.1, p.2, ⟨some p.1.granularity, p.2.sql⟩⟩⟩

/-- A dimension has buckets if it is a time dimension. -/
theorem Dimension.bucket_eq_ok_iff {d : Dimension} {g : Granularity} {o : Operand} :
    d.bucket g = .ok o ↔ d.kind = .time ∧ o = ⟨some g, d.sql⟩ := by
  unfold Dimension.bucket Dimension.isTime
  split
  case isTrue h => rw [Except.ok.injEq, and_iff_right (by simpa using h), eq_comm]
  case isFalse h => exact iff_of_false (by simp) fun ⟨hd, _⟩ => h (by simp [hd])

/-- A time dimension is selected if it holds timestamps and its date range is well formed. -/
theorem selectTime_eq_ok_iff {p : Option (TimeClause × Dimension)} {t : Option SelectedTime} :
    selectTime p = .ok t ↔
      (∀ x ∈ p, x.2.kind = .time ∧ checkDateRange x.1.dateRange = .ok ()) ∧
        t = p.map fun x => ⟨x.1, x.2, ⟨some x.1.granularity, x.2.sql⟩⟩ := by
  cases p with
  | none => simp [selectTime, eq_comm]
  | some p =>
    obtain ⟨c, d⟩ := p
    simp only [selectTime, bind_eq_ok_iff, Dimension.bucket_eq_ok_iff, Option.mem_some_iff,
      forall_eq', Option.map_some]
    constructor
    · rintro ⟨o, ⟨hd, rfl⟩, _, hx, h⟩
      exact ⟨⟨hd, hx⟩, (Except.ok.inj h).symm⟩
    · rintro ⟨⟨hd, hx⟩, rfl⟩
      exact ⟨_, ⟨hd, rfl⟩, (), hx, rfl⟩

/-- Something is selected if not all of the selection is empty. -/
theorem Names.checkNonempty_eq_ok_iff {n : Names} {u : Unit} :
    n.checkNonempty = .ok u ↔ ¬(n.measures = [] ∧ n.dimensions = [] ∧ n.time = none) := by
  unfold Names.checkNonempty
  split
  case isTrue h =>
    simp only [Bool.and_eq_true, List.isEmpty_iff, Option.isNone_iff_eq_none] at h
    exact iff_of_false (by simp) (not_not_intro ⟨h.1.1, h.1.2, h.2⟩)
  case isFalse h =>
    simp only [Bool.and_eq_true, List.isEmpty_iff, Option.isNone_iff_eq_none] at h
    exact iff_of_true rfl fun ⟨hm, hd, ht⟩ => h ⟨⟨hm, hd⟩, ht⟩

/-- What is named is selected if it can be. -/
theorem Names.select_eq_ok_iff {n : Names} {s : Selection} :
    n.select = .ok s ↔ n.Sound ∧ s = n.selection := by
  -- The stages run in sequence, and each of them passes just under its condition.
  unfold Names.select
  simp only [bind_eq_ok_iff, Names.checkNonempty_eq_ok_iff, checkDistinct_eq_ok_iff,
    selectTime_eq_ok_iff]
  constructor
  · rintro ⟨_, hne, _, hm, _, hd, t, ⟨ht, rfl⟩, h⟩
    exact ⟨⟨hne, hm, hd, ht⟩, (Except.ok.inj h).symm⟩
  · rintro ⟨h, rfl⟩
    exact ⟨(), h.nonempty, (), h.measures, (), h.dimensions, _, ⟨h.time, rfl⟩, rfl⟩

end MetricLayer
