import MetricLayer.Proofs.Compile.Compilation

/-!
# Placeholders and parameters

The placeholders of a compiled query, read from left to right, are numbered from one to the number
of its parameters. They stand in the condition only, which is the conjunction of the conditions of
the filters and the date range in the order of the request, and the parameters come in the same
order: `compile_numbers_parameters`.

The conjuncts carry the numbers, each starting after the values bound before it
(`placeholders_statedFilters`); the renderer only has to keep their order (`Query.placeholders_eq`).
-/

namespace MetricLayer

/-! ## The request -/

/-- The parameters of the filters of a request, in order. -/
def Request.filterParameters (q : Request) : List Value :=
  q.filters.flatMap Filter.parameters

/-- The number of parameters before those of a filter of a request, by its position. -/
def Request.boundBefore (q : Request) (i : Nat) : Nat :=
  ((q.filters.take i).flatMap Filter.parameters).length

/-- The conditions of the filters of a request: one for each filter, on the dimension that it names,
numbered after the parameters of the filters before it. -/
structure Request.StatesFilters (r : Registry) (q : Request) (es : List Expr) : Prop where
  /-- There is one condition for each filter. -/
  length_eq : es.length = q.filters.length
  /-- A condition is that of the filter in its place. -/
  condition : ∀ i (f : Filter), q.filters[i]? = some f → ∃ d, r.dimension? f.dimension = some d ∧
    es[i]? = some (f.condition (q.boundBefore i) d.operand.expr)

/-- The condition of the date range of a request with its parameters, on the raw timestamp of the
time dimension, numbered after the parameters of the filters; none without a date range. -/
inductive Request.StatesRange (r : Registry) (q : Request) : List Expr → List Value → Prop
  /-- There is no date range. -/
  | absent (h : q.dateRange = none) : StatesRange r q [] []
  /-- There is a date range with an upper bound. -/
  | present {t : TimeClause} {x : DateRange} {d : Dimension} {b : DateBound} (ht : q.time = some t)
      (hx : t.dateRange = some x) (hd : r.dimension? t.dimension = some d)
      (hb : DateBound.parse? x.upper = some b) :
      StatesRange r q [b.condition q.filterParameters.length d.sql] (x.parameters b)

/-! ## The conjuncts -/

variable (d : Dialect)

/-- Parameters are placeholders with their numbers. -/
theorem placeholders_map_param (ns : List Nat) :
    (ns.map Expr.param).flatMap (Expr.placeholders d) = ns := by
  induction ns with
  | nil => rfl
  | cons n ns ih => rw [List.map_cons, List.flatMap_cons, ih, Expr.placeholders_param]; rfl

/-- The condition of a filter numbers its values after those bound before. -/
theorem Filter.placeholders_condition {f : Filter} (hf : f.Fits) (bound : Nat) {operand : Expr}
    (ho : operand.placeholders d = []) :
    (f.condition bound operand).placeholders d = List.range' (bound + 1) f.values.length := by
  obtain ⟨id, op, vs⟩ := f
  cases op with
  | isIn =>
    have hpos : vs ≠ [] := List.ne_nil_of_length_pos hf
    unfold Filter.condition FilterOperator.condition
    rw [Expr.placeholders_isIn, if_neg (by simpa using hpos), ho, placeholders_map_param]
    rfl
  | contains =>
    have hone : vs.length = 1 := hf
    simp [Filter.condition, FilterOperator.condition, ho, hone]
  -- Every other operator compares with its only value.
  | _ =>
    have hone : vs.length = 1 := hf
    simp [Filter.condition, FilterOperator.condition, ho, hone]

/-- The condition of a date range numbers its two bounds after the values bound before. -/
theorem DateBound.placeholders_condition (b : DateBound) (bound : Nat) (sql : String) :
    (b.condition bound sql).placeholders d = List.range' (bound + 1) 2 := by
  cases b with
  | day e => rfl
  | moment e t => rfl

/-- The conditions of filters number their values one after the other. -/
theorem placeholders_statedFilters {fs : List (Filter × Dimension)} (hfs : ∀ p ∈ fs, p.1.Fits)
    (bound : Nat) :
    (statedFilters bound fs).flatMap (fun c => c.expr.placeholders d) =
      List.range' (bound + 1) (boundValues (statedFilters bound fs)).length := by
  induction fs generalizing bound with
  | nil => rfl
  | cons p fs ih =>
    obtain ⟨f, x⟩ := p
    rw [List.forall_mem_cons] at hfs
    -- The numbers of the first filter end where those of the others begin.
    have hnum := Filter.placeholders_condition d hfs.1 bound (Operand.placeholders_expr d x.operand)
    unfold boundValues at ih ⊢
    rw [statedFilters, List.flatMap_cons, List.flatMap_cons, ih hfs.2, hnum, List.length_append,
      Filter.length_parameters, Nat.add_right_comm, List.range'_append_1]

/-- The conditions of a selection number its values from one on. -/
theorem Selection.placeholders_statedConjuncts {s : Selection} (hfs : ∀ p ∈ s.filters, p.1.Fits) :
    s.statedConjuncts.flatMap (fun c => c.expr.placeholders d) =
      List.range' 1 (boundValues s.statedConjuncts).length := by
  unfold Selection.statedConjuncts boundValues
  rw [List.flatMap_append, List.flatMap_append, placeholders_statedFilters d hfs,
    List.length_append]
  unfold boundValues
  generalize ((statedFilters 0 s.filters).flatMap (·.values)).length = n
  -- The date range goes on after the filters, whose `n` values are bound before.
  have hrange :
      (s.time.toList.flatMap (·.statedRange n)).flatMap (fun c => c.expr.placeholders d) =
        List.range' (1 + n)
          ((s.time.toList.flatMap (·.statedRange n)).flatMap (·.values)).length := by
    cases s.time with
    | none => rfl
    | some t =>
      rw [Option.toList_some, List.flatMap_singleton]
      unfold SelectedTime.statedRange
      split
      · rfl
      · split
        · rw [List.flatMap_singleton, List.flatMap_singleton, DateRange.length_parameters,
            DateBound.placeholders_condition, Nat.add_comm 1 n]
        · rfl
  rw [hrange, Nat.zero_add, List.range'_append_1]

/-- A conjunction has the placeholders of its conditions in order. -/
theorem placeholders_conjunction (es : List Expr) :
    ((conjunction es).map (·.placeholders d)).getD [] = es.flatMap (Expr.placeholders d) := by
  cases es with
  | nil => rfl
  | cons e es =>
    -- The conjunction grows to the left, so the induction is for any first condition.
    have hfold : ∀ a : Expr, (es.foldl (Expr.binary .and) a).placeholders d =
        a.placeholders d ++ es.flatMap (Expr.placeholders d) := by
      induction es with
      | nil => exact fun a => (List.append_nil _).symm
      | cons e' es ih =>
        intro a
        rw [List.foldl_cons, ih, Expr.placeholders_binary, List.flatMap_cons, List.append_assoc]
    exact hfold e

/-! ## The conjuncts in the words of the request -/

/-- The values of stated filters are the parameters of the filters. -/
theorem boundValues_statedFilters (bound : Nat) (fs : List (Filter × Dimension)) :
    boundValues (statedFilters bound fs) = (fs.map (·.1)).flatMap Filter.parameters := by
  induction fs generalizing bound with
  | nil => rfl
  | cons p fs ih =>
    unfold boundValues at ih ⊢
    rw [statedFilters, List.flatMap_cons, ih, List.map_cons, List.flatMap_cons]

/-- There is one conjunct for each filter. -/
theorem length_statedFilters (bound : Nat) (fs : List (Filter × Dimension)) :
    (statedFilters bound fs).length = fs.length := by
  induction fs generalizing bound with
  | nil => rfl
  | cons p fs ih => rw [statedFilters, List.length_cons, ih, List.length_cons]

/-- The conjunct of a filter is numbered after the parameters of the filters before it. -/
theorem getElem?_statedFilters {fs : List (Filter × Dimension)} {i : Nat} {p : Filter × Dimension}
    (h : fs[i]? = some p) (bound : Nat) :
    (statedFilters bound fs)[i]? = some
      ⟨p.1.condition (bound + (((fs.take i).map (·.1)).flatMap Filter.parameters).length)
        p.2.operand.expr, p.1.parameters⟩ := by
  induction fs generalizing bound i with
  | nil => exact absurd h (by simp)
  | cons p' fs ih =>
    cases i with
    | zero =>
      obtain rfl := Option.some.inj h
      rfl
    | succ i =>
      rw [statedFilters, List.getElem?_cons_succ, ih h, List.take_succ_cons, List.map_cons,
        List.flatMap_cons, List.length_append, Filter.length_parameters, Nat.add_assoc]

variable {d} {r : Registry} {q : Request} {n : Names}

/-- A filter of a request is named in its place with the dimension that is defined. -/
theorem Names.Resolve.getElem?_filters (h : n.Resolve r q) {i : Nat} {f : Filter}
    (hi : q.filters[i]? = some f) :
    ∃ x, r.dimension? f.dimension = some x ∧ n.filters[i]? = some (f, x) := by
  have hf := h.filters
  clear h
  generalize q.filters = fs, n.filters = ps at hf hi ⊢
  induction hf generalizing i with
  | nil => exact absurd hi (by simp)
  | cons hp _ ih =>
    cases i with
    | zero =>
      obtain rfl := Option.some.inj hi
      obtain ⟨rfl, hx⟩ := hp
      exact ⟨_, hx, rfl⟩
    | succ i => exact ih hi

/-- The conditions of the filters of a selection are those that the request states. -/
theorem Names.Resolve.statesFilters (h : n.Resolve r q) :
    q.StatesFilters r ((statedFilters 0 n.filters).map (·.expr)) where
  length_eq := by
    rw [List.length_map, length_statedFilters, ← h.map_filters, List.length_map]
  condition i f hi := by
    obtain ⟨x, hx, hfx⟩ := h.getElem?_filters hi
    refine ⟨x, hx, ?_⟩
    rw [List.getElem?_map, getElem?_statedFilters hfx, List.map_take, h.map_filters, Nat.zero_add]
    rfl

/-- The conjuncts of the date range of a selection, after the parameters of the filters. -/
def Names.rangeConjuncts (n : Names) (q : Request) : List Conjunct :=
  n.selection.time.toList.flatMap (·.statedRange q.filterParameters.length)

/-- The condition of the date range of a selection is the one that the request states. -/
theorem Names.Resolve.statesRange (h : n.Resolve r q) (hs : n.Sound) :
    q.StatesRange r ((n.rangeConjuncts q).map (·.expr)) (boundValues (n.rangeConjuncts q)) := by
  unfold Names.rangeConjuncts Names.selection
  cases hn : n.time with
  | none =>
    refine .absent ?_
    rw [Request.dateRange, ← h.map_time, hn]
    rfl
  | some p =>
    have hq : q.time = some p.1 := by rw [← h.map_time, hn, Option.map_some]
    have hd := h.time_dimension hn
    have hrange := checkDateRange_eq_ok_iff.1 (hs.time p hn).2
    rw [Option.map_some, Option.toList_some, List.flatMap_singleton]
    cases hx : p.1.dateRange with
    | none =>
      rw [SelectedTime.statedRange_of_none hx]
      exact .absent (by rw [Request.dateRange, hq]; exact hx)
    | some x =>
      obtain ⟨bounds, hbounds⟩ := hrange x hx
      have hb := (DateRange.bounds_eq_ok_iff (a := bounds.1) (b := bounds.2).1 hbounds).2.1
      rw [SelectedTime.statedRange_of_some hx hb, boundValues, List.flatMap_singleton]
      exact .present hq hx hd hb

/-! ## The compiled query -/

/-- The conjuncts of a compilation are those of the filters and that of the date range. -/
theorem Compilation.statedConjuncts_eq {options : CompileOptions} (k : Compilation r options q) :
    k.selection.statedConjuncts = statedFilters 0 k.names.filters ++ k.names.rangeConjuncts q := by
  unfold Selection.statedConjuncts Names.rangeConjuncts Request.filterParameters
  rw [show k.selection.filters = k.names.filters from rfl, boundValues_statedFilters,
    k.resolve.map_filters]
  rfl

/-- Outside of its condition a compiled query has no placeholder. -/
theorem Compilation.placeholders_outside {options : CompileOptions} (k : Compilation r options q)
    (d : Dialect) (e : Option Expr) :
    Query.placeholders d { k.result.query with condition := e } =
      (e.map (·.placeholders d)).getD [] := by
  have hselect : (k.result.query.select.flatMap fun s => s.expr.placeholders d) = [] := by
    rw [List.flatMap_eq_nil_iff]
    intro s hs
    obtain ⟨c, hc, rfl⟩ := List.mem_map.1 hs
    exact Selection.placeholders_columnList d k.selection c hc
  have hjoins : (k.result.query.joins.flatMap fun j => j.on.placeholders d) = [] :=
    List.flatMap_eq_nil_iff.2 (Registry.placeholders_joinPlan k.plan_eq d)
  have hgroup : k.result.query.groupBy.flatMap (·.placeholders d) = [] := by
    rw [List.flatMap_eq_nil_iff]
    intro e he
    obtain ⟨o, -, rfl⟩ := List.mem_map.1 he
    exact Operand.placeholders_expr d o
  have horder : (k.result.query.orderBy.flatMap fun o => o.expr.placeholders d) = [] :=
    List.flatMap_eq_nil_iff.2 (placeholders_orderTerms k.order_eq)
  rw [Query.placeholders_eq]
  dsimp only
  rw [hselect, hjoins, hgroup, horder, ite_self]
  simp only [List.nil_append, List.append_nil]

/-- The placeholders of a compiled query are numbered from one to the number of its parameters. -/
theorem Compilation.placeholders_result {options : CompileOptions} (k : Compilation r options q) :
    k.result.placeholders = List.range' 1 k.result.params.length := by
  have hfits : ∀ p ∈ k.selection.filters, p.1.Fits := k.fits
  have hnumbers := Selection.placeholders_statedConjuncts options.dialect hfits
  calc k.result.placeholders
      = (k.result.query.condition.map (·.placeholders options.dialect)).getD [] :=
        k.placeholders_outside options.dialect k.result.query.condition
    _ = (k.selection.statedConjuncts.map (·.expr)).flatMap (Expr.placeholders options.dialect) :=
        placeholders_conjunction options.dialect _
    _ = List.range' 1 k.result.params.length := by
        rw [List.flatMap_map]
        exact hnumbers

/-- The placeholders of a compiled query are numbered from one to the number of its parameters, and
stand in its condition only. The condition is the conjunction of the conditions of the filters in
order and then that of the date range, and the parameters are theirs in the same order. -/
theorem compile_numbers_parameters {r : Registry} {options : CompileOptions} {q : Request}
    {c : CompiledQuery} (h : r.compile options q = .ok c) :
    c.placeholders = List.range' 1 c.params.length ∧
      Query.placeholders c.dialect { c.query with condition := none } = [] ∧
      ∃ es range bounds, q.StatesFilters r es ∧ q.StatesRange r range bounds ∧
        c.query.condition = conjunction (es ++ range) ∧
        c.params = q.filterParameters ++ bounds := by
  obtain ⟨k, rfl⟩ := Registry.compile_eq_ok_iff.1 h
  refine ⟨k.placeholders_result, k.placeholders_outside _ none, _, _, _, k.resolve.statesFilters,
    k.resolve.statesRange k.sound, ?_, ?_⟩
  · rw [← List.map_append, ← k.statedConjuncts_eq]
    rfl
  · have hfilters : boundValues (statedFilters 0 k.names.filters) = q.filterParameters := by
      rw [boundValues_statedFilters, k.resolve.map_filters]
      rfl
    rw [← hfilters]
    unfold boundValues
    rw [← List.flatMap_append, ← k.statedConjuncts_eq]
    rfl

/-- The placeholders of the page views by quarter are numbered, in the dialect in which a quarter is
spelt with the timestamp twice. -/
theorem compile_numbers_parameters_quarterlyViews :
    ∃ r c, Draft.pageViews.build = .ok r ∧
      r.compile { dialect := .sqlite } quarterlyViews = .ok c ∧
      c.placeholders = List.range' 1 c.params.length ∧
      Query.placeholders c.dialect { c.query with condition := none } = [] ∧
      ∃ es range bounds, quarterlyViews.StatesFilters r es ∧
        quarterlyViews.StatesRange r range bounds ∧
        c.query.condition = conjunction (es ++ range) ∧
        c.params = quarterlyViews.filterParameters ++ bounds := by
  obtain ⟨c, hc⟩ := quarterlyViews_compiles
  exact ⟨_, c, Draft.pageViews_build, hc, compile_numbers_parameters hc⟩

end MetricLayer
