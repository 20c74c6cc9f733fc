import MetricLayer.Compile.CompiledQuery
import MetricLayer.Proofs.Agreement
import MetricLayer.Proofs.Compile.Compilation

/-!
# Values stay out of the statement

Two requests have the same shape if they differ only in the values of their filters and the texts of
their date ranges. Then they compile to the same statement, with other parameters, and if their date
ranges are the same they also fail alike: `compile_hides_values`.

The runs of the compiler on the two requests agree stage by stage. What a stage hands on is alike:
the same but for values, and for the date range under the condition that the ranges differ.
-/

namespace MetricLayer

/-! ## Shapes -/

/-- Two filters differ only in their values, of which they have the same number. -/
structure Filter.SameShape (f g : Filter) : Prop where
  /-- The filters are on the same dimension. -/
  dimension : f.dimension = g.dimension
  /-- The filters compare in the same way. -/
  operator : f.operator = g.operator
  /-- The filters have as many values. -/
  length_values : f.values.length = g.values.length

/-- The bound is a day without a time. -/
def DateBound.isDay : DateBound → Bool
  | day _ => true
  | moment _ _ => false

/-- Two date ranges have upper bounds of the same kind, if these can be read. -/
def DateRange.SameShape (x y : DateRange) : Prop :=
  ∀ a b, DateBound.parse? x.upper = some a → DateBound.parse? y.upper = some b → a.isDay = b.isDay

/-- A date range has the shape of itself. -/
theorem DateRange.sameShape_refl (x : DateRange) : x.SameShape x := by
  intro a b ha hb
  rw [Option.some.inj (ha.symm.trans hb)]

/-- Two time clauses differ only in the texts of their date ranges. -/
structure TimeClause.SameShape (t u : TimeClause) : Prop where
  /-- The clauses are on the same dimension. -/
  dimension : t.dimension = u.dimension
  /-- The clauses have the same buckets. -/
  granularity : t.granularity = u.granularity
  /-- The date ranges have upper bounds of the same kind, or there is none. -/
  dateRange : Option.Rel DateRange.SameShape t.dateRange u.dateRange

/-- Two requests differ only in the values of their filters and the texts of their date ranges. -/
structure Request.SameShape (q p : Request) : Prop where
  /-- The measures are the same. -/
  measures : q.measures = p.measures
  /-- The dimensions are the same. -/
  dimensions : q.dimensions = p.dimensions
  /-- The filters have the same shape, one by one. -/
  filters : List.Forall₂ Filter.SameShape q.filters p.filters
  /-- The time clauses have the same shape. -/
  time : Option.Rel TimeClause.SameShape q.time p.time
  /-- The order keys are the same. -/
  order : q.order = p.order
  /-- The limits are the same. -/
  limit : q.limit = p.limit
  /-- The offsets are the same. -/
  offset : q.offset = p.offset

/-- Two compiled queries differ only in their parameters. -/
structure CompiledQuery.SameStatement (c e : CompiledQuery) : Prop where
  /-- The dialects are the same. -/
  dialect : c.dialect = e.dialect
  /-- The texts are the same. -/
  sql : c.sql = e.sql
  /-- The select lists are the same. -/
  selectTexts : c.selectTexts = e.selectTexts
  /-- The tables are the same. -/
  source : c.source = e.source
  /-- The conditions are the same. -/
  predicate : c.predicate = e.predicate
  /-- The grouping expressions are the same. -/
  groupBy : c.groupBy = e.groupBy
  /-- The sort orders are the same. -/
  orderBy : c.orderBy = e.orderBy
  /-- The columns are the same. -/
  columns : c.columns = e.columns
  /-- The limits are the same. -/
  limit : c.limit = e.limit
  /-- The offsets are the same. -/
  offset : c.offset = e.offset

/-- A compiled query with other parameters is the same statement. -/
theorem CompiledQuery.sameStatement_of_eq {c e : CompiledQuery}
    (h : e = { c with params := e.params }) : c.SameStatement e := by
  rw [h]
  exact ⟨rfl, rfl, rfl, rfl, rfl, rfl, rfl, rfl, rfl, rfl⟩

/-! ## Conditions of one shape -/

namespace Filter.SameShape

variable {f g : Filter}

/-- Filters of one shape have the same condition. -/
theorem condition_eq (h : f.SameShape g) (bound : Nat) (operand : Expr) :
    f.condition bound operand = g.condition bound operand := by
  unfold Filter.condition
  rw [h.operator, h.length_values]

/-- Filters of one shape fit or fail together. -/
theorem fits_iff (h : f.SameShape g) : f.Fits ↔ g.Fits := by
  unfold Filter.Fits
  rw [h.operator, h.length_values]

/-- Filters of one shape have as many parameters. -/
theorem length_parameters_eq (h : f.SameShape g) : f.parameters.length = g.parameters.length := by
  rw [Filter.length_parameters, Filter.length_parameters, h.length_values]

end Filter.SameShape

/-- Upper bounds of one kind have the same condition. -/
theorem DateBound.condition_eq_of_isDay {a b : DateBound} (h : a.isDay = b.isDay) (bound : Nat)
    (sql : String) : a.condition bound sql = b.condition bound sql := by
  cases a with
  | day d =>
    cases b with
    | day e => rfl
    | moment e t => cases h
  | moment d s =>
    cases b with
    | day e => cases h
    | moment e t => rfl

/-! ## What the stages hand on -/

variable (same : Prop)

/-- Two time clauses have the same shape, and under the condition the same date range. -/
structure TimeClause.Alike (t u : TimeClause) : Prop extends TimeClause.SameShape t u where
  /-- Under the condition the date ranges are the same. -/
  dateRange_eq : same → t.dateRange = u.dateRange

/-- Two filters with their dimensions have the same shape and the same dimension. -/
def AlikeFilters (a b : Filter × Dimension) : Prop :=
  a.1.SameShape b.1 ∧ a.2 = b.2

/-- Names that are the same but for values. -/
structure Names.Alike (n m : Names) : Prop where
  /-- The measures are the same. -/
  measures : n.measures = m.measures
  /-- The dimensions are the same. -/
  dimensions : n.dimensions = m.dimensions
  /-- The filters are alike. -/
  filters : List.Forall₂ AlikeFilters n.filters m.filters
  /-- The time clauses are alike and on the same dimension. -/
  time : Option.Rel (fun a b => a.1.Alike same b.1 ∧ a.2 = b.2) n.time m.time

/-- Selected time dimensions that are the same but for values. -/
structure SelectedTime.Alike (t u : SelectedTime) : Prop where
  /-- The clauses are alike. -/
  clause : t.clause.Alike same u.clause
  /-- The dimensions are the same. -/
  dimension : t.dimension = u.dimension
  /-- The buckets are the same. -/
  bucket : t.bucket = u.bucket

/-- Selections that are the same but for values. -/
structure Selection.Alike (s t : Selection) : Prop where
  /-- The measures are the same. -/
  measures : s.measures = t.measures
  /-- The dimensions are the same. -/
  dimensions : s.dimensions = t.dimensions
  /-- The filters are alike. -/
  filters : List.Forall₂ AlikeFilters s.filters t.filters
  /-- The time dimensions are alike. -/
  time : Option.Rel (SelectedTime.Alike same) s.time t.time

/-- Conjuncts with the same condition and as many values. -/
structure Conjunct.Alike (c e : Conjunct) : Prop where
  /-- The conditions are the same. -/
  expr : c.expr = e.expr
  /-- There are as many values. -/
  length_values : c.values.length = e.values.length

/-! ## The stages -/

variable {same} {r : Registry} {q p : Request}

/-- The look-ups of requests of one shape agree. -/
theorem Request.SameShape.agree_names (h : q.SameShape p) (r : Registry) :
    Agree (q.dateRange = p.dateRange) (Names.Alike (q.dateRange = p.dateRange)) (r.names q)
      (r.names p) := by
  have hfilters : Agree (q.dateRange = p.dateRange) (List.Forall₂ AlikeFilters)
      (q.filters.mapM r.namedFilter) (p.filters.mapM r.namedFilter) := by
    refine .mapM h.filters fun f g hfg => ?_
    unfold Registry.namedFilter
    rw [hfg.dimension]
    refine (Agree.refl _).map ?_
    rintro d _ rfl
    exact ⟨hfg, rfl⟩
  have htime : Agree (q.dateRange = p.dateRange)
      (Option.Rel fun a b : TimeClause × Dimension =>
        a.1.Alike (q.dateRange = p.dateRange) b.1 ∧ a.2 = b.2)
      (r.namedTime q.time) (r.namedTime p.time) := by
    unfold Request.dateRange
    have hrel := h.time
    generalize q.time = t, p.time = u at hrel ⊢
    cases hrel with
    | none => exact .pure .none
    | some htu =>
      rw [Registry.namedTime, Registry.namedTime, htu.dimension]
      refine (Agree.refl _).map ?_
      rintro d _ rfl
      exact .some ⟨⟨htu, id⟩, rfl⟩
  unfold Registry.names
  rw [h.measures, h.dimensions, h.order]
  refine (Agree.refl _).bind ?_
  rintro ms _ rfl
  refine (Agree.refl _).bind ?_
  rintro ds _ rfl
  refine hfilters.bind fun fs gs hfs => htime.bind fun t u htu => (Agree.refl _).bind ?_
  rintro _ _ -
  exact .pure ⟨rfl, rfl, hfs, htu⟩

/-- The checks of alike selections agree. -/
theorem Names.Alike.agree_select {n m : Names} (h : n.Alike same m) :
    Agree same (Selection.Alike same) n.select m.select := by
  have hnone : n.time.isNone = m.time.isNone := by
    have htime := h.time
    generalize n.time = t, m.time = u at htime ⊢
    cases htime with
    | none => rfl
    | some _ => rfl
  have htime : Agree same (Option.Rel (SelectedTime.Alike same)) (selectTime n.time)
      (selectTime m.time) := by
    have hrel := h.time
    generalize n.time = t, m.time = u at hrel ⊢
    cases hrel with
    | none => exact .pure .none
    | @some a b hab =>
      obtain ⟨t, d⟩ := a
      obtain ⟨u, e⟩ := b
      obtain ⟨htu, rfl⟩ : t.Alike same u ∧ d = e := hab
      -- What the check of the date range reports may depend on its texts, but hands on nothing.
      have hrange : Agree same (fun _ _ => True) (checkDateRange t.dateRange)
          (checkDateRange u.dateRange) :=
        ⟨fun _ _ _ _ => trivial, fun hsame e => by rw [htu.dateRange_eq hsame]⟩
      rw [selectTime, selectTime, htu.granularity]
      refine (Agree.refl _).bind ?_
      rintro bucket _ rfl
      exact hrange.bind fun _ _ _ => .pure (.some ⟨htu, rfl, rfl⟩)
  unfold Names.select Names.checkNonempty
  rw [h.measures, h.dimensions, hnone]
  refine (Agree.refl _).bind fun _ _ _ => (Agree.refl _).bind fun _ _ _ =>
    (Agree.refl _).bind fun _ _ _ => htime.bind fun t u htu => ?_
  exact .pure ⟨rfl, rfl, h.filters, htu⟩

namespace Selection.Alike

variable {s t : Selection}

/-- What depends on no value is the same for both time dimensions. -/
theorem map_time (h : s.Alike same t) {α : Type} {f : SelectedTime → α}
    (hf : ∀ a b, a.Alike same b → f a = f b) : s.time.toList.map f = t.time.toList.map f := by
  have hrel := h.time
  generalize s.time = x, t.time = y at hrel ⊢
  cases hrel with
  | none => rfl
  | some hab => simp [hf _ _ hab]

/-- The columns are the same. -/
theorem columnList_eq (h : s.Alike same t) : s.columnList = t.columnList := by
  unfold Selection.columnList
  rw [h.measures, h.dimensions, h.map_time fun a b hab => ?_]
  unfold SelectedTime.column
  rw [hab.bucket, hab.clause.dimension]

/-- The grouping is the same. -/
theorem grouping_eq (h : s.Alike same t) : s.grouping = t.grouping := by
  unfold Selection.grouping
  rw [h.dimensions, h.map_time fun a b hab => hab.bucket]

/-- The needed tables are the same. -/
theorem tables_eq (h : s.Alike same t) : s.tables = t.tables := by
  have hfilters : s.filters.map (·.2.table) = t.filters.map (·.2.table) := by
    have hrel := h.filters
    generalize s.filters = fs, t.filters = gs at hrel ⊢
    induction hrel with
    | nil => rfl
    | cons hfg _ ih => rw [List.map_cons, List.map_cons, hfg.2, ih]
  unfold Selection.tables
  rw [h.measures, h.dimensions, hfilters, h.map_time fun a b hab => by rw [hab.dimension]]

end Selection.Alike

/-- The steps of filters of one shape agree. -/
theorem Filter.SameShape.agree_conjunct {f g : Filter} (h : f.SameShape g) (bound : Nat)
    (operand : Expr) :
    Agree same Conjunct.Alike (f.conjunct bound operand) (g.conjunct bound operand) := by
  rw [Filter.conjunct_eq, Filter.conjunct_eq, h.condition_eq, h.operator, h.length_values]
  by_cases hg : g.Fits
  · rw [if_pos (h.fits_iff.2 hg), if_pos hg]
    exact .pure ⟨rfl, h.length_parameters_eq⟩
  · rw [if_neg (mt h.fits_iff.1 hg), if_neg hg]
    exact .throw

/-- The conjuncts of alike filters agree, after as many values. -/
theorem agree_filterConjuncts {fs gs : List (Filter × Dimension)}
    (h : List.Forall₂ AlikeFilters fs gs) (bound : Nat) :
    Agree same (List.Forall₂ Conjunct.Alike) (filterConjuncts bound fs)
      (filterConjuncts bound gs) := by
  induction h generalizing bound with
  | nil => exact .pure .nil
  | @cons a b fs gs hab _ ih =>
    obtain ⟨f, d⟩ := a
    obtain ⟨g, e⟩ := b
    obtain ⟨hfg, rfl⟩ : f.SameShape g ∧ d = e := hab
    rw [filterConjuncts, filterConjuncts]
    -- The next filters are numbered alike, since this one has as many values.
    refine (hfg.agree_conjunct bound d.operand.expr).bind fun c c' hc => ?_
    rw [hc.length_values]
    exact (ih _).bind fun cs cs' hcs => .pure (.cons hc hcs)

/-- The steps of date ranges of one shape agree, if under the condition the ranges are the same. -/
theorem DateRange.SameShape.agree_conjunct {x y : DateRange} (h : x.SameShape y)
    (heq : same → x = y) (bound : Nat) (sql : String) :
    Agree same Conjunct.Alike (x.conjunct bound sql) (y.conjunct bound sql) := by
  have hbounds : Agree same (fun c e : DateBound × DateBound => c.2.isDay = e.2.isDay) x.bounds
      y.bounds := by
    refine ⟨fun c e hc he => ?_, fun hsame e => by rw [heq hsame]⟩
    have hx := (DateRange.bounds_eq_ok_iff (a := c.1) (b := c.2).1 hc).2.1
    have hy := (DateRange.bounds_eq_ok_iff (a := e.1) (b := e.2).1 he).2.1
    exact h _ _ hx hy
  rw [DateRange.conjunct_eq, DateRange.conjunct_eq]
  refine hbounds.map fun c e hce => ⟨DateBound.condition_eq_of_isDay hce bound sql, ?_⟩
  rw [DateRange.length_parameters, DateRange.length_parameters]

/-- The conjuncts of alike date ranges agree, after as many values. -/
theorem agree_rangeConjuncts {t u : Option SelectedTime}
    (h : Option.Rel (SelectedTime.Alike same) t u) (bound : Nat) :
    Agree same (List.Forall₂ Conjunct.Alike) (rangeConjuncts bound t) (rangeConjuncts bound u) := by
  cases h with
  | none => exact .pure .nil
  | @some a b hab =>
    have hrel := hab.clause.dateRange
    have heq := hab.clause.dateRange_eq
    rw [rangeConjuncts, rangeConjuncts, hab.dimension]
    generalize a.clause.dateRange = x, b.clause.dateRange = y at hrel heq ⊢
    cases hrel with
    | none => exact .pure .nil
    | some hxy =>
      have hconjunct := hxy.agree_conjunct (fun hsame => Option.some.inj (heq hsame)) bound
        b.dimension.sql
      exact hconjunct.map fun _ _ hc => .cons hc .nil

/-- Alike conjuncts have the same conditions. -/
theorem map_expr_eq {cs es : List Conjunct} (h : List.Forall₂ Conjunct.Alike cs es) :
    cs.map (·.expr) = es.map (·.expr) := by
  induction h with
  | nil => rfl
  | cons hc _ ih => rw [List.map_cons, List.map_cons, hc.expr, ih]

/-- Alike conjuncts have as many values. -/
theorem length_boundValues_eq {cs es : List Conjunct} (h : List.Forall₂ Conjunct.Alike cs es) :
    (boundValues cs).length = (boundValues es).length := by
  unfold boundValues
  induction h with
  | nil => rfl
  | cons hc _ ih =>
    rw [List.flatMap_cons, List.flatMap_cons, List.length_append, List.length_append,
      hc.length_values, ih]

/-- The conjuncts of alike selections agree. -/
theorem Selection.Alike.agree_conjuncts {s t : Selection} (h : s.Alike same t) :
    Agree same (List.Forall₂ Conjunct.Alike) s.conjuncts t.conjuncts := by
  unfold Selection.conjuncts
  refine (agree_filterConjuncts h.filters 0).bind fun cs es hcs => ?_
  rw [length_boundValues_eq hcs]
  exact (agree_rangeConjuncts h.time _).bind fun ds fs hds =>
    .pure (List.rel_append hcs hds)

/-! ## The compiled query -/

/-- The compilations of requests of one shape agree. -/
theorem Request.SameShape.agree_compile (h : q.SameShape p) (r : Registry)
    (options : CompileOptions) :
    Agree (q.dateRange = p.dateRange) CompiledQuery.SameStatement (r.compile options q)
      (r.compile options p) := by
  have hpage : pagination options.maxLimit q = pagination options.maxLimit p := by
    unfold pagination
    rw [h.limit, h.offset]
  unfold Registry.compile
  refine (h.agree_names r).bind fun n m hnm => hnm.agree_select.bind fun s t hst => ?_
  -- Up to the conjuncts both runs do the same, as nothing there depends on values.
  unfold Registry.compileSelection Selection.columns
  rw [hst.columnList_eq, hst.tables_eq, hst.grouping_eq, h.order, hpage]
  refine (Agree.refl _).bind ?_
  rintro columns _ rfl
  refine (Agree.refl _).bind ?_
  rintro order _ rfl
  refine (Agree.refl _).bind ?_
  rintro page _ rfl
  refine (Agree.refl _).bind ?_
  rintro plan _ rfl
  refine hst.agree_conjuncts.bind fun cs es hcs => .pure ?_
  rw [map_expr_eq hcs]
  exact CompiledQuery.sameStatement_of_eq rfl

/-- Two requests that differ only in the values of their filters and the texts of their date ranges
compile to the same statement. If their date ranges are the same, one compiles just if the other
does, and both give the same error. -/
theorem compile_hides_values (r : Registry) (options : CompileOptions) (h : q.SameShape p) :
    (∀ c e, r.compile options q = .ok c → r.compile options p = .ok e → c.SameStatement e) ∧
      (q.dateRange = p.dateRange →
        ((∃ c, r.compile options q = .ok c) ↔ ∃ e, r.compile options p = .ok e) ∧
          ∀ e, r.compile options q = .error e ↔ r.compile options p = .error e) := by
  have hagree := h.agree_compile r options
  exact ⟨hagree.ok, fun hsame => ⟨hagree.exists_ok_iff hsame, hagree.error hsame⟩⟩

/-- The page views by quarter with texts that look like SQL. -/
def hostileViews : Request where
  measures := ["views.count"]
  filters := [⟨"users.role", .isIn, [.text "'; DROP TABLE users; --", .text "$2"]⟩,
    ⟨"users.role", .contains, [.text "%\" OR 1 = 1"]⟩, ⟨"views.seen_at", .ne, [.bool true]⟩]
  time := quarterlyViews.time

/-- Texts that look like SQL leave the statement of the page views by quarter as it is. -/
theorem compile_hides_values_hostileViews :
    ∃ r c e, Draft.pageViews.build = .ok r ∧
      r.compile { dialect := .sqlite } quarterlyViews = .ok c ∧
      r.compile { dialect := .sqlite } hostileViews = .ok e ∧ c.SameStatement e := by
  have hshape : quarterlyViews.SameShape hostileViews := {
    measures := rfl
    dimensions := rfl
    filters := .cons ⟨rfl, rfl, rfl⟩ (.cons ⟨rfl, rfl, rfl⟩ (.cons ⟨rfl, rfl, rfl⟩ .nil))
    time := .some ⟨rfl, rfl, .some (DateRange.sameShape_refl _)⟩
    order := rfl
    limit := rfl
    offset := rfl }
  obtain ⟨hok, hfail⟩ :=
    compile_hides_values Draft.pageViewsRegistry { dialect := .sqlite } hshape
  obtain ⟨c, hc⟩ := quarterlyViews_compiles
  obtain ⟨e, he⟩ := (hfail rfl).1.1 ⟨c, hc⟩
  exact ⟨_, c, e, Draft.pageViews_build, hc, he, hok c e hc he⟩

end MetricLayer
