import MetricLayer.Proofs.Agreement
import MetricLayer.Proofs.Compile.Lexical
import MetricLayer.Proofs.Compile.Numbering
import MetricLayer.Proofs.Sql.Portability

/-!
# One query in every dialect

A request compiles in every dialect or in none, and on failure the error is the same: a dialect is
not looked at until a query is written (`Registry.agree_compile_dialect`). The compiled queries
differ in spelling only, and for PostgreSQL and DuckDB not at all: `compile_dialects_agree`.
-/

namespace MetricLayer

/-- Two compiled queries have the same parameters, columns, tables, sort order and limits, and the
same placeholders from left to right. -/
structure CompiledQuery.SameShape (c e : CompiledQuery) : Prop where
  /-- The parameters are the same. -/
  params : c.params = e.params
  /-- The columns are the same. -/
  columns : c.columns = e.columns
  /-- The output columns have the same names. -/
  selectNames : c.selectTexts.map (·.2) = e.selectTexts.map (·.2)
  /-- The tables are the same. -/
  source : c.source = e.source
  /-- The sort orders are the same. -/
  orderBy : c.orderBy = e.orderBy
  /-- The limits are the same. -/
  limit : c.limit = e.limit
  /-- The offsets are the same. -/
  offset : c.offset = e.offset
  /-- The placeholders are the same. -/
  placeholders : c.placeholders = e.placeholders

/-- Two compiled queries have the same texts, as a whole and clause by clause. -/
structure CompiledQuery.SameText (c e : CompiledQuery) : Prop where
  /-- The texts are the same. -/
  sql : c.sql = e.sql
  /-- The select lists are the same. -/
  selectTexts : c.selectTexts = e.selectTexts
  /-- The conditions are the same. -/
  predicate : c.predicate = e.predicate
  /-- The grouping expressions are the same. -/
  groupBy : c.groupBy = e.groupBy

/-- The tokens of a compiled query. -/
def CompiledQuery.tokens (c : CompiledQuery) : List Token :=
  c.query.tokens c.dialect

/-- A request looks for no text, and neither selects nor compares a truncated timestamp: it has no
time dimension, and its dimensions and those of its filters have no grain. -/
structure Request.Portable (r : Registry) (q : Request) : Prop where
  /-- No filter looks for a text. -/
  operators : ∀ f ∈ q.filters, f.operator ≠ .contains
  /-- There is no time dimension. -/
  time : q.time = none
  /-- The dimensions have no grain. -/
  dimensions : ∀ id ∈ q.dimensions, ∀ d, r.dimension? id = some d → d.grain = none
  /-- The dimensions of the filters have no grain. -/
  filters : ∀ f ∈ q.filters, ∀ d, r.dimension? f.dimension = some d → d.grain = none

variable {r : Registry} {options : CompileOptions} {q : Request}

/-! ## The compiler looks at no dialect -/

/-- A compilation in another dialect gives the same query or the same error. -/
theorem Registry.agree_compile_dialect (r : Registry) (options : CompileOptions) (d : Dialect)
    (q : Request) :
    Agree True (fun c e => e = { c with dialect := d }) (r.compile options q)
      (r.compile { options with dialect := d } q) := by
  unfold Registry.compile
  refine (Agree.refl _).bind ?_
  rintro names _ rfl
  refine (Agree.refl _).bind ?_
  rintro s _ rfl
  -- Only the last step, which cannot fail, takes the dialect over.
  unfold Registry.compileSelection
  refine (Agree.refl _).bind ?_
  rintro columns _ rfl
  refine (Agree.refl _).bind ?_
  rintro order _ rfl
  refine (Agree.refl _).bind ?_
  rintro page _ rfl
  refine (Agree.refl _).bind ?_
  rintro plan _ rfl
  refine (Agree.refl _).bind ?_
  rintro conjuncts _ rfl
  exact .pure rfl

/-- The compilation in a dialect gives the query of any other dialect or the error of it. -/
theorem Registry.compile_dialect (r : Registry) (options : CompileOptions) (d : Dialect)
    (q : Request) :
    r.compile { options with dialect := d } q =
      (r.compile options q).map fun c => { c with dialect := d } := by
  have hagree := r.agree_compile_dialect options d q
  cases h : r.compile options q with
  | error e => exact (hagree.error trivial e).1 h
  | ok c =>
    obtain ⟨e, he⟩ := (hagree.exists_ok_iff trivial).1 ⟨c, h⟩
    rw [he, hagree.ok c e h he]
    rfl

/-! ## What is written alike -/

namespace Compilation

/-- The placeholders of a compiled query, in whatever dialect it is written, are numbered from one
to the number of its parameters. -/
theorem placeholders_eq (k : Compilation r options q) (d : Dialect) :
    k.result.query.placeholders d = List.range' 1 k.result.params.length := by
  have hfits : ∀ p ∈ k.selection.filters, p.1.Fits := k.fits
  calc k.result.query.placeholders d
      = (k.result.query.condition.map (·.placeholders d)).getD [] :=
        k.placeholders_outside d k.result.query.condition
    _ = (k.selection.statedConjuncts.map (·.expr)).flatMap (Expr.placeholders d) :=
        placeholders_conjunction d _
    _ = List.range' 1 k.result.params.length := by
        rw [List.flatMap_map]
        exact Selection.placeholders_statedConjuncts d hfits

/-- The conditions of joins are portable, since they compare columns. -/
theorem portable_joins (k : Compilation r options q) :
    ∀ j ∈ k.result.query.joins, j.on.Portable := by
  intro j hj
  obtain ⟨t, ht, rfl⟩ := List.mem_map.1 hj
  obtain ⟨s, -, a, b, -, -, rfl⟩ :=
    exists_item_of_mem (Registry.joinPlan_eq_ok_iff.1 k.plan_eq).1 t ht
  exact ⟨trivial, trivial⟩

/-- The sort order is portable, since it is by columns. -/
theorem portable_orderBy (k : Compilation r options q) :
    ∀ o ∈ k.result.query.orderBy, o.expr.Portable := by
  intro o ho
  obtain ⟨name, hname⟩ := expr_orderTerms k.order_eq o ho
  rw [hname]
  exact trivial

/-- A compiled query has the same shape in every dialect. -/
theorem sameShape (k : Compilation r options q) (d e : Dialect) :
    CompiledQuery.SameShape { k.result with dialect := d } { k.result with dialect := e } where
  params := rfl
  columns := rfl
  selectNames := by
    unfold CompiledQuery.selectTexts
    rw [List.map_map, List.map_map]
    rfl
  source := by
    have htokens : k.result.query.sourceTokens d = k.result.query.sourceTokens e :=
      Query.sourceTokens_congr fun j hj => Expr.tokens_congr _ (.inr (k.portable_joins j hj))
    have hnone : Tokens.placeholders (k.result.query.sourceTokens d) = [] := by
      rw [Query.placeholders_sourceTokens, List.flatMap_eq_nil_iff]
      exact Registry.placeholders_joinPlan k.plan_eq d
    unfold CompiledQuery.source Query.sourceSql
    dsimp only
    rw [← htokens, Tokens.render_eq_of_placeholders hnone d e]
  orderBy := by
    refine List.map_congr_left fun o ho => ?_
    obtain ⟨name, hname⟩ := expr_orderTerms k.order_eq o ho
    have htokens : o.tokens d = o.tokens e := by
      rw [OrderTerm.tokens, OrderTerm.tokens, Expr.tokens_congr _ (.inr (k.portable_orderBy o ho))]
    have hnone : Tokens.placeholders (o.tokens d) = [] := by
      rw [OrderTerm.tokens, Tokens.placeholders_append, Query.placeholders_directionTokens, hname]
      rfl
    dsimp only
    rw [← htokens, Tokens.render_eq_of_placeholders hnone d e]
  limit := rfl
  offset := rfl
  placeholders := (k.placeholders_eq d).trans (k.placeholders_eq e).symm

end Compilation

/-- Dialects that write matches, buckets and placeholders alike give a query the same texts. -/
theorem CompiledQuery.sameText_of_alike {d e : Dialect} (h : d.Alike e) (hsigil : d.sigil = e.sigil)
    (c : CompiledQuery) : SameText { c with dialect := d } { c with dialect := e } := by
  have hexpr : ∀ x : Expr, x.sql d = x.sql e := by
    intro x
    rw [Expr.sql, Expr.sql, Expr.tokens_congr x (.inl h), Tokens.render_congr hsigil]
  refine ⟨?_, ?_, ?_, ?_⟩
  · unfold CompiledQuery.sql Query.sql
    rw [Query.tokens_congr (.inl h), Tokens.render_congr hsigil]
  · unfold CompiledQuery.selectTexts
    simp only [hexpr]
  · unfold CompiledQuery.predicate
    simp only [hexpr]
  · unfold CompiledQuery.groupBy
    simp only [hexpr]

/-! ## Portable requests -/

/-- The condition of a filter is portable if its operand is and it looks for no text. -/
theorem Filter.portable_condition {f : Filter} (hf : f.operator ≠ .contains) (bound : Nat)
    {operand : Expr} (ho : operand.Portable) : (f.condition bound operand).Portable := by
  obtain ⟨id, op, vs⟩ := f
  cases op with
  | contains => exact absurd rfl hf
  | isIn => exact ⟨ho, Expr.listPortable_map_param _⟩
  | _ => exact ⟨ho, trivial⟩

/-- The conditions of filters that look for no text, on dimensions without a grain, are portable. -/
theorem portable_statedFilters {fs : List (Filter × Dimension)}
    (h : ∀ p ∈ fs, p.1.operator ≠ .contains ∧ p.2.operand.expr.Portable) (bound : Nat) :
    ∀ c ∈ statedFilters bound fs, c.expr.Portable := by
  induction fs generalizing bound with
  | nil => exact fun c hc => absurd hc List.not_mem_nil
  | cons p fs ih =>
    obtain ⟨f, x⟩ := p
    rw [List.forall_mem_cons] at h
    rw [statedFilters, List.forall_mem_cons]
    exact ⟨Filter.portable_condition h.1.1 bound h.1.2, ih h.2 _⟩

/-- A conjunction is portable if its conditions are. -/
theorem portable_conjunction {es : List Expr} (h : ∀ e ∈ es, e.Portable) :
    ∀ x ∈ conjunction es, x.Portable := by
  cases es with
  | nil => exact fun x hx => absurd hx (by simp [conjunction])
  | cons e es =>
    obtain ⟨he, hes⟩ := List.forall_mem_cons.1 h
    -- The conjunction grows to the left, so the induction is for any first condition.
    have hfold : ∀ a : Expr, a.Portable → (es.foldl (Expr.binary .and) a).Portable := by
      clear h he
      induction es with
      | nil => exact fun a ha => ha
      | cons e' es ih =>
        obtain ⟨he', hes⟩ := List.forall_mem_cons.1 hes
        exact fun a ha => ih hes _ ⟨ha, he'⟩
    intro x hx
    obtain rfl := Option.some.inj hx
    exact hfold e he

/-- A dimension without a grain stands for its SQL. -/
theorem Dimension.portable_operand {x : Dimension} (h : x.grain = none) :
    x.operand.expr.Portable := by
  unfold Dimension.operand Operand.expr
  rw [h]
  exact trivial

/-- A portable request compiles to a portable query. -/
theorem Compilation.portable (k : Compilation r options q) (hq : q.Portable r) :
    k.result.query.Portable := by
  have hdimensions : ∀ x ∈ k.names.dimensions, x.operand.expr.Portable := by
    intro x hx
    obtain ⟨id, hid, hfound⟩ := exists_item_of_mem k.resolve.dimensions x hx
    exact Dimension.portable_operand (hq.dimensions id hid x hfound)
  have hfilters : ∀ p ∈ k.names.filters,
      p.1.operator ≠ .contains ∧ p.2.operand.expr.Portable := by
    intro p hp
    obtain ⟨f, hf, rfl, hfound⟩ := exists_item_of_mem k.resolve.filters p hp
    exact ⟨hq.operators _ hf, Dimension.portable_operand (hq.filters _ hf p.2 hfound)⟩
  have htime : k.selection.time = none := by
    have hnone : k.names.time = none := by
      rw [← Option.map_eq_none_iff, k.resolve.map_time, hq.time]
    unfold Compilation.selection Names.selection
    rw [hnone]
    rfl
  have hconjuncts : k.selection.statedConjuncts = statedFilters 0 k.names.filters := by
    unfold Selection.statedConjuncts
    rw [htime, Option.toList_none, List.flatMap_nil, List.append_nil]
    rfl
  refine ⟨?_, k.portable_joins, portable_conjunction ?_, ?_, k.portable_orderBy⟩
  · refine List.forall_mem_map.2 ?_
    unfold Selection.columnList
    rw [htime]
    simp only [List.forall_mem_append, List.forall_mem_map]
    exact ⟨fun m _ => trivial, hdimensions, fun t ht => absurd ht List.not_mem_nil⟩
  · rw [hconjuncts, List.forall_mem_map]
    exact portable_statedFilters hfilters 0
  · refine List.forall_mem_map.2 fun o ho => ?_
    rcases List.mem_append.1 (mem_distinctFrom_iff.1 ho).1 with ho | ho
    · obtain ⟨x, hx, rfl⟩ := List.mem_map.1 ho
      exact hdimensions x hx
    · rw [htime] at ho
      exact absurd ho List.not_mem_nil

/-! ## The compiled queries -/

/-- A request either compiles in no dialect, with the same error in each, or in all, to queries of
the same shape. Those for PostgreSQL and DuckDB have the same texts, and those of a portable request
have the same tokens in all dialects, so that their texts differ only in the sign of placeholders. -/
theorem compile_dialects_agree (r : Registry) (cap : Option UInt64) (q : Request) :
    (∃ e, ∀ d, r.compile ⟨d, cap⟩ q = .error e) ∨
      ∃ c : Dialect → CompiledQuery,
        (∀ d, r.compile ⟨d, cap⟩ q = .ok (c d) ∧ (c d).dialect = d) ∧
          (∀ d e, (c d).SameShape (c e)) ∧ (c .postgres).SameText (c .duckdb) ∧
            (q.Portable r →
              ∃ ts, ∀ d, (c d).tokens = ts ∧ (c d).sql = Tokens.spelled d.sigil ts) := by
  have hdialect : ∀ d, r.compile ⟨d, cap⟩ q =
      (r.compile ⟨.postgres, cap⟩ q).map fun c => { c with dialect := d } :=
    fun d => r.compile_dialect ⟨.postgres, cap⟩ d q
  cases h : r.compile ⟨.postgres, cap⟩ q with
  | error e =>
    refine .inl ⟨e, fun d => ?_⟩
    rw [hdialect d, h]
    rfl
  | ok c =>
    refine .inr ⟨fun d => { c with dialect := d }, fun d => ?_, ?_, ?_, ?_⟩
    · rw [hdialect d, h]
      exact ⟨rfl, rfl⟩
    · obtain ⟨k, rfl⟩ := Registry.compile_eq_ok_iff.1 h
      exact k.sameShape
    · exact c.sameText_of_alike Dialect.alike_postgres_duckdb rfl
    · obtain ⟨k, rfl⟩ := Registry.compile_eq_ok_iff.1 h
      intro hq
      refine ⟨k.result.query.tokens .postgres, fun d => ?_⟩
      have htokens : k.result.query.tokens d = k.result.query.tokens .postgres :=
        Query.tokens_congr (.inr (k.portable hq))
      refine ⟨htokens, ?_⟩
      rw [← htokens]
      exact Tokens.render_eq_spelled d _

/-- Views by role, of some roles. -/
def viewsByRole : Request where
  measures := ["views.count"]
  dimensions := ["users.role"]
  filters := [⟨"users.role", .isIn, [.text "student", .text "teacher"]⟩,
    ⟨"users.role", .ne, [.text "guest"]⟩]
  order := [⟨"users.role", .desc⟩]
  limit := some 10

/-- The views by role have the same tokens in all dialects. -/
theorem compile_dialects_agree_viewsByRole :
    ∃ r, Draft.pageViews.build = .ok r ∧ viewsByRole.Portable r ∧
      ∃ c : Dialect → CompiledQuery, (∀ d, r.compile ⟨d, none⟩ viewsByRole = .ok (c d)) ∧
        ∃ ts, ∀ d, (c d).tokens = ts ∧ (c d).sql = Tokens.spelled d.sigil ts := by
  have hportable : viewsByRole.Portable Draft.pageViewsRegistry := {
    operators := by decide
    time := rfl
    dimensions := by decide +kernel
    filters := by decide +kernel }
  have hcompiles :
      (Draft.pageViewsRegistry.compile ⟨.postgres, none⟩ viewsByRole).toBool = true := by
    decide +kernel
  refine ⟨_, Draft.pageViews_build, hportable, ?_⟩
  rcases compile_dialects_agree Draft.pageViewsRegistry none viewsByRole with
    ⟨e, he⟩ | ⟨c, hc, -, -, htokens⟩
  · rw [he] at hcompiles
    cases hcompiles
  · exact ⟨c, fun d => (hc d).1, htokens hportable⟩

end MetricLayer
