import MetricLayer.Proofs.Compile.FirstOccurrences
import MetricLayer.Proofs.Compile.Tables
import MetricLayer.Proofs.Sql.Meaning

/-!
# Scanning the text of a compiled query

The tokens of a compiled query are scanned one after the other, each as it is alone, unless an
expression that it splices in ends within a line comment: `compile_tokens_scan_apart`. What it
splices in are expressions of registered members, which have elements since they can be read.

The exception is real: a registry takes an expression with a line comment at its end, and the
comment swallows what is written behind the expression (`comment_swallows_alias`).
-/

namespace MetricLayer

/-! ## What conditions splice in -/

/-- An operand splices in its SQL. -/
theorem Operand.splices_expr (o : Operand) : o.expr.splices = [o.sql] := by
  obtain ⟨grain, sql⟩ := o
  cases grain with
  | none => rfl
  | some g => rfl

/-- Placeholders splice nothing in. -/
theorem listSplices_map_param (ns : List Nat) : Expr.listSplices (ns.map .param) = [] := by
  induction ns with
  | nil => rfl
  | cons n ns ih => simpa [Expr.listSplices, Expr.splices] using ih

/-- The condition of a filter splices in what its operand does. -/
theorem Filter.splices_condition (f : Filter) (bound : Nat) (operand : Expr) :
    (f.condition bound operand).splices = operand.splices := by
  obtain ⟨id, op, vs⟩ := f
  cases op with
  | isIn =>
    simp [Filter.condition, FilterOperator.condition, Expr.splices, listSplices_map_param]
  | _ => simp [Filter.condition, FilterOperator.condition, Expr.splices]

/-- The condition of a date range splices in the timestamp. -/
theorem DateBound.splices_condition (b : DateBound) (bound : Nat) (sql : String) :
    ∀ s ∈ (b.condition bound sql).splices, s = sql := by
  cases b with
  | day e => simp [DateBound.condition, Expr.splices]
  | moment e t => simp [DateBound.condition, Expr.splices]

/-- A conjunction splices in what its conditions do. -/
theorem splices_conjunction (es : List Expr) :
    (conjunction es).toList.flatMap (·.splices) = es.flatMap (·.splices) := by
  cases es with
  | nil => rfl
  | cons e es =>
    have hfold : ∀ a : Expr, (es.foldl (Expr.binary .and) a).splices =
        a.splices ++ es.flatMap (·.splices) := by
      induction es with
      | nil => exact fun a => (List.append_nil _).symm
      | cons e' es ih =>
        intro a
        rw [List.foldl_cons, ih, Expr.splices, List.flatMap_cons, List.append_assoc]
    rw [conjunction, Option.toList_some, List.flatMap_singleton, hfold, List.flatMap_cons]

/-! ## What a compiled query splices in -/

/-- The expressions of the members of a registry. -/
def Registry.expressions (r : Registry) : List String :=
  r.measures.map (·.sql) ++ r.dimensions.map (·.sql)

variable {r : Registry} {options : CompileOptions} {q : Request} {n : Names}

/-- Expressions that pass the check of expressions can be read. -/
theorem Registry.Passes.parse_of_mem (hr : r.Passes Draft.checkExpression) :
    ∀ s ∈ r.expressions, ∃ t, Term.parse s = .ok t := by
  refine List.forall_mem_append.2 ⟨List.forall_mem_map.2 ?_, List.forall_mem_map.2 ?_⟩
  · exact fun m hm => Draft.checkExpression_eq_ok_iff.1 (hr.measures m hm)
  · exact fun x hx => Draft.checkExpression_eq_ok_iff.1 (hr.dimensions x hx)

namespace Names.Resolve

/-- The measures of a request are registered. -/
theorem measure_mem (h : n.Resolve r q) : ∀ m ∈ n.measures, m.sql ∈ r.expressions := by
  intro m hm
  obtain ⟨id, -, hid⟩ := exists_item_of_mem h.measures m hm
  exact List.mem_append_left _ (List.mem_map_of_mem (Registry.measure?_eq_some hid).1)

/-- A dimension that is found is registered. -/
theorem expression_mem {id : String} {x : Dimension} (h : r.dimension? id = some x) :
    x.sql ∈ r.expressions :=
  List.mem_append_right _ (List.mem_map_of_mem (Registry.dimension?_eq_some h).1)

/-- The dimensions of a request are registered. -/
theorem dimension_mem (h : n.Resolve r q) : ∀ x ∈ n.dimensions, x.sql ∈ r.expressions := by
  intro x hx
  obtain ⟨id, -, hid⟩ := exists_item_of_mem h.dimensions x hx
  exact expression_mem hid

/-- The dimensions of the filters of a request are registered. -/
theorem filter_mem (h : n.Resolve r q) : ∀ p ∈ n.filters, p.2.sql ∈ r.expressions := by
  intro p hp
  obtain ⟨f, -, -, hid⟩ := exists_item_of_mem h.filters p hp
  exact expression_mem hid

/-- The time dimension of a request is registered. -/
theorem time_mem (h : n.Resolve r q) : ∀ p ∈ n.time, p.2.sql ∈ r.expressions :=
  fun _ hp => expression_mem (h.time_dimension hp)

end Names.Resolve

/-- The conditions of filters splice in the SQL of their dimensions. -/
theorem splices_statedFilters (fs : List (Filter × Dimension)) (bound : Nat) :
    (statedFilters bound fs).flatMap (·.expr.splices) = fs.map (·.2.sql) := by
  induction fs generalizing bound with
  | nil => rfl
  | cons p fs ih =>
    obtain ⟨f, x⟩ := p
    rw [statedFilters, List.flatMap_cons, ih, Filter.splices_condition, Operand.splices_expr,
      List.map_cons]
    rfl

namespace Names.Resolve

/-- The columns of a selection splice in expressions of the registry. -/
theorem column_splices (h : n.Resolve r q) :
    ∀ c ∈ n.selection.columnList, ∀ s ∈ c.expr.splices, s ∈ r.expressions := by
  unfold Selection.columnList
  simp only [List.forall_mem_append, List.forall_mem_map]
  refine ⟨fun m hm => ?_, fun x hx => ?_, fun t ht => ?_⟩
  · exact List.forall_mem_singleton.2 (h.measure_mem m hm)
  · rw [Dimension.column, Operand.splices_expr]
    exact List.forall_mem_singleton.2 (h.dimension_mem x hx)
  · obtain ⟨p, hp, rfl⟩ := Option.map_eq_some_iff.1 (Option.mem_toList.1 ht)
    exact List.forall_mem_singleton.2 (h.time_mem p hp)

/-- What a selection groups by are expressions of the registry. -/
theorem grouping_mem (h : n.Resolve r q) : ∀ o ∈ n.selection.grouping, o.sql ∈ r.expressions := by
  intro o ho
  rcases List.mem_append.1 (mem_distinctFrom_iff.1 ho).1 with ho | ho
  · obtain ⟨x, hx, rfl⟩ := List.mem_map.1 ho
    exact h.dimension_mem x hx
  · obtain ⟨t, ht, rfl⟩ := List.mem_map.1 ho
    obtain ⟨p, hp, rfl⟩ := Option.map_eq_some_iff.1 (Option.mem_toList.1 ht)
    exact h.time_mem p hp

/-- The conditions of a selection splice in expressions of the registry. -/
theorem conjunct_splices (h : n.Resolve r q) :
    ∀ c ∈ n.selection.statedConjuncts, ∀ s ∈ c.expr.splices, s ∈ r.expressions := by
  unfold Selection.statedConjuncts
  rw [List.forall_mem_append]
  refine ⟨?_, fun c hc => ?_⟩
  · rw [← List.forall_mem_flatMap, splices_statedFilters]
    exact List.forall_mem_map.2 h.filter_mem
  · obtain ⟨t, ht, hc⟩ := List.mem_flatMap.1 hc
    obtain ⟨p, hp, rfl⟩ := Option.map_eq_some_iff.1 (Option.mem_toList.1 ht)
    unfold SelectedTime.statedRange at hc
    split at hc
    · exact absurd hc List.not_mem_nil
    · split at hc
      case h_1 b _ =>
        rw [List.mem_singleton.1 hc]
        intro s hs
        rw [DateBound.splices_condition _ _ _ s hs]
        exact h.time_mem p hp
      case h_2 => exact absurd hc List.not_mem_nil

end Names.Resolve

/-- A compiled query splices in expressions of its registry. -/
theorem Compilation.mem_expressions_of_splices (k : Compilation r options q) :
    ∀ s ∈ k.result.query.splices, s ∈ r.expressions := by
  have hselect : ∀ i ∈ k.result.query.select, ∀ s ∈ i.expr.splices, s ∈ r.expressions := by
    refine List.forall_mem_map.2 fun c hc => ?_
    exact k.resolve.column_splices c hc
  have hjoins : ∀ j ∈ k.result.query.joins, ∀ s ∈ j.on.splices, s ∈ r.expressions := by
    intro j hj
    obtain ⟨step, -, -, a, b, -, -, hon⟩ :=
      exists_result_of_mem (Registry.follows_joinPlan k.plan_eq) j hj
    simp [hon, Expr.splices]
  have hcondition : ∀ e ∈ k.result.query.condition.toList, ∀ s ∈ e.splices, s ∈ r.expressions := by
    have hconditions := k.resolve.conjunct_splices
    rw [← List.forall_mem_flatMap] at hconditions ⊢
    have hsplices := splices_conjunction (k.selection.statedConjuncts.map (·.expr))
    rw [List.flatMap_map] at hsplices
    exact hsplices ▸ hconditions
  have hgroup : ∀ e ∈ k.result.query.groupBy, ∀ s ∈ e.splices, s ∈ r.expressions := by
    refine List.forall_mem_map.2 fun o ho => ?_
    rw [Operand.splices_expr, List.forall_mem_singleton]
    exact k.resolve.grouping_mem o ho
  have horder : ∀ o ∈ k.result.query.orderBy, ∀ s ∈ o.expr.splices, s ∈ r.expressions := by
    intro o ho
    obtain ⟨name, hname⟩ := expr_orderTerms k.order_eq o ho
    simp [hname, Expr.splices]
  simp only [Query.splices, List.forall_mem_append, List.forall_mem_flatMap]
  exact ⟨hselect, hjoins, hcondition, hgroup, horder⟩

/-- What a compiled query splices in can be scanned in front of other tokens, if none of it ends
within a line comment. -/
theorem Compilation.spliceable (k : Compilation r options q) (hr : r.Passes Draft.checkExpression)
    (hcomment : ∀ s ∈ k.result.query.splices, Lexeme.endsInComment s = false) :
    ∀ s ∈ k.result.query.splices, Spliceable s := by
  intro s hs
  obtain ⟨t, ht⟩ := hr.parse_of_mem s (k.mem_expressions_of_splices s hs)
  exact ⟨isSome_scan?_of_parse ht, hcomment s hs⟩

/-- The tokens of a compiled query are scanned one after the other, each as it is alone, if no
expression that it splices in ends within a line comment. -/
theorem compile_tokens_scan_apart {d : Draft} (hd : d.build = .ok r) {c : CompiledQuery}
    (h : r.compile options q = .ok c)
    (hcomment : ∀ s ∈ c.query.splices, Lexeme.endsInComment s = false) :
    Lexeme.scan? c.sql = some (Tokens.lexemes c.dialect (c.query.tokens c.dialect)) ∧
      ∀ t ∈ c.query.tokens c.dialect,
        Lexeme.scan? (t.render c.dialect) = some (t.lexemes c.dialect) := by
  obtain ⟨k, rfl⟩ := Registry.compile_eq_ok_iff.1 h
  have hspliceable := k.spliceable (Draft.passes_of_buildWith hd) hcomment
  have hscan := Query.scan_tokens k.result.dialect hspliceable
  exact ⟨hscan.scans.scanChars?_eq, hscan.alone⟩

/-- The tokens of the page views by quarter, with a bucket that SQLite spells in many pieces, are
scanned one after the other. -/
theorem compile_tokens_scan_apart_quarterlyViews :
    ∃ c, Draft.pageViewsRegistry.compile { dialect := .sqlite } quarterlyViews = .ok c ∧
      (∀ s ∈ c.query.splices, Lexeme.endsInComment s = false) ∧
      Lexeme.scan? c.sql = some (Tokens.lexemes c.dialect (c.query.tokens c.dialect)) := by
  have hexpressions : ∀ s ∈ Draft.pageViewsRegistry.expressions,
      Lexeme.endsInComment s = false := by decide +kernel
  obtain ⟨c, hc⟩ := quarterlyViews_compiles
  obtain ⟨k, rfl⟩ := Registry.compile_eq_ok_iff.1 hc
  have hcomment : ∀ s ∈ k.result.query.splices, Lexeme.endsInComment s = false :=
    fun s hs => hexpressions s (k.mem_expressions_of_splices s hs)
  exact ⟨_, hc, hcomment, (compile_tokens_scan_apart Draft.pageViews_build hc hcomment).1⟩

/-! ## A comment at the end of an expression -/

/-- Page views with a remark in the expression of a dimension. -/
def Draft.remarkedViews : Draft :=
  { Draft.pageViews with
    dimensions := [⟨"users.role", "users", .string, "u.role -- main role", none, ""⟩] }

/-- The roles of users. -/
def rolesOfUsers : Request where
  dimensions := ["users.role"]

/-- The registry of these page views. -/
def Draft.remarkedRegistry : Registry :=
  (remarkedViews.declared "views").inOrder

/-- A line comment at the end of an expression swallows the alias behind the expression. -/
theorem comment_swallows_alias :
    ∃ r c, Draft.remarkedViews.build = .ok r ∧ r.compile {} rolesOfUsers = .ok c ∧
      Lexeme.scan? c.sql ≠ some (Tokens.lexemes c.dialect (c.query.tokens c.dialect)) := by
  have hbuild : Draft.remarkedViews.build = .ok Draft.remarkedRegistry :=
    Draft.build_eq_of_toBool (by decide +kernel) rfl
  -- The keyword of the alias is the fifth token, but the comment reaches to the end of its line.
  have hcompiles : (Draft.remarkedRegistry.compile {} rolesOfUsers).map (fun c =>
      (c.sql, (Tokens.lexemes c.dialect (c.query.tokens c.dialect)).take 5)) =
      .ok ("SELECT\n  u.role -- main role AS \"users_role\"\nFROM" ++
        (" \"views\" AS \"v\"\nLEFT JOIN \"users\" AS \"u\" ON \"v\".\"user_id\" = \"u\".\"id\"\n" ++
          "GROUP BY u.role -- main role"),
        [.word "SELECT", .word "u", .period, .word "role", .word "AS"]) := by
    decide +kernel
  have hfront : Lexeme.Scans "SELECT\n  u.role -- main role AS \"users_role\"\nFROM".toList
      [.word "SELECT", .word "u", .period, .word "role", .word "FROM"] :=
    Lexeme.scans_of_scan? (by decide +kernel) (by decide +kernel)
  obtain ⟨c, hc, heq⟩ := map_eq_ok_iff.1 hcompiles
  obtain ⟨hsql, htokens⟩ := Prod.mk.inj heq
  refine ⟨_, c, hbuild, hc, fun hscan => ?_⟩
  rw [Lexeme.scan?, hsql, String.toList_append] at hscan
  have hfirst := hfront.isPrefix (by rintro _ ⟨⟩; decide) hscan
  rw [List.prefix_iff_eq_take] at hfirst
  exact absurd (hfirst.trans htokens) (by decide)

end MetricLayer
