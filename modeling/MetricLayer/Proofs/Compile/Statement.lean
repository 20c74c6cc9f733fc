import MetricLayer.Proofs.Compile.Numbering
import MetricLayer.Proofs.Sql.Building

/-!
# The published clauses of a compiled query

The texts of the clauses of a compiled query make up the text of the whole: `compile_sql_eq`. They
are written apart from each other, so that two things have to be seen: a clause is left out just if
its text is empty, and the numbers of rows, which a literal may not hold, are written as they are.
-/

namespace MetricLayer

/-- The text of a statement whose clauses have some texts. -/
def statementText (select : List (String × String)) (source predicate : String)
    (groupBy orderBy : List String) (limit offset : Option UInt64) : String :=
  "SELECT" ++ ",".intercalate (select.map fun (expr, name) =>
      "\n  " ++ expr ++ " AS " ++ quoteIdentifier name) ++
    ("\nFROM " ++ source) ++
    (if predicate = "" then "" else "\nWHERE " ++ predicate) ++
    (if groupBy = [] then "" else "\nGROUP BY " ++ ", ".intercalate groupBy) ++
    (if orderBy = [] then "" else "\nORDER BY " ++ ", ".intercalate orderBy) ++
    ((limit.map fun n => "\nLIMIT " ++ toString n.toNat).getD "" ++
      (offset.map fun n => " OFFSET " ++ toString n.toNat).getD "")

/-! ## Conditions have a text -/

/-- Some tokens have a text if one of them does. -/
theorem Tokens.render_ne_empty {d : Dialect} {t : Token} {ts : List Token} (ht : t ∈ ts)
    (hne : t.render d ≠ "") : Tokens.render d ts ≠ "" := by
  obtain ⟨us, vs, rfl⟩ := List.append_of_mem ht
  rw [render_append, render_cons]
  simp [hne]

/-- A condition of a filter has a text. -/
theorem Filter.sql_condition_ne_empty (d : Dialect) (f : Filter) (bound : Nat) (operand : Expr) :
    (f.condition bound operand).sql d ≠ "" := by
  have hspace : (Token.space).render d ≠ "" := by simp [Token.render]
  obtain ⟨id, op, vs⟩ := f
  cases op with
  | isIn =>
    cases vs with
    | nil =>
      exact Tokens.render_ne_empty (t := .keyword .FALSE) List.mem_cons_self
        (by simp [Token.render, Keyword.text])
    | cons v vs =>
      refine Tokens.render_ne_empty (t := .space) ?_ hspace
      rw [Filter.condition, FilterOperator.condition, List.length_cons, List.range'_succ,
        List.map_cons, Expr.tokens]
      simp
  | contains =>
    refine Tokens.render_ne_empty (t := .space) ?_ hspace
    rw [Filter.condition, FilterOperator.condition, Expr.tokens]
    simp [Expr.likeTokens]
  -- A comparison has a space on both sides of its operator.
  | _ =>
    refine Tokens.render_ne_empty (t := .space) ?_ hspace
    rw [Filter.condition, FilterOperator.condition, Expr.tokens]
    simp

/-- The condition of a date range has a text. -/
theorem DateBound.sql_condition_ne_empty (d : Dialect) (b : DateBound) (bound : Nat)
    (sql : String) : (b.condition bound sql).sql d ≠ "" := by
  have hspace : (Token.space).render d ≠ "" := by simp [Token.render]
  refine Tokens.render_ne_empty (t := .space) ?_ hspace
  cases b with
  | day e => simp [DateBound.condition, Expr.tokens]
  | moment e t => simp [DateBound.condition, Expr.tokens]

/-- A conjunction has a text if there are conditions, and each of them has one. -/
theorem sql_conjunction_eq_empty_iff {d : Dialect} {es : List Expr}
    (hes : ∀ e ∈ es, e.sql d ≠ "") :
    ((conjunction es).map (·.sql d)).getD "" = "" ↔ es = [] := by
  cases es with
  | nil => exact iff_of_true rfl rfl
  | cons e es =>
    refine iff_of_false ?_ (by simp)
    have he := hes e List.mem_cons_self
    rw [Query.sql_conjunction, Query.andText, List.map_cons]
    -- The first condition has a text, whatever stands behind it.
    cases es with
    | nil => simpa using he
    | cons e' es => simp [String.intercalate_cons_cons, he]

/-! ## The compiled query -/

variable {r : Registry} {options : CompileOptions} {q : Request}

namespace Compilation

/-- The conditions of a compilation: those of the filters, and then that of the date range. -/
def conditions (k : Compilation r options q) : List Expr :=
  k.selection.statedConjuncts.map (·.expr)

/-- The conditions of a compilation have a text. -/
theorem sql_ne_empty_of_mem_conditions (k : Compilation r options q) (d : Dialect) :
    ∀ e ∈ k.conditions, e.sql d ≠ "" := by
  have hfilters := k.resolve.statesFilters
  have hrange := k.resolve.statesRange k.sound
  unfold conditions
  rw [k.statedConjuncts_eq, List.map_append]
  intro e he
  rcases List.mem_append.1 he with he | he
  · obtain ⟨i, hi, rfl⟩ := List.mem_iff_getElem.1 he
    have hq : i < q.filters.length := hfilters.length_eq ▸ hi
    obtain ⟨x, -, hx⟩ := hfilters.condition i q.filters[i] (List.getElem?_eq_getElem hq)
    rw [List.getElem?_eq_getElem hi] at hx
    rw [Option.some.inj hx]
    exact Filter.sql_condition_ne_empty _ _ _ _
  · generalize (k.names.rangeConjuncts q).map (·.expr) = range,
      boundValues (k.names.rangeConjuncts q) = vs at hrange he
    cases hrange with
    | absent h => exact absurd he List.not_mem_nil
    | present ht hx hd hb =>
      rw [List.mem_singleton.1 he]
      exact DateBound.sql_condition_ne_empty _ _ _ _

/-- A compilation has conditions just if its request has a filter or a date range. -/
theorem conditions_ne_nil_iff (k : Compilation r options q) :
    k.conditions ≠ [] ↔ q.filters ≠ [] ∨ q.dateRange ≠ none := by
  have hfilters := k.resolve.statesFilters
  have hrange := k.resolve.statesRange k.sound
  have hes : (statedFilters 0 k.names.filters).map (·.expr) = [] ↔ q.filters = [] := by
    rw [← List.length_eq_zero_iff, hfilters.length_eq, List.length_eq_zero_iff]
  have hnone : (k.names.rangeConjuncts q).map (·.expr) = [] ↔ q.dateRange = none := by
    generalize (k.names.rangeConjuncts q).map (·.expr) = range,
      boundValues (k.names.rangeConjuncts q) = vs at hrange
    cases hrange with
    | absent h => exact iff_of_true rfl h
    | present ht hx hd hb =>
      refine iff_of_false (by simp) ?_
      rw [Request.dateRange, ht, Option.bind_some, hx]
      simp
  unfold conditions
  rw [k.statedConjuncts_eq, List.map_append, ne_eq, List.append_eq_nil_iff, hes, hnone, not_and_or]

/-- The predicate of a compilation is empty just if it has no conditions. -/
theorem predicate_eq_empty_iff (k : Compilation r options q) :
    k.result.predicate = "" ↔ k.conditions = [] :=
  sql_conjunction_eq_empty_iff (k.sql_ne_empty_of_mem_conditions options.dialect)

/-- The clause for limits of a compilation is that of its numbers of rows. -/
theorem page_result (k : Compilation r options q) :
    k.result.query.page = Page.clause? ⟨effectiveLimit options.maxLimit q.limit, q.offset⟩ :=
  rfl

/-- The limit of a compilation is the one that takes effect, and the offset that of the request. -/
theorem limits_eq (k : Compilation r options q) :
    k.result.limit = effectiveLimit options.maxLimit q.limit ∧ k.result.offset = q.offset := by
  unfold CompiledQuery.limit CompiledQuery.offset
  rw [k.page_result]
  exact ⟨Page.limit_clause? _, Page.offset_clause? _⟩

/-- The limits of a compilation are written as the numbers that they are. -/
theorem page_text_eq (k : Compilation r options q) :
    (k.result.query.page.map fun p => "\n" ++ p.text).getD "" =
      (k.result.limit.map fun n => "\nLIMIT " ++ toString n.toNat).getD "" ++
        (k.result.offset.map fun n => " OFFSET " ++ toString n.toNat).getD "" := by
  obtain ⟨hlimit, hoffset, hboth, -⟩ := pagination_eq_ok_iff.1 k.page_eq
  have hle : ∀ n ∈ effectiveLimit options.maxLimit q.limit, n.toNat ≤ maxRows :=
    effectiveLimit_le hlimit
  have hwith : q.offset ≠ none → effectiveLimit options.maxLimit q.limit ≠ none := by
    intro hne hnone
    obtain ⟨n, hn, hpos⟩ := hboth hne
    rcases effectiveLimit_eq_none_iff.1 hnone with h | h
    · exact absurd (hn.symm.trans h) (by simp)
    · exact hpos (Option.some.inj (hn.symm.trans h))
  rw [k.page_result, k.limits_eq.1, k.limits_eq.2]
  generalize effectiveLimit options.maxLimit q.limit = limit, q.offset = offset
    at hle hoffset hwith
  cases limit with
  | none =>
    cases offset with
    | none => rfl
    | some o => exact absurd rfl (hwith (by simp))
  | some n =>
    have hn := repr_rowsLiteral (hle n rfl)
    cases offset with
    | none => simp [Page.clause?, Page.text, hn, ← String.append_assoc]
    | some o =>
      have ho := repr_rowsLiteral (hoffset o rfl)
      simp [Page.clause?, Page.text, hn, ho, ← String.append_assoc]

/-- The condition of a compilation is written after its keyword, if it has a text. -/
theorem clauseText_condition (k : Compilation r options q) :
    Query.clauseText .WHERE (k.result.query.condition.map (·.sql k.result.dialect)) =
      if k.result.predicate = "" then "" else "\nWHERE " ++ k.result.predicate := by
  have hcondition : k.result.query.condition = conjunction k.conditions := rfl
  by_cases hnil : k.conditions = []
  · rw [if_pos (k.predicate_eq_empty_iff.2 hnil), hcondition, hnil]
    rfl
  · rw [if_neg (mt k.predicate_eq_empty_iff.1 hnil)]
    obtain ⟨e, es, hes⟩ := List.exists_cons_of_ne_nil hnil
    unfold CompiledQuery.predicate
    rw [hcondition, hes]
    rfl

end Compilation

/-- The text of a compiled query is that of its published clauses, and there is a condition among
them just if the request has a filter or a date range. -/
theorem compile_sql_eq {c : CompiledQuery} (h : r.compile options q = .ok c) :
    c.sql = statementText c.selectTexts c.source c.predicate c.groupBy c.orderBy c.limit c.offset ∧
      (c.predicate ≠ "" ↔ q.filters ≠ [] ∨ q.dateRange ≠ none) := by
  obtain ⟨k, rfl⟩ := Registry.compile_eq_ok_iff.1 h
  refine ⟨?_, by rw [ne_eq, k.predicate_eq_empty_iff, ← ne_eq, k.conditions_ne_nil_iff]⟩
  unfold CompiledQuery.sql statementText
  rw [Query.sql_eq, k.page_text_eq, Query.clauseText_listText,
    Query.clauseText_listText, k.clauseText_condition]
  have hselect : k.result.query.select.map (·.text k.result.dialect) =
      k.result.selectTexts.map fun (expr, name) =>
        "\n  " ++ expr ++ " AS " ++ quoteIdentifier name := by
    have hitems : k.result.query.select = k.selection.columnList.map Column.selectItem := rfl
    unfold CompiledQuery.selectTexts
    rw [hitems, List.map_map, List.map_map, List.map_map]
    refine List.map_congr_left fun c _ => ?_
    simp [Column.selectItem, SelectItem.text, aliasText, ← String.append_assoc]
  have hsource : Query.clauseText .FROM
      (k.result.query.source.map fun _ => k.result.query.sourceSql k.result.dialect) =
        "\nFROM " ++ k.result.source := rfl
  have hgroup : "\n" ++ Keyword.GROUP_BY.text ++ " " = "\nGROUP BY " := by decide
  have horder : "\n" ++ Keyword.ORDER_BY.text ++ " " = "\nORDER BY " := by decide
  rw [hselect, hsource, hgroup, horder]
  rfl

/-- The page views by quarter, some of them, are written as their clauses are. -/
theorem compile_sql_eq_quarterlyViews :
    ∃ c, Draft.pageViewsRegistry.compile { dialect := .sqlite } quarterlyViews = .ok c ∧
      c.sql = statementText c.selectTexts c.source c.predicate c.groupBy c.orderBy c.limit
        c.offset ∧
      (c.predicate ≠ "" ↔ quarterlyViews.filters ≠ [] ∨ quarterlyViews.dateRange ≠ none) := by
  obtain ⟨c, hc⟩ := quarterlyViews_compiles
  exact ⟨c, hc, compile_sql_eq hc⟩

end MetricLayer
