import MetricLayer.Proofs.Compile.FirstOccurrences
import MetricLayer.Proofs.Compile.OutputColumns

/-!
# What a compiled query groups by

A compiled query groups by what it selects besides measures: each expression once, in the order in
which it is first selected (`CompiledQuery.GroupsSelection`). This is `compile_groups_selection`.

The select list and the grouping are made apart, but from the same operands, and an operand is known
by its expression (`Operand.expr_injective`). So it makes no difference that repetitions are left
out among the operands, before these are written. The keyword of the clause is written for the
clause alone (`Query.groupBy_mem_tokens_iff`).
-/

namespace MetricLayer

/-! ## The keyword of the grouping -/

section
variable (d : Dialect)

open Tokens

/-- A bucket of a timestamp is written without the keyword. -/
theorem groupBy_notMem_bucketTokens {ts : List Token} (h : .keyword .GROUP_BY ∉ ts)
    (g : Granularity) : .keyword .GROUP_BY ∉ bucketTokens d g ts := by
  cases d with
  | postgres => simp [bucketTokens, call, commaSeparated, commaSpace, h]
  | duckdb => simp [bucketTokens, call, commaSeparated, commaSpace, h]
  | sqlite =>
    cases g <;> simp [bucketTokens, sqliteBucketTokens, strftimeTokens, quarterMonthTokens, call,
      commaSeparated, commaSpace, h]

/-- A match is written without the keyword. -/
theorem groupBy_notMem_likeTokens {operand pattern : List Token}
    (hoperand : .keyword .GROUP_BY ∉ operand) (hpattern : .keyword .GROUP_BY ∉ pattern)
    (negated caseInsensitive : Bool) (escape : Char) :
    .keyword .GROUP_BY ∉ Expr.likeTokens d negated caseInsensitive escape operand pattern := by
  have hlower : ∀ lower ts, .keyword .GROUP_BY ∉ ts →
      .keyword .GROUP_BY ∉ Expr.lowerTokens lower ts := by
    intro lower ts h
    cases lower <;> simp [Expr.lowerTokens, call, commaSeparated, h]
  have hoperator : Keyword.GROUP_BY ≠
      if caseInsensitive = true ∧ d.hasILike = true then .ILIKE else .LIKE := by
    split <;> simp
  unfold Expr.likeTokens
  cases negated <;> simp [Expr.notTokens, hlower, hoperand, hpattern, hoperator]

mutual

/-- An expression is written without the keyword. -/
theorem Expr.groupBy_notMem_tokens : (e : Expr) → .keyword .GROUP_BY ∉ e.tokens d
  | .column none name => by simp [Expr.tokens]
  | .column (some table) name => by simp [Expr.tokens]
  | .binary op left right => by
    cases op <;> simp [Expr.tokens, BinaryOp.token, Expr.groupBy_notMem_tokens left,
      Expr.groupBy_notMem_tokens right]
  | .isIn negated operand [] => by cases negated <;> simp [Expr.tokens]
  | .isIn negated operand (v :: vs) => by
    cases negated <;> simp [Expr.tokens, Expr.notTokens, Expr.groupBy_notMem_tokens operand,
      Expr.groupBy_notMem_listTokens (v :: vs)]
  | .between negated operand low high => by
    cases negated <;> simp [Expr.tokens, Expr.notTokens, Expr.groupBy_notMem_tokens operand,
      Expr.groupBy_notMem_tokens low, Expr.groupBy_notMem_tokens high]
  | .like negated caseInsensitive escape operand pattern => by
    rw [Expr.tokens]
    exact groupBy_notMem_likeTokens d (Expr.groupBy_notMem_tokens operand)
      (Expr.groupBy_notMem_tokens pattern) negated caseInsensitive escape
  | .param n => by simp [Expr.tokens]
  | .bucket g operand => by
    rw [Expr.tokens]
    exact groupBy_notMem_bucketTokens d (Expr.groupBy_notMem_tokens operand) g
  | .raw sql => by simp [Expr.tokens]

/-- Expressions with commas between them are written without the keyword. -/
theorem Expr.groupBy_notMem_listTokens :
    (es : List Expr) → .keyword .GROUP_BY ∉ Expr.listTokens d es
  | [] => by simp [Expr.listTokens]
  | [e] => by
    rw [Expr.listTokens]
    exact Expr.groupBy_notMem_tokens e
  | e :: e' :: es => by
    have hrest := Expr.groupBy_notMem_listTokens (e' :: es)
    rw [Expr.listTokens]
    · simp [Expr.groupBy_notMem_tokens e, hrest]
    · simp

end

/-- Lists with commas between them have the keyword if one of them has. -/
theorem groupBy_mem_commaSeparated_iff {tss : List (List Token)} :
    .keyword .GROUP_BY ∈ commaSeparated tss ↔ ∃ ts ∈ tss, .keyword .GROUP_BY ∈ ts := by
  unfold commaSeparated
  induction tss with
  | nil => simp
  | cons ts tss ih =>
    cases tss with
    | nil => simp
    | cons us tss =>
      rw [List.intercalate_cons_cons, List.mem_append, List.mem_append, ih]
      simp [commaSpace]

namespace Query

/-- A select list is written without the keyword. -/
theorem groupBy_notMem_selectTokens (items : List SelectItem) :
    .keyword .GROUP_BY ∉ selectTokens d items := by
  have hitem : ∀ s : SelectItem, .keyword .GROUP_BY ∉ s.tokens d := by
    intro s
    unfold SelectItem.tokens aliasTokens
    split <;> simp [s.expr.groupBy_notMem_tokens d]
  induction items with
  | nil => simp [selectTokens]
  | cons s items ih =>
    cases items with
    | nil => simp [selectTokens, hitem s]
    | cons t items =>
      rw [selectTokens]
      · simp [hitem s, ih]
      · simp

/-- Tables and joins are written without the keyword. -/
theorem groupBy_notMem_sourceTokens (q : Query) : .keyword .GROUP_BY ∉ q.sourceTokens d := by
  have htable : ∀ t : TableRef, .keyword .GROUP_BY ∉ t.tokens := by
    intro t
    unfold TableRef.tokens aliasTokens
    split <;> simp
  have hjoins : .keyword .GROUP_BY ∉ q.joins.flatMap fun j => .newline :: j.tokens d := by
    rw [List.mem_flatMap]
    rintro ⟨j, -, hj⟩
    simp [Join.tokens, htable, j.on.groupBy_notMem_tokens d] at hj
  unfold sourceTokens
  split
  · simp [htable, hjoins]
  · simpa using hjoins

/-- A sort order is written without the keyword. -/
theorem groupBy_notMem_orderTerm (o : OrderTerm) : .keyword .GROUP_BY ∉ o.tokens d := by
  have hdirection : .keyword .GROUP_BY ∉ directionTokens o.direction := by
    unfold directionTokens
    split
    case h_1 dir _ => cases dir <;> simp [SortDirection.keyword]
    case h_2 => simp
  simp [OrderTerm.tokens, o.expr.groupBy_notMem_tokens d, hdirection]

/-- A query is written with the keyword just if it groups by something. -/
theorem groupBy_mem_tokens_iff (q : Query) :
    .keyword .GROUP_BY ∈ q.tokens d ↔ q.groupBy ≠ [] := by
  have horder : .keyword .GROUP_BY ∉
      clauseTokens .ORDER_BY (listClause (q.orderBy.map (·.tokens d))) := by
    unfold listClause
    split
    · simp [clauseTokens]
    · simp [clauseTokens, groupBy_mem_commaSeparated_iff, groupBy_notMem_orderTerm d]
  have hgroup : .keyword .GROUP_BY ∈
      clauseTokens .GROUP_BY (listClause (q.groupBy.map (·.tokens d))) ↔ q.groupBy ≠ [] := by
    unfold listClause
    cases q.groupBy with
    | nil => simp [clauseTokens]
    | cons e es => simp [clauseTokens]
  have hsource : .keyword .GROUP_BY ∉
      clauseTokens .FROM (q.source.map fun _ => q.sourceTokens d) := by
    cases q.source with
    | none => simp [clauseTokens]
    | some t => simp [clauseTokens, groupBy_notMem_sourceTokens d q]
  have hcondition : .keyword .GROUP_BY ∉ clauseTokens .WHERE (q.condition.map (·.tokens d)) := by
    cases q.condition with
    | none => simp [clauseTokens]
    | some e => simp [clauseTokens, e.groupBy_notMem_tokens d]
  have hpage : ∀ p : Page, .keyword .GROUP_BY ∉ p.tokens := by
    rintro ⟨limit, offset⟩
    cases limit <;> cases offset <;> simp [Page.tokens]
  unfold tokens
  rw [List.mem_cons, List.mem_append, List.mem_append, List.mem_append, List.mem_append,
    List.mem_append, hgroup]
  cases q.page with
  | none => simp [groupBy_notMem_selectTokens d, hsource, hcondition, horder]
  | some p => simp [groupBy_notMem_selectTokens d, hsource, hcondition, horder, hpage p]

end Query

end

/-! ## The keys of a selection -/

/-- The images of items stand beside the items. -/
theorem zip_map_self {α β : Type} (f : α → β) (xs : List α) :
    (xs.map f).zip xs = xs.map fun x => (f x, x) := by
  simpa using List.zip_map' (f := f) (g := id) (l := xs)

/-- An operand is known by its expression. -/
theorem Operand.expr_injective : Function.Injective Operand.expr := by
  rintro ⟨g, sql⟩ ⟨g', sql'⟩ h
  cases g <;> cases g' <;> simp_all [Operand.expr]

/-- The expressions of the items of the select list whose columns are no measures. -/
def CompiledQuery.keyExprs (c : CompiledQuery) : List Expr :=
  ((c.query.select.zip c.columns).filter fun p => p.2.role ≠ .measure).map (·.1.expr)

/-- The expressions that a request selects besides measures: its dimensions, each cut to its own
grain if it has one, and then the raw timestamp of its time dimension, cut to its granularity. -/
def Registry.keyExprs (r : Registry) (q : Request) : List Expr :=
  (q.dimensions.filterMap r.dimension?).map (fun d => d.operand.expr) ++
    q.time.toList.filterMap fun t =>
      (r.dimension? t.dimension).map fun d => .bucket t.granularity (.raw d.sql)

/-- A compiled query groups by what it selects besides measures. -/
structure CompiledQuery.GroupsSelection (r : Registry) (q : Request) (c : CompiledQuery) :
    Prop where
  /-- Every item of the select list has its column. -/
  length_eq : c.selectTexts.length = c.columns.length
  /-- What is selected besides measures are the registered expressions. -/
  keyExprs : c.keyExprs = r.keyExprs q
  /-- The grouping has each of these once, in the order in which it is first selected. -/
  groupBy : FirstOccurrences c.query.groupBy c.keyExprs
  /-- A time clause that cuts the timestamp of a selected dimension to the grain of this dimension
  adds nothing to the grouping. -/
  sharedBucket : ∀ id ∈ q.dimensions, ∀ t ∈ q.time, ∀ d e, r.dimension? id = some d →
    r.dimension? t.dimension = some e → d.grain = some t.granularity → d.sql = e.sql →
    FirstOccurrences c.query.groupBy
      ((q.dimensions.filterMap r.dimension?).map fun d => d.operand.expr)
  /-- The text of an item that is no measure is an entry of the grouping. -/
  text_mem : ∀ p ∈ c.selectTexts.zip c.columns, p.2.role ≠ .measure → p.1.1 ∈ c.groupBy
  /-- An entry of the grouping is the text of an item that is no measure. -/
  mem_text : ∀ s ∈ c.groupBy, ∃ p ∈ c.selectTexts.zip c.columns, p.2.role ≠ .measure ∧ p.1.1 = s
  /-- The clause is written just if not only measures are selected. -/
  clause_iff : .keyword .GROUP_BY ∈ c.query.tokens c.dialect ↔ ∃ k ∈ c.columns, k.role ≠ .measure

variable {r : Registry} {options : CompileOptions} {q : Request} {n : Names}

namespace Selection

/-- The columns of a selection that are no measures. -/
def keyColumns (s : Selection) : List Column :=
  s.dimensions.map Dimension.column ++ s.time.toList.map SelectedTime.column

/-- The columns of a selection are those of its measures and then the others. -/
theorem columnList_eq_measures_append (s : Selection) :
    s.columnList = s.measures.map Measure.column ++ s.keyColumns := rfl

/-- The columns that are no measures are those of the dimensions and the time dimension. -/
theorem filter_columnList (s : Selection) :
    (s.columnList.filter fun c => c.role ≠ .measure) = s.keyColumns := by
  have hkeys : ∀ c ∈ s.keyColumns, c.role ≠ .measure := by
    intro c hc
    rcases List.mem_append.1 hc with hc | hc
    · obtain ⟨d, -, rfl⟩ := List.mem_map.1 hc
      simp [Dimension.column]
    · obtain ⟨t, -, rfl⟩ := List.mem_map.1 hc
      simp [SelectedTime.column]
  have hmeasures : ∀ c ∈ s.measures.map Measure.column, ¬c.role ≠ .measure := by
    rw [List.forall_mem_map]
    intro m _
    simp [Measure.column]
  rw [columnList_eq_measures_append, List.filter_append, List.filter_eq_nil_iff.2,
    List.filter_eq_self.2, List.nil_append]
  · simpa using hkeys
  · simpa using hmeasures

/-- A selection groups by the expressions of its columns that are no measures. -/
theorem firstOccurrences_grouping (s : Selection) :
    FirstOccurrences (s.grouping.map Operand.expr) (s.keyColumns.map (·.expr)) := by
  have hkeys : s.keyColumns.map (·.expr) =
      (s.dimensions.map Dimension.operand ++ s.time.toList.map (·.bucket)).map Operand.expr := by
    unfold keyColumns
    simp only [List.map_append, List.map_map]
    rfl
  rw [hkeys]
  exact (firstOccurrences_distinctFrom _).map Operand.expr_injective

end Selection

/-- The columns that are no measures have the expressions that the request selects. -/
theorem Names.Resolve.exprs_keyColumns (h : n.Resolve r q) :
    n.selection.keyColumns.map (·.expr) = r.keyExprs q := by
  have hexprs := h.exprs_columnList
  rw [Selection.columnList_eq_measures_append, List.map_append] at hexprs
  refine List.append_inj_right (hexprs.trans (by rfl : r.outputExprs q = _ ++ r.keyExprs q)) ?_
  rw [List.length_map, List.length_map, List.length_map, filterMap_eq_of_results h.measures]
  rfl

namespace Compilation

variable (k : Compilation r options q)

/-- The items of the select list stand beside their columns. -/
theorem zip_columns : k.result.query.select.zip k.result.columns =
    k.result.columns.map fun c => (c.selectItem, c) := by
  have hselect : k.result.query.select = k.result.columns.map Column.selectItem := rfl
  rw [hselect]
  exact zip_map_self _ _

/-- The texts of the select list stand beside their columns. -/
theorem zip_texts : k.result.selectTexts.zip k.result.columns =
    k.result.columns.map fun c => ((c.expr.sql options.dialect, c.aliasName), c) := by
  rw [k.selectTexts_eq]
  exact zip_map_self _ _

/-- What is selected besides measures are the expressions of the columns that are none. -/
theorem keyExprs_eq : k.result.keyExprs = k.selection.keyColumns.map (·.expr) := by
  unfold CompiledQuery.keyExprs
  rw [k.zip_columns, List.filter_map, List.map_map, ← k.selection.filter_columnList]
  rfl

/-- A compiled query groups by what is selected besides measures. -/
theorem firstOccurrences_groupBy : FirstOccurrences k.result.query.groupBy k.result.keyExprs := by
  rw [k.keyExprs_eq]
  exact k.selection.firstOccurrences_grouping

/-- The columns of a compiled query that are no measures have the expressions that are selected
besides measures. -/
theorem mem_keyExprs_iff {e : Expr} :
    e ∈ k.result.keyExprs ↔ ∃ c ∈ k.result.columns, c.role ≠ .measure ∧ c.expr = e := by
  have hcolumns : k.result.columns = k.selection.columnList := rfl
  rw [k.keyExprs_eq, ← k.selection.filter_columnList, hcolumns]
  simp only [List.mem_map, List.mem_filter, decide_eq_true_eq, and_assoc]

/-- A compiled query groups by what it selects besides measures. -/
theorem groupsSelection : k.result.GroupsSelection r q where
  length_eq := by rw [k.selectTexts_eq, List.length_map]
  keyExprs := k.keyExprs_eq.trans k.resolve.exprs_keyColumns
  groupBy := k.firstOccurrences_groupBy
  sharedBucket id hid t ht d e hd he hgrain hsql := by
    have hkeys := k.firstOccurrences_groupBy
    rw [k.keyExprs_eq] at hkeys
    have hshared : Dimension.operand d = ⟨some t.granularity, e.sql⟩ := by
      rw [Dimension.operand, hgrain, hsql]
    have hexprs : k.selection.keyColumns.map (·.expr) = r.keyExprs q :=
      k.resolve.exprs_keyColumns
    rw [hexprs, Registry.keyExprs, Option.mem_def.1 ht] at hkeys
    refine hkeys.of_append fun x hx => ?_
    obtain rfl : x = d.operand.expr := by
      rw [hshared]
      simpa [he, Operand.expr] using hx
    exact List.mem_map_of_mem (List.mem_filterMap.2 ⟨id, hid, hd⟩)
  text_mem p hp hrole := by
    rw [k.zip_texts] at hp
    obtain ⟨c, hc, rfl⟩ := List.mem_map.1 hp
    have hexpr := (k.firstOccurrences_groupBy.mem_iff c.expr).2
      (k.mem_keyExprs_iff.2 ⟨c, hc, hrole, rfl⟩)
    exact List.mem_map_of_mem hexpr
  mem_text s hs := by
    obtain ⟨e, he, rfl⟩ := List.mem_map.1 hs
    obtain ⟨c, hc, hrole, rfl⟩ := k.mem_keyExprs_iff.1 ((k.firstOccurrences_groupBy.mem_iff e).1 he)
    rw [k.zip_texts]
    exact ⟨_, List.mem_map_of_mem hc, hrole, rfl⟩
  clause_iff := by
    rw [Query.groupBy_mem_tokens_iff, ← List.isEmpty_eq_false_iff,
      List.isEmpty_eq_false_iff_exists_mem]
    simp only [k.firstOccurrences_groupBy.mem_iff, k.mem_keyExprs_iff]
    constructor
    · rintro ⟨_, c, hc, hrole, -⟩
      exact ⟨c, hc, hrole⟩
    · rintro ⟨c, hc, hrole⟩
      exact ⟨_, c, hc, hrole, rfl⟩

end Compilation

/-- A compiled query groups by what it selects besides measures: each expression once, in the order
in which it is first selected, and with the text that it has in the select list. -/
theorem compile_groups_selection {c : CompiledQuery} (h : r.compile options q = .ok c) :
    c.GroupsSelection r q := by
  obtain ⟨k, rfl⟩ := Registry.compile_eq_ok_iff.1 h
  exact k.groupsSelection

/-- Page views by quarter and role, where the quarter is selected both as a dimension and as the
time dimension. -/
def rolesByQuarter : Request where
  measures := ["views.count"]
  dimensions := ["views.seen_at", "users.role"]
  time := some ⟨"views.seen_at", .quarter, none⟩

/-- The page views by quarter and role are grouped by their two dimensions, as the time dimension is
one of these. -/
theorem compile_groups_selection_rolesByQuarter :
    ∃ c, Draft.pageViewsRegistry.compile { dialect := .sqlite } rolesByQuarter = .ok c ∧
      c.GroupsSelection Draft.pageViewsRegistry rolesByQuarter ∧
      FirstOccurrences c.query.groupBy [.bucket .quarter (.raw "v.seen_at"), .raw "u.role"] := by
  have hcompiles :
      (Draft.pageViewsRegistry.compile { dialect := .sqlite } rolesByQuarter).toBool = true := by
    decide +kernel
  obtain ⟨c, hc⟩ := exists_ok_of_toBool hcompiles
  have hgroups := compile_groups_selection hc
  refine ⟨c, hc, hgroups, ?_⟩
  exact hgroups.sharedBucket "views.seen_at" (by decide) _ rfl
    ⟨"views.seen_at", "views", .time, "v.seen_at", some .quarter, ""⟩ _ (by decide +kernel)
    (by decide +kernel) rfl rfl

end MetricLayer
