import MetricLayer.Proofs.Compile.OutputColumns
import MetricLayer.Proofs.Compile.UnknownNames

/-!
# The sort order of a compiled query

A compiled query is sorted by output columns only (`CompiledQuery.SortsColumns`): an order key
refers to the column of the time dimension or to the first column of a member (`RefersTo`), and is
written as the name of this column. A key that refers to no column is reported, the first one of
them. This is all in `compile_sorts_columns`.

Which column a key refers to is said once for all selections: see
`Selection.orderedColumn?_columnList`. A measure comes before a dimension, and a
dimension before the time dimension.
-/

namespace MetricLayer

/-! ## Order keys and columns -/

/-- An order key refers to a column: the time key to that of the time dimension, and any other key
to the first column of the member. -/
inductive RefersTo (cs : List Column) : String → Column → Prop where
  /-- The time key refers to the column of the time dimension. -/
  | time {k : Column} (hk : k ∈ cs) (hrole : k.role = .time) : RefersTo cs "time" k
  /-- Another key refers to the first column of the member. -/
  | member {before after : List Column} {k : Column} (hkey : k.member ≠ "time")
    (hcs : cs = before ++ k :: after) (hfirst : ∀ c ∈ before, c.member ≠ k.member) :
    RefersTo cs k.member k

/-- The column of an order key is one of the columns. -/
theorem RefersTo.mem {cs : List Column} {key : String} {k : Column} (h : RefersTo cs key k) :
    k ∈ cs := by
  cases h with
  | time hk => exact hk
  | member _ hcs =>
    rw [hcs]
    exact List.mem_append_right _ List.mem_cons_self

/-- The column that is found for a key is one that it refers to. -/
theorem refersTo_of_orderedColumn? {cs : List Column} {key : String} {k : Column}
    (h : orderedColumn? cs key = some k) : RefersTo cs key k := by
  unfold orderedColumn? at h
  split at h
  case isTrue hkey =>
    rw [hkey]
    exact .time (List.mem_of_find?_eq_some h) (by simpa using List.find?_some h)
  case isFalse hkey =>
    obtain ⟨hmember, before, after, hcs, hfirst⟩ := List.find?_eq_some_iff_append.1 h
    obtain rfl : k.member = key := by simpa using hmember
    exact .member hkey hcs fun c hc => by simpa using hfirst c hc

namespace Selection

/-- The column that an order key finds in a selection: that of the time dimension for the time key,
and else that of the measure, the dimension or the time dimension of that identifier, the first that
there is. -/
theorem orderedColumn?_columnList (s : Selection) (key : String) :
    orderedColumn? s.columnList key =
      if key = timeKey then s.time.map SelectedTime.column
      else ((s.measures.find? fun m => m.id = key).map Measure.column).or
        (((s.dimensions.find? fun d => d.id = key).map Dimension.column).or
          ((s.time.filter fun t => t.clause.dimension = key).map SelectedTime.column)) := by
  unfold orderedColumn? columnList
  simp only [List.find?_append, List.find?_map]
  split
  case isTrue =>
    -- Neither a measure nor a dimension has a column in the role of time.
    have hmeasures : s.measures.find? ((fun c => c.role = .time) ∘ Measure.column) = none :=
      List.find?_eq_none.2 fun m _ => by simp [Measure.column]
    have hdimensions : s.dimensions.find? ((fun c => c.role = .time) ∘ Dimension.column) = none :=
      List.find?_eq_none.2 fun d _ => by simp [Dimension.column]
    rw [hmeasures, hdimensions]
    cases s.time with
    | none => rfl
    | some t => rfl
  case isFalse =>
    cases s.time with
    | none => rfl
    | some t =>
      simp only [Option.toList_some, List.find?_singleton, Option.filter_some]
      rfl

/-- The only column in the role of time is that of the time dimension. -/
theorem map_column_time {s : Selection} {k : Column} (hk : k ∈ s.columnList)
    (hrole : k.role = .time) : s.time.map SelectedTime.column = some k := by
  rcases List.mem_append.1 hk with hk | hk
  · obtain ⟨m, -, rfl⟩ := List.mem_map.1 hk
    exact absurd hrole (by simp [Measure.column])
  rcases List.mem_append.1 hk with hk | hk
  · obtain ⟨d, -, rfl⟩ := List.mem_map.1 hk
    exact absurd hrole (by simp [Dimension.column])
  · obtain ⟨t, ht, rfl⟩ := List.mem_map.1 hk
    rw [Option.mem_toList.1 ht, Option.map_some]

/-- An order key finds the column to which it refers. -/
theorem orderedColumn?_eq_some_iff {s : Selection} {key : String} {k : Column} :
    orderedColumn? s.columnList key = some k ↔ RefersTo s.columnList key k := by
  refine ⟨refersTo_of_orderedColumn?, fun h => ?_⟩
  cases h with
  | time hk hrole =>
    rw [orderedColumn?_columnList, if_pos (show "time" = timeKey from rfl),
      map_column_time hk hrole]
  | @member before after _ hkey hcs hfirst =>
    have hkey : k.member ≠ timeKey := hkey
    unfold orderedColumn?
    rw [if_neg hkey, List.find?_eq_some_iff_append]
    exact ⟨by simp, before, after, hcs, fun c hc => by simpa using hfirst c hc⟩

end Selection

/-- The error for an item of the sort order, if its key finds no column. -/
def orderKeyFault? (cs : List Column) (item : OrderItem) : Option RequestError :=
  if (orderedColumn? cs item.key).isSome then none else some (.orderKeyNotSelected item.key)

/-- The sort order fails with the first key that finds no column. -/
theorem failsWith_orderTerms (cs : List Column) (items : List OrderItem) :
    FailsWith (items.findSome? (orderKeyFault? cs)) (orderTerms cs items) := by
  have hterm : ∀ item, FailsWith (orderKeyFault? cs item) (orderTerm cs item) := by
    intro item
    unfold orderTerm orderKeyFault?
    cases orderedColumn? cs item.key with
    | none => exact .error _
    | some c => exact .ok _
  unfold orderTerms
  cases items with
  | nil => exact .ok _
  | cons item items => exact .mapM hterm (item :: items)

/-! ## The sort order of a request -/

/-- The text of an item of the sort order. -/
def sortText (name : String) : SortDirection → String
  | .asc => quoteIdentifier name ++ " ASC"
  | .desc => quoteIdentifier name ++ " DESC"

/-- A compiled query is sorted by its output columns. -/
structure CompiledQuery.SortsColumns (q : Request) (c : CompiledQuery) : Prop where
  /-- There is an entry for each item of the request, by the name of the column to which its key
  refers. -/
  items : q.order ≠ [] →
    List.Forall₂ (fun item text => ∃ k, RefersTo c.columns item.key k ∧
      text = sortText k.aliasName item.direction) q.order c.orderBy
  /-- Without an item the rows are sorted by time, if there is a time dimension. -/
  default : q.order = [] → c.orderBy = if q.time = none then [] else ["\"time\" ASC"]
  /-- The column of a key is that of the measure, or else that of the dimension, and the column of
  the time dimension only if the key is neither. -/
  role : ∀ key k, RefersTo c.columns key k →
    k.role = if key ∈ q.measures then .measure else if key ∈ q.dimensions then .dimension else .time
  /-- The name of the column of a key is that of exactly one item of the select list. -/
  aliasName : ∀ key k, RefersTo c.columns key k →
    ∃! i : Nat, (c.selectTexts.map (·.2))[i]? = some k.aliasName

/-- The first key of the sort order of a request that refers to nothing that is selected. -/
def Request.IsUnselectedFirst (q : Request) (key : String) : Prop :=
  ∃ before item after, q.order = before ++ item :: after ∧ item.key = key ∧
    ¬q.Orders item.key ∧ ∀ x ∈ before, q.Orders x.key

variable {r : Registry} {options : CompileOptions} {q : Request} {n : Names}

/-- The column of an order key has the role in which the key is selected first. -/
theorem Names.Resolve.role_of_refersTo (h : n.Resolve r q) (hr : r.WellFormed) {key : String}
    {k : Column} (hk : RefersTo n.selection.columnList key k) :
    k.role = if key ∈ q.measures then .measure else if key ∈ q.dimensions then .dimension
      else .time := by
  rw [← Selection.orderedColumn?_eq_some_iff, Selection.orderedColumn?_columnList] at hk
  have hmeasures : n.selection.measures.find? (fun m => m.id = key) = none ↔ key ∉ q.measures := by
    rw [← h.map_measures, List.mem_map, List.find?_eq_none]
    simp [Names.selection]
  have hdimensions :
      n.selection.dimensions.find? (fun d => d.id = key) = none ↔ key ∉ q.dimensions := by
    rw [← h.map_dimensions, List.mem_map, List.find?_eq_none]
    simp [Names.selection]
  split at hk
  case isTrue hkey =>
    -- The time key is the identifier of no member.
    have hnot : key ∉ q.measures ++ q.dimensions :=
      fun hmem => isMemberId_ne_timeKey (h.isMemberId_of_mem hr key hmem) hkey
    rw [List.mem_append, not_or] at hnot
    obtain ⟨t, -, rfl⟩ := Option.map_eq_some_iff.1 hk
    rw [if_neg hnot.1, if_neg hnot.2]
    rfl
  case isFalse hkey =>
    cases hm : n.selection.measures.find? (fun m => m.id = key) with
    | some m =>
      have hmem : key ∈ q.measures := by
        by_contra hnot
        rw [hmeasures.2 hnot] at hm
        cases hm
      rw [hm] at hk
      obtain rfl : m.column = k := by simpa using hk
      rw [if_pos hmem]
      rfl
    | none =>
      rw [hm, Option.map_none, Option.none_or] at hk
      rw [if_neg (hmeasures.1 hm)]
      cases hd : n.selection.dimensions.find? (fun d => d.id = key) with
      | some d =>
        have hmem : key ∈ q.dimensions := by
          by_contra hnot
          rw [hdimensions.2 hnot] at hd
          cases hd
        rw [hd] at hk
        obtain rfl : d.column = k := by simpa using hk
        rw [if_pos hmem]
        rfl
      | none =>
        rw [hd, Option.map_none, Option.none_or] at hk
        obtain ⟨t, -, rfl⟩ := Option.map_eq_some_iff.1 hk
        rw [if_neg (hdimensions.1 hd)]
        rfl

/-- An order term by a column is written as the name of the column and the direction. -/
theorem render_orderTerm (d : Dialect) (name : String) (dir : SortDirection) :
    Tokens.render d ((⟨.column none name, some dir⟩ : OrderTerm).tokens d) = sortText name dir := by
  have htokens : (⟨.column none name, some dir⟩ : OrderTerm).tokens d =
      [.identifier name, .space, .keyword dir.keyword] := by
    rw [OrderTerm.tokens, Expr.tokens]
    rfl
  rw [htokens]
  cases dir <;> simp [Tokens.render, Token.render, SortDirection.keyword, Keyword.text, sortText]

namespace Compilation

variable (k : Compilation r options q)

/-- The texts of the sort order are those of the columns to which the keys refer. -/
theorem forall₂_orderBy (horder : q.order ≠ []) :
    List.Forall₂ (fun item text => ∃ c, RefersTo k.result.columns item.key c ∧
      text = sortText c.aliasName item.direction) q.order k.result.orderBy := by
  have hitems := orderTerms_eq_ok_iff.1 k.order_eq
  rw [if_neg horder] at hitems
  unfold CompiledQuery.orderBy
  rw [List.forall₂_map_right_iff]
  refine hitems.imp fun item o ⟨c, hc, ho⟩ => ⟨c, refersTo_of_orderedColumn? hc, ?_⟩
  rw [ho, render_orderTerm]

/-- Without a request for a sort order it is the one by time. -/
theorem orderBy_of_nil (horder : q.order = []) :
    k.result.orderBy = if q.time = none then [] else ["\"time\" ASC"] := by
  have hitems := orderTerms_eq_ok_iff.1 k.order_eq
  rw [if_pos horder] at hitems
  have htime : (k.names.selection.columnList.any fun c => c.role = .time) = true ↔
      q.time ≠ none := by
    have hselected : k.names.selection.time = none ↔ q.time = none := by
      rw [← k.resolve.map_time, Option.map_eq_none_iff]
      exact Option.map_eq_none_iff
    rw [ne_eq, ← hselected, ← ne_eq, ← Selection.exists_time_column_iff]
    simp
  have horderBy : k.result.orderBy = (defaultOrder k.names.selection.columnList).map fun o =>
      Tokens.render options.dialect (o.tokens options.dialect) := by
    rw [← hitems]
    rfl
  rw [horderBy, defaultOrder]
  by_cases hnone : q.time = none
  · rw [if_pos hnone, if_neg fun h => htime.1 h hnone]
    rfl
  · have htext : sortText timeKey .asc = "\"time\" ASC" := by decide
    rw [if_neg hnone, if_pos (htime.2 hnone), List.map_singleton, render_orderTerm, htext]

/-- The name of an output column is that of one item of the select list. -/
theorem existsUnique_aliasName {c : Column} (hc : c ∈ k.result.columns) :
    ∃! i : Nat, (k.result.selectTexts.map (·.2))[i]? = some c.aliasName := by
  have hnames : k.result.selectTexts.map (·.2) = k.result.columns.map (·.aliasName) := by
    rw [k.selectTexts_eq, List.map_map]
    rfl
  have hnodup : (k.result.columns.map (·.aliasName)).Nodup := k.columns_nodup
  rw [hnames]
  obtain ⟨i, hi⟩ := List.mem_iff_getElem?.1 (List.mem_map_of_mem (f := (·.aliasName)) hc)
  obtain ⟨hlt, -⟩ := List.getElem?_eq_some_iff.1 hi
  exact ⟨i, hi, fun j hj => ((List.getElem?_inj hlt hnodup).1 (hi.trans hj.symm)).symm⟩

/-- A compiled query is sorted by its output columns. -/
theorem sortsColumns (hr : r.WellFormed) : k.result.SortsColumns q where
  items := k.forall₂_orderBy
  default := k.orderBy_of_nil
  role _ _ h := k.resolve.role_of_refersTo hr h
  aliasName _ _ h := k.existsUnique_aliasName h.mem

end Compilation

/-- The columns of a selectable request without clashing names are made, and the sort order decides
whether there is a key that is not selected. -/
theorem Request.Selectable.compile_eq_orderKeyNotSelected_iff (h : q.Selectable r)
    (hr : r.WellFormed)
    (haliases : ∀ a ∈ q.measures ++ q.dimensions, ∀ b ∈ q.measures ++ q.dimensions,
      outputAlias a = outputAlias b → a = b) {key : String} :
    r.compile options q = .error (.orderKeyNotSelected key) ↔ q.IsUnselectedFirst key := by
  obtain ⟨n, hn, hs⟩ := h.exists_sound
  have hcolumns : n.selection.columns = .ok n.selection.columnList :=
    Selection.columns_eq_ok_iff.2
      ⟨(hn.nodup_aliases_iff hr h.measures_nodup h.dimensions_nodup).2 haliases, rfl⟩
  have horder : orderTerms n.selection.columnList q.order = .error (.orderKeyNotSelected key) ↔
      q.IsUnselectedFirst key := by
    have hnone : ∀ item : OrderItem,
        orderKeyFault? n.selection.columnList item = none ↔ q.Orders item.key := by
      intro item
      rw [← hn.orderedColumn?_isSome_iff hr, orderKeyFault?]
      split <;> simp_all
    have hsome : ∀ item : OrderItem,
        orderKeyFault? n.selection.columnList item = some (.orderKeyNotSelected key) ↔
          item.key = key ∧ ¬q.Orders item.key := by
      intro item
      rw [← hn.orderedColumn?_isSome_iff hr, orderKeyFault?]
      split <;> simp_all
    rw [failsWith_orderTerms _ _ _, List.findSome?_eq_some_iff]
    simp only [hnone, hsome, and_assoc]
    rfl
  unfold Registry.compile Registry.compileSelection
  rw [Registry.names_eq_ok_iff.2 hn]
  show n.select >>= _ = _ ↔ _
  rw [Names.select_eq_ok_iff.2 ⟨hs, rfl⟩]
  show n.selection.columns >>= _ = _ ↔ _
  rw [hcolumns]
  show orderTerms n.selection.columnList q.order >>= _ = _ ↔ _
  rw [bind_eq_error_iff, horder]
  refine or_iff_left ?_
  -- The errors of the clauses that follow the sort order are others.
  rintro ⟨os, -, hrest⟩
  exact r.failsOnlyWith_clauses _ _ _ _ _ hrest

/-- Over a registry that is built, whatever its expressions are checked for, a compiled query is
sorted by its output columns, in the order of the keys of its request. A request with a key that is
not selected, if it passes the earlier checks, fails with the first such key, and no other request
that passes them fails so. -/
theorem compile_sorts_columns {check : ExpressionCheck} {d : Draft}
    (hd : d.buildWith check = .ok r) (options : CompileOptions) (q : Request) :
    (∀ c, r.compile options q = .ok c → c.SortsColumns q) ∧
      (q.Selectable r →
        (∀ a ∈ q.measures ++ q.dimensions, ∀ b ∈ q.measures ++ q.dimensions,
          outputAlias a = outputAlias b → a = b) →
        ∀ key, r.compile options q = .error (.orderKeyNotSelected key) ↔
          q.IsUnselectedFirst key) := by
  have hr := Draft.wellFormed_of_buildWith hd
  refine ⟨?_, fun h haliases key => h.compile_eq_orderKeyNotSelected_iff hr haliases⟩
  intro c hc
  obtain ⟨k, rfl⟩ := Registry.compile_eq_ok_iff.1 hc
  exact k.sortsColumns hr

/-- Page views by quarter, where the quarter is selected in both ways, sorted by it in both ways and
by a measure. -/
def sortedViews : Request where
  measures := ["views.count"]
  dimensions := ["users.role", "views.seen_at"]
  time := some ⟨"views.seen_at", .quarter, none⟩
  order := [⟨"time", .desc⟩, ⟨"views.count", .asc⟩, ⟨"views.seen_at", .asc⟩, ⟨"time", .desc⟩]

/-- Page views sorted by roles and time, which are not selected. -/
def unsortableViews : Request where
  measures := ["views.count"]
  order := [⟨"views.count", .asc⟩, ⟨"users.role", .asc⟩, ⟨"time", .asc⟩]

/-- The page views by quarter are sorted by their columns, and those that are to be sorted by what
is not selected fail with the first such key. -/
theorem compile_sorts_columns_sortedViews :
    ∃ r, Draft.pageViews.build = .ok r ∧
      (∃ c, r.compile { dialect := .sqlite } sortedViews = .ok c ∧ c.SortsColumns sortedViews) ∧
      unsortableViews.Selectable r ∧ unsortableViews.IsUnselectedFirst "users.role" ∧
      r.compile { dialect := .sqlite } unsortableViews =
        .error (.orderKeyNotSelected "users.role") := by
  have hcompiles :
      (Draft.pageViewsRegistry.compile { dialect := .sqlite } sortedViews).toBool = true := by
    decide +kernel
  obtain ⟨c, hc⟩ := exists_ok_of_toBool hcompiles
  have hselectable : unsortableViews.Selectable Draft.pageViewsRegistry := {
    measures := by decide +kernel
    dimensions := by decide +kernel
    order := by decide +kernel
    nonempty := by decide
    measures_nodup := by decide
    dimensions_nodup := by decide
    time := by simp [unsortableViews]
    dateRange := rfl }
  have hfirst : unsortableViews.IsUnselectedFirst "users.role" :=
    ⟨[⟨"views.count", .asc⟩], ⟨"users.role", .asc⟩, [⟨"time", .asc⟩], rfl, rfl,
      by simp [Request.Orders, unsortableViews, timeKey],
      by simp [Request.Orders, unsortableViews]⟩
  have hsorted := compile_sorts_columns Draft.pageViews_build { dialect := .sqlite } sortedViews
  have hunsorted :=
    compile_sorts_columns Draft.pageViews_build { dialect := .sqlite } unsortableViews
  have haliases : ∀ a ∈ unsortableViews.measures ++ unsortableViews.dimensions,
      ∀ b ∈ unsortableViews.measures ++ unsortableViews.dimensions,
        outputAlias a = outputAlias b → a = b := by
    simp [unsortableViews]
  exact ⟨_, Draft.pageViews_build, ⟨c, hc, hsorted.1 c hc⟩, hselectable, hfirst,
    (hunsorted.2 hselectable haliases "users.role").2 hfirst⟩

example :
    ((Draft.pageViewsRegistry.compile {} sortedViews).map (·.orderBy)).toOption =
      some ["\"time\" DESC", "\"views_count\" ASC", "\"views_seen_at\" ASC",
        "\"time\" DESC"] := by
  decide +kernel

end MetricLayer
