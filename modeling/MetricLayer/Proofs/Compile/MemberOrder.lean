import Mathlib.Data.List.Perm.Basic
import MetricLayer.Proofs.Compile.Grouping
import MetricLayer.Proofs.Compile.Numbering
import MetricLayer.Proofs.Compile.Reachability
import MetricLayer.Proofs.Compile.SortOrder

/-!
# The order of the members of a request

Two requests for the same members (`Request.SameMembers`) differ in the order in which they list
their measures, their dimensions and their filters. Either both of them compile or neither does, and
then to queries that read the same tables in the same way, sort and limit alike, and select, group
and bind the same, up to order (`CompiledQuery.SameEntries`). This is `compile_sameMembers`.

Each stage of a compilation is taken over from one request to the other (`Compilation.reorder`). The
checks ask for members that are distinct, and the joins for a set of tables, so that neither depends
on the order. An order key finds the first column of a member; the identifiers of the measures are
distinct, and so are those of the dimensions, so that the first is the only one of its kind.
-/

namespace MetricLayer

/-! ## Requests for the same members -/

/-- Two requests differ at most in the order of their measures, their dimensions and their
filters. -/
structure Request.SameMembers (q p : Request) : Prop where
  /-- The measures are the same, up to order. -/
  measures : q.measures.Perm p.measures
  /-- The dimensions are the same, up to order. -/
  dimensions : q.dimensions.Perm p.dimensions
  /-- The filters are the same, up to order. -/
  filters : q.filters.Perm p.filters
  /-- The time dimension is the same. -/
  time : q.time = p.time
  /-- The sort order is the same. -/
  order : q.order = p.order
  /-- The limit is the same. -/
  limit : q.limit = p.limit
  /-- The offset is the same. -/
  offset : q.offset = p.offset

/-- It does not matter which of the requests is the first. -/
theorem Request.SameMembers.symm {q p : Request} (h : q.SameMembers p) : p.SameMembers q :=
  ⟨h.measures.symm, h.dimensions.symm, h.filters.symm, h.time.symm, h.order.symm, h.limit.symm,
    h.offset.symm⟩

/-- Two compiled queries read, sort and limit alike, and differ at most in the order in which they
select, group and bind. -/
structure CompiledQuery.SameEntries (c e : CompiledQuery) : Prop where
  /-- The tables and their joins have the same text. -/
  source : c.source = e.source
  /-- The sort order has the same texts, in the same order. -/
  orderBy : c.orderBy = e.orderBy
  /-- The limit is the same. -/
  limit : c.limit = e.limit
  /-- The offset is the same. -/
  offset : c.offset = e.offset
  /-- The select list has the same items, up to order. -/
  select : c.selectTexts.Perm e.selectTexts
  /-- The output columns are the same, up to order. -/
  columns : c.columns.Perm e.columns
  /-- The grouping has the same entries, up to order. -/
  groupBy : c.groupBy.Perm e.groupBy
  /-- The values of the placeholders are the same, up to order. -/
  params : c.params.Perm e.params

/-! ## Names -/

/-- Two lists of definitions differ at most in the order of the measures, the dimensions and the
filters. -/
structure Names.SameMembers (n m : Names) : Prop where
  /-- The measures are the same, up to order. -/
  measures : n.measures.Perm m.measures
  /-- The dimensions are the same, up to order. -/
  dimensions : n.dimensions.Perm m.dimensions
  /-- The filters are the same, up to order. -/
  filters : n.filters.Perm m.filters
  /-- The time clause is the same. -/
  time : n.time = m.time

variable {r : Registry} {options : CompileOptions} {q p : Request} {n m : Names}

/-- The names of requests for the same members have the same definitions. -/
theorem Names.Resolve.exists_sameMembers (h : n.Resolve r q) (hqp : q.SameMembers p) :
    ∃ m : Names, m.Resolve r p ∧ n.SameMembers m := by
  -- The definitions are moved along with the names that they belong to.
  obtain ⟨ms, hms, hmsPerm⟩ := List.perm_comp_forall₂ hqp.measures.symm h.measures
  obtain ⟨ds, hds, hdsPerm⟩ := List.perm_comp_forall₂ hqp.dimensions.symm h.dimensions
  obtain ⟨fs, hfs, hfsPerm⟩ := List.perm_comp_forall₂ hqp.filters.symm h.filters
  exact ⟨⟨ms, ds, fs, n.time⟩, ⟨hms, hds, hfs, hqp.time ▸ h.time, hqp.order ▸ h.order⟩,
    ⟨hmsPerm.symm, hdsPerm.symm, hfsPerm.symm, rfl⟩⟩

namespace Names.SameMembers

/-- Whether what is named can be selected does not depend on the order. -/
theorem sound (h : n.SameMembers m) (hn : n.Sound) : m.Sound where
  nonempty := by
    rintro ⟨hms, hds, ht⟩
    refine hn.nonempty ⟨?_, ?_, h.time.trans ht⟩
    · exact List.perm_nil.1 (hms ▸ h.measures)
    · exact List.perm_nil.1 (hds ▸ h.dimensions)
  measures := (h.measures.map _).nodup_iff.1 hn.measures
  dimensions := (h.dimensions.map _).nodup_iff.1 hn.dimensions
  time := h.time ▸ hn.time

/-- The time dimension is the same. -/
theorem time_eq (h : n.SameMembers m) : n.selection.time = m.selection.time :=
  congrArg (Option.map _) h.time

/-- The columns are the same, up to order. -/
theorem columnList (h : n.SameMembers m) :
    n.selection.columnList.Perm m.selection.columnList := by
  unfold Selection.columnList
  rw [h.time_eq]
  exact (h.measures.map _).append ((h.dimensions.map _).append_right _)

/-- The tables that own the names are the same, up to order. -/
theorem tables (h : n.SameMembers m) : n.selection.tables.Perm m.selection.tables := by
  unfold Selection.tables
  rw [h.time_eq]
  exact (h.measures.map _).append ((h.dimensions.map _).append ((h.filters.map _).append_right _))

/-- An order key finds the same column. -/
theorem orderedColumn?_eq (h : n.SameMembers m) (hn : n.Sound) (key : String) :
    orderedColumn? n.selection.columnList key = orderedColumn? m.selection.columnList key := by
  -- The identifiers are distinct among the members of one kind, which are therefore looked up apart
  -- from those of the others.
  have hmeasures : n.selection.measures.find? (fun x => x.id = key) =
      m.selection.measures.find? fun x => x.id = key :=
    find?_eq_of_perm h.measures hn.measures key
  have hdimensions : n.selection.dimensions.find? (fun x => x.id = key) =
      m.selection.dimensions.find? fun x => x.id = key :=
    find?_eq_of_perm h.dimensions hn.dimensions key
  rw [Selection.orderedColumn?_columnList, Selection.orderedColumn?_columnList, hmeasures,
    hdimensions, h.time_eq]

/-- The grouping is the same, up to order. -/
theorem grouping (h : n.SameMembers m) :
    n.selection.grouping.Perm m.selection.grouping := by
  -- Which occurrence of an operand is kept depends on the order, but not which operands are.
  refine (firstOccurrences_distinctFrom _).perm (firstOccurrences_distinctFrom _) fun x => ?_
  have hoperands := (h.dimensions.map Dimension.operand).append_right
    (m.selection.time.toList.map (·.bucket))
  rw [h.time_eq]
  exact hoperands.mem_iff

end Names.SameMembers

/-! ## The sort order -/

/-- The sort order by time depends only on what the time key finds. -/
theorem defaultOrder_eq (cs : List Column) :
    defaultOrder cs =
      if (orderedColumn? cs timeKey).isSome then [⟨.column none timeKey, some .asc⟩] else [] := by
  have htime : (cs.any fun c => c.role = .time) = true ↔
      (orderedColumn? cs timeKey).isSome = true := by
    rw [orderedColumn?, if_pos rfl, List.any_eq_true, List.find?_isSome]
  unfold defaultOrder
  simp only [htime]

/-- The sort order depends only on the columns that are found. -/
theorem orderTerms_congr {cs ds : List Column}
    (h : ∀ key, orderedColumn? cs key = orderedColumn? ds key) (items : List OrderItem) :
    orderTerms cs items = orderTerms ds items := by
  have hterm : orderTerm cs = orderTerm ds := by
    funext item
    unfold orderTerm
    rw [h]
  unfold orderTerms
  rw [defaultOrder_eq, defaultOrder_eq, h, hterm]

/-! ## Compilations -/

namespace Compilation

/-- The values of the placeholders are the parameters of the filters and of the date range. -/
theorem params_eq (k : Compilation r options q) :
    k.result.params = q.filterParameters ++ boundValues (k.names.rangeConjuncts q) := by
  have hconjuncts : k.result.params = boundValues k.selection.statedConjuncts := rfl
  rw [hconjuncts, k.statedConjuncts_eq, boundValues, List.flatMap_append]
  rw [← boundValues, boundValues_statedFilters, k.resolve.map_filters]
  rfl

/-- The same stages succeed for a request for the same members. -/
def reorder (k : Compilation r options q) (hm : m.Resolve r p) (hqp : q.SameMembers p)
    (hkm : k.names.SameMembers m) : Compilation r options p where
  names := m
  order := k.order
  plan := k.plan
  resolve := hm
  sound := hkm.sound k.sound
  columns_nodup := (hkm.columnList.map _).nodup_iff.1 k.columns_nodup
  order_eq := by
    rw [← orderTerms_congr (hkm.orderedColumn?_eq k.sound), ← hqp.order]
    exact k.order_eq
  page_eq := by
    rw [← hqp.limit, ← hqp.offset, ← k.page_eq, pagination, pagination, hqp.limit, hqp.offset]
  plan_eq := by
    rw [← k.plan_eq]
    exact Registry.joinPlan_congr fun t => hkm.tables.symm.mem_iff
  fits x hx := k.fits x (hkm.filters.mem_iff.2 hx)

variable (k : Compilation r options q) (hm : m.Resolve r p) (hqp : q.SameMembers p)
  (hkm : k.names.SameMembers m)

/-- The values of the filters are the same, up to order, and are followed by those of the date
range. -/
theorem params_reorder : k.result.params.Perm (k.reorder hm hqp hkm).result.params := by
  have hparameters : q.filterParameters.Perm p.filterParameters :=
    hqp.filters.flatMap_right Filter.parameters
  have hrange : k.names.rangeConjuncts q = m.rangeConjuncts p := by
    unfold Names.rangeConjuncts
    rw [hkm.time_eq, hparameters.length_eq]
  have hparams : (k.reorder hm hqp hkm).result.params =
      p.filterParameters ++ boundValues (m.rangeConjuncts p) :=
    (k.reorder hm hqp hkm).params_eq
  rw [hparams, k.params_eq, hrange]
  exact hparameters.append_right _

/-- The limits are the same. -/
theorem page_reorder : k.result.query.page = (k.reorder hm hqp hkm).result.query.page := by
  unfold result
  rw [hqp.limit, hqp.offset]

/-- The compiled queries have the same entries. -/
theorem sameEntries_reorder : k.result.SameEntries (k.reorder hm hqp hkm).result where
  source := rfl
  orderBy := rfl
  limit := by rw [CompiledQuery.limit, k.page_reorder hm hqp hkm, ← CompiledQuery.limit]
  offset := by rw [CompiledQuery.offset, k.page_reorder hm hqp hkm, ← CompiledQuery.offset]
  select := (hkm.columnList.map Column.selectItem).map _
  columns := hkm.columnList
  groupBy := (hkm.grouping.map _).map _
  params := k.params_reorder hm hqp hkm

end Compilation

/-- A request for the same members compiles too, to a query with the same entries. -/
theorem Request.SameMembers.compile_eq_ok (h : q.SameMembers p) {c : CompiledQuery}
    (hc : r.compile options q = .ok c) :
    ∃ e, r.compile options p = .ok e ∧ c.SameEntries e := by
  obtain ⟨k, rfl⟩ := Registry.compile_eq_ok_iff.1 hc
  obtain ⟨m, hm, hkm⟩ := k.resolve.exists_sameMembers h
  exact ⟨_, Registry.compile_eq_ok_iff.2 ⟨k.reorder hm h hkm, rfl⟩, k.sameEntries_reorder hm h hkm⟩

/-- Of two requests for the same members, either both compile or neither does, and the compiled
queries have the same entries. -/
theorem compile_sameMembers (r : Registry) (options : CompileOptions) (q p : Request)
    (h : q.SameMembers p) :
    ((∃ c, r.compile options q = .ok c) ↔ ∃ e, r.compile options p = .ok e) ∧
      ∀ c e, r.compile options q = .ok c → r.compile options p = .ok e → c.SameEntries e := by
  refine ⟨⟨?_, ?_⟩, ?_⟩
  · rintro ⟨c, hc⟩
    obtain ⟨e, he, -⟩ := h.compile_eq_ok hc
    exact ⟨e, he⟩
  · rintro ⟨e, he⟩
    obtain ⟨c, hc, -⟩ := h.symm.compile_eq_ok he
    exact ⟨c, hc⟩
  · intro c e hc he
    obtain ⟨e', he', hsame⟩ := h.compile_eq_ok hc
    rwa [Except.ok.inj (he.symm.trans he')]

/-- The page views with the time of the latest one. -/
def Draft.recentViews : Draft :=
  pageViews.addMeasure ⟨"views.latest", "views", .max, "MAX(v.seen_at)", ""⟩

/-- The registry of `Draft.recentViews`. -/
def Draft.recentViewsRegistry : Registry :=
  (recentViews.declared "views").inOrder

/-- The latest page views by role and quarter, of some roles. -/
def latestViewsByRole : Request where
  measures := ["views.count", "views.latest"]
  dimensions := ["users.role", "views.seen_at"]
  filters := [⟨"users.role", .isIn, [.text "student", .text "teacher"]⟩,
    ⟨"views.seen_at", .ne, [.int 7]⟩]
  time := some ⟨"views.seen_at", .quarter, some ⟨"2024-02-01", "2024-02-29"⟩⟩
  order := [⟨"views.latest", .desc⟩, ⟨"users.role", .asc⟩]
  limit := some 500
  offset := some 20

/-- The latest page views by role, with the members in other orders. -/
def latestViewsByQuarter : Request :=
  { latestViewsByRole with
    measures := ["views.latest", "views.count"]
    dimensions := ["views.seen_at", "users.role"]
    filters := [⟨"views.seen_at", .ne, [.int 7]⟩,
      ⟨"users.role", .isIn, [.text "student", .text "teacher"]⟩] }

/-- The latest page views compile in both orders, to queries with the same entries. -/
theorem compile_sameMembers_latestViews :
    ∃ r, Draft.recentViews.build = .ok r ∧ latestViewsByRole.SameMembers latestViewsByQuarter ∧
      ∃ c e, r.compile { maxLimit := some 100 } latestViewsByRole = .ok c ∧
        r.compile { maxLimit := some 100 } latestViewsByQuarter = .ok e ∧ c.SameEntries e := by
  have hbuild : Draft.recentViews.build = .ok Draft.recentViewsRegistry :=
    Draft.build_eq_of_toBool (by decide +kernel) rfl
  have hmembers : latestViewsByRole.SameMembers latestViewsByQuarter :=
    ⟨.swap _ _ _, .swap _ _ _, .swap _ _ _, rfl, rfl, rfl, rfl⟩
  have hcompiles : (Draft.recentViewsRegistry.compile { maxLimit := some 100 }
      latestViewsByRole).toBool = true := by
    decide +kernel
  have hsame := compile_sameMembers Draft.recentViewsRegistry { maxLimit := some 100 } _ _ hmembers
  obtain ⟨c, hc⟩ := exists_ok_of_toBool hcompiles
  obtain ⟨e, he⟩ := hsame.1.1 ⟨c, hc⟩
  exact ⟨_, hbuild, hmembers, c, e, hc, he, hsame.2 c e hc he⟩

end MetricLayer
