import MetricLayer.Proofs.Compile.Compilation

/-!
# Which requests compile

Over a registry that is built, a request compiles just if it is `Request.Acceptable`, which is said
in the words of the request: `compile_ok_iff_acceptable`.

A compilation holds the definitions that the names stand for (`Names.Resolve`), and each condition
on these is one on the names of the request. That no later stage adds a condition of its own is in
`Registry.exists_compile_iff`. The column of the time dimension clashes with no other and an order
key is not mistaken, since a member identifier has a period and the time key has none.
-/

namespace MetricLayer

/-! ## Acceptable requests -/

/-- The identifiers of dimensions in a request: those that are selected, and those of the filters
and the time clause. -/
def Request.dimensionIds (q : Request) : List String :=
  q.dimensions ++ (q.filters.map (·.dimension) ++ q.time.toList.map (·.dimension))

/-- The tables that own the measures and dimensions of a request. -/
def Registry.owners (r : Registry) (q : Request) : List String :=
  (q.measures.filterMap r.measure?).map (·.table) ++
    (q.dimensionIds.filterMap r.dimension?).map (·.table)

/-- An order key is the time key of a request with a time clause, or an identifier that the request
selects. -/
def Request.Orders (q : Request) (key : String) : Prop :=
  (key = timeKey ∧ q.time ≠ none) ∨ key ∈ q.measures ∨ key ∈ q.dimensions ∨
    ∃ t ∈ q.time, key = t.dimension

/-- The conditions under which a registry compiles a request. -/
structure Request.Acceptable (r : Registry) (q : Request) : Prop where
  /-- Every measure is registered. -/
  measures : ∀ id ∈ q.measures, (r.measure? id).isSome
  /-- Every dimension is registered, also those of the filters and the time clause. -/
  dimensions : ∀ id ∈ q.dimensionIds, (r.dimension? id).isSome
  /-- Every order key refers to the selection. -/
  order : ∀ item ∈ q.order, q.Orders item.key
  /-- Something is selected. -/
  nonempty : q.measures ≠ [] ∨ q.dimensions ≠ [] ∨ q.time ≠ none
  /-- No measure is repeated. -/
  measures_nodup : q.measures.Nodup
  /-- No dimension is repeated. -/
  dimensions_nodup : q.dimensions.Nodup
  /-- No two selected members have the same column name. -/
  aliases : ∀ a ∈ q.measures ++ q.dimensions, ∀ b ∈ q.measures ++ q.dimensions,
    outputAlias a = outputAlias b → a = b
  /-- The time dimension holds timestamps. -/
  time : ∀ t ∈ q.time, ∀ d, r.dimension? t.dimension = some d → d.kind = .time
  /-- The date range is well formed. -/
  dateRange : checkDateRange q.dateRange = .ok ()
  /-- A query can name the limit. -/
  limit : ∀ n ∈ q.limit, n.toNat ≤ maxRows
  /-- A query can name the offset. -/
  offset : ∀ n ∈ q.offset, n.toNat ≤ maxRows
  /-- An offset comes with a limit other than zero. -/
  offset_limit : q.offset ≠ none → ∃ n, q.limit = some n ∧ n ≠ 0
  /-- The tables that own the members can be joined. -/
  joins : ∃ p, r.joinPlan (r.owners q) = .ok p
  /-- Every filter has as many values as its operator takes. -/
  filters : ∀ f ∈ q.filters, f.Fits

/-! ## The conditions on the definitions -/

variable {r : Registry} {options : CompileOptions} {q : Request} {n : Names}

/-- A request compiles if its names are found and what they name passes the checks of the stages. -/
theorem Registry.exists_compile_iff :
    (∃ c, r.compile options q = .ok c) ↔
      ∃ n : Names, n.Resolve r q ∧ n.Sound ∧ (n.selection.columnList.map (·.aliasName)).Nodup ∧
        (∀ item ∈ q.order, (orderedColumn? n.selection.columnList item.key).isSome) ∧
        ((∀ k ∈ q.limit, k.toNat ≤ maxRows) ∧ (∀ k ∈ q.offset, k.toNat ≤ maxRows) ∧
          (q.offset ≠ none → ∃ k, q.limit = some k ∧ k ≠ 0)) ∧
        (∃ p, r.joinPlan n.selection.tables = .ok p) ∧ ∀ p ∈ n.filters, p.1.Fits := by
  simp only [Registry.compile_eq_ok_iff]
  constructor
  · rintro ⟨_, k, rfl⟩
    have hpage := pagination_eq_ok_iff.1 k.page_eq
    exact ⟨k.names, k.resolve, k.sound, k.columns_nodup, exists_orderTerms_iff.1 ⟨_, k.order_eq⟩,
      ⟨hpage.1, hpage.2.1, hpage.2.2.1⟩, ⟨_, k.plan_eq⟩, k.fits⟩
  · rintro ⟨n, hn, hs, hcolumns, horder, ⟨hlimit, hoffset, hboth⟩, ⟨plan, hplan⟩, hfits⟩
    obtain ⟨os, hos⟩ := exists_orderTerms_iff.2 horder
    have hpage : pagination options.maxLimit q =
        .ok ⟨effectiveLimit options.maxLimit q.limit, q.offset⟩ :=
      pagination_eq_ok_iff.2 ⟨hlimit, hoffset, hboth, rfl⟩
    exact ⟨_, ⟨n, os, plan, hn, hs, hcolumns, hos, hpage, hplan, hfits⟩, rfl⟩

/-- The names of a request are found if each is in its catalogue. -/
theorem Names.exists_resolve_iff :
    (∃ n : Names, n.Resolve r q) ↔
      (∀ id ∈ q.measures, (r.measure? id).isSome) ∧
        (∀ id ∈ q.dimensionIds, (r.dimension? id).isSome) ∧
        ∀ item ∈ q.order,
          item.key = timeKey ∨ (r.measure? item.key).isSome ∨ (r.dimension? item.key).isSome := by
  have hdimensions : (∀ id ∈ q.dimensionIds, (r.dimension? id).isSome) ↔
      (∀ id ∈ q.dimensions, (r.dimension? id).isSome) ∧
        (∀ f ∈ q.filters, (r.dimension? f.dimension).isSome) ∧
        ∀ t ∈ q.time, (r.dimension? t.dimension).isSome := by
    unfold Request.dimensionIds
    simp only [List.forall_mem_append, List.forall_mem_map, Option.mem_toList, Option.mem_def]
  rw [hdimensions]
  simp only [Option.isSome_iff_exists]
  constructor
  -- Definitions that are found say that each name is in its catalogue.
  · rintro ⟨n, h⟩
    refine ⟨exists_results_iff.1 ⟨_, h.measures⟩, ⟨exists_results_iff.1 ⟨_, h.dimensions⟩, ?_, ?_⟩,
      by simpa only [Option.isSome_iff_exists] using h.order⟩
    · intro f hf
      obtain ⟨p, -, -, hp⟩ := exists_result_of_mem h.filters f hf
      exact ⟨p.2, hp⟩
    · intro t ht
      rw [← h.map_time] at ht
      obtain ⟨p, hp, rfl⟩ := Option.map_eq_some_iff.1 ht
      exact ⟨p.2, h.time_dimension hp⟩
  -- The definitions of all names are collected, those of filters beside the filters.
  · rintro ⟨hms, ⟨hds, hfs, ht⟩, horder⟩
    obtain ⟨ms, hms⟩ := exists_results_iff.2 hms
    obtain ⟨ds, hds⟩ := exists_results_iff.2 hds
    have hfilters : ∀ f ∈ q.filters, ∃ p : Filter × Dimension,
        f = p.1 ∧ r.dimension? f.dimension = some p.2 := by
      intro f hf
      obtain ⟨d, hd⟩ := hfs f hf
      exact ⟨(f, d), rfl, hd⟩
    obtain ⟨fs, hfs⟩ := exists_results_iff.2 hfilters
    simp only [← Option.isSome_iff_exists] at horder
    cases hq : q.time with
    | none => exact ⟨⟨ms, ds, fs, none⟩, hms, hds, hfs, by rw [hq]; exact .none, horder⟩
    | some t =>
      obtain ⟨d, hd⟩ := ht t hq
      exact ⟨⟨ms, ds, fs, some (t, d)⟩, hms, hds, hfs, by rw [hq]; exact .some ⟨rfl, hd⟩, horder⟩

/-! ## The conditions in the words of the request -/

namespace Names.Resolve

/-- The tables of the selection are those that own the members. -/
theorem tables_eq (h : n.Resolve r q) : n.selection.tables = r.owners q := by
  have hfilters : (q.filters.map (·.dimension)).filterMap r.dimension? = n.filters.map (·.2) := by
    refine filterMap_eq_of_results ?_
    rw [List.forall₂_map_left_iff, List.forall₂_map_right_iff]
    exact h.filters.imp fun _ _ hf => hf.2
  have htime : (q.time.toList.map (·.dimension)).filterMap r.dimension? =
      n.time.toList.map (·.2) := by
    rw [← h.map_time]
    cases hn : n.time with
    | none => rfl
    | some p => simp [h.time_dimension hn]
  unfold Registry.owners Request.dimensionIds
  rw [filterMap_eq_of_results h.measures, List.filterMap_append, List.filterMap_append,
    filterMap_eq_of_results h.dimensions, hfilters, htime, List.map_append, List.map_append,
    List.map_map, List.map_map]
  unfold Selection.tables Names.selection
  cases n.time with
  | none => rfl
  | some p => rfl

/-- Something is selected if the request selects something. -/
theorem nonempty_iff (h : n.Resolve r q) :
    ¬(n.measures = [] ∧ n.dimensions = [] ∧ n.time = none) ↔
      q.measures ≠ [] ∨ q.dimensions ≠ [] ∨ q.time ≠ none := by
  rw [← h.map_measures, ← h.map_dimensions, ← h.map_time, ne_eq, ne_eq, ne_eq, List.map_eq_nil_iff,
    List.map_eq_nil_iff, Option.map_eq_none_iff, not_and_or, not_and_or]

/-- The time dimension is in order if the one of the request is. -/
theorem time_iff (h : n.Resolve r q) :
    (∀ p ∈ n.time, p.2.kind = .time ∧ checkDateRange p.1.dateRange = .ok ()) ↔
      (∀ t ∈ q.time, ∀ d, r.dimension? t.dimension = some d → d.kind = .time) ∧
        checkDateRange q.dateRange = .ok () := by
  unfold Request.dateRange
  rw [← h.map_time]
  cases hn : n.time with
  | none => simp [checkDateRange]
  | some p => simp [h.time_dimension hn]

/-- The filters have as many values as their operators take if those of the request do. -/
theorem fits_iff (h : n.Resolve r q) : (∀ p ∈ n.filters, p.1.Fits) ↔ ∀ f ∈ q.filters, f.Fits := by
  rw [← h.map_filters, List.forall_mem_map]

/-- The selected measures and dimensions have member identifiers. -/
theorem isMemberId_of_mem (h : n.Resolve r q) (hr : r.WellFormed) :
    ∀ id ∈ q.measures ++ q.dimensions, isMemberId id := by
  intro id hid
  rcases List.mem_append.1 hid with hid | hid
  · obtain ⟨m, -, hm⟩ := exists_result_of_mem h.measures id hid
    obtain ⟨hmem, rfl⟩ := Registry.measure?_eq_some hm
    exact (hr.measures m hmem).id_wellFormed
  · obtain ⟨d, -, hd⟩ := exists_result_of_mem h.dimensions id hid
    obtain ⟨hmem, rfl⟩ := Registry.dimension?_eq_some hd
    exact (hr.dimensions d hmem).id_wellFormed

/-- A selected identifier is not that of a measure and of a dimension. -/
theorem nodup_members (h : n.Resolve r q) (hr : r.WellFormed) (hms : q.measures.Nodup)
    (hds : q.dimensions.Nodup) : (q.measures ++ q.dimensions).Nodup := by
  refine List.nodup_append'.2 ⟨hms, hds, fun id hm hd => ?_⟩
  obtain ⟨m, -, hm⟩ := exists_result_of_mem h.measures id hm
  obtain ⟨d, -, hd⟩ := exists_result_of_mem h.dimensions id hd
  obtain ⟨hmem, rfl⟩ := Registry.measure?_eq_some hm
  obtain ⟨hdmem, hid⟩ := Registry.dimension?_eq_some hd
  have hdisjoint := (List.nodup_append'.1 hr.ids_nodup).2.2
  exact hdisjoint (List.mem_map_of_mem hmem) (hid ▸ List.mem_map_of_mem hdmem)

/-- The columns have distinct names if the selected members have. -/
theorem nodup_aliases_iff (h : n.Resolve r q) (hr : r.WellFormed) (hms : q.measures.Nodup)
    (hds : q.dimensions.Nodup) :
    (n.selection.columnList.map (·.aliasName)).Nodup ↔
      ∀ a ∈ q.measures ++ q.dimensions, ∀ b ∈ q.measures ++ q.dimensions,
        outputAlias a = outputAlias b → a = b := by
  rw [← List.nodup_map_iff_inj_on (h.nodup_members hr hms hds), Selection.map_aliasName_columnList,
    show n.selection.measures = n.measures from rfl,
    show n.selection.dimensions = n.dimensions from rfl, h.map_measures, h.map_dimensions,
    List.nodup_append']
  -- The name of the time column is added at most once, and is no name of a member.
  have htime : (n.selection.time.toList.map fun _ => timeKey).Nodup := by
    cases n.selection.time with
    | none => exact List.nodup_nil
    | some t => exact List.nodup_singleton timeKey
  refine and_iff_left ⟨htime, fun a ha hmem => ?_⟩
  obtain ⟨id, hid, rfl⟩ := List.mem_map.1 ha
  obtain ⟨t, -, heq⟩ := List.mem_map.1 hmem
  exact outputAlias_ne_timeKey (h.isMemberId_of_mem hr id hid) heq.symm

/-- An order key refers to a column if it refers to the selection of the request. -/
theorem orderedColumn?_isSome_iff (h : n.Resolve r q) (hr : r.WellFormed) (key : String) :
    (orderedColumn? n.selection.columnList key).isSome ↔ q.Orders key := by
  have htime : n.selection.time = none ↔ q.time = none := by
    rw [← h.map_time, Option.map_eq_none_iff]
    exact Option.map_eq_none_iff
  have hmembers : key ∈ n.selection.columnList.map (·.member) ↔
      key ∈ q.measures ∨ key ∈ q.dimensions ∨ ∃ t ∈ q.time, key = t.dimension := by
    rw [Selection.map_member_columnList, show n.selection.measures = n.measures from rfl,
      show n.selection.dimensions = n.dimensions from rfl, h.map_measures, h.map_dimensions,
      List.mem_append, List.mem_append, ← h.map_time]
    unfold Names.selection
    cases n.time with
    | none => simp
    | some p => simp
  rw [Selection.orderedColumn?_isSome_iff, hmembers, ne_eq, htime]
  unfold Request.Orders
  split
  case isFalse hkey => simp [hkey]
  -- No measure or dimension has the time key as its identifier.
  case isTrue hkey =>
    refine ⟨fun ht => .inl ⟨hkey, ht⟩, ?_⟩
    rintro (⟨-, ht⟩ | hm | hd | ⟨t, ht, -⟩)
    · exact ht
    · have hid := h.isMemberId_of_mem hr key (List.mem_append_left _ hm)
      exact absurd hkey (isMemberId_ne_timeKey hid)
    · have hid := h.isMemberId_of_mem hr key (List.mem_append_right _ hd)
      exact absurd hkey (isMemberId_ne_timeKey hid)
    · exact fun hnone => absurd (ht.symm.trans hnone) (by simp)

end Names.Resolve

/-- An acceptable request mentions registered members only. -/
theorem Request.Acceptable.exists_resolve (h : q.Acceptable r) : ∃ n : Names, n.Resolve r q := by
  refine Names.exists_resolve_iff.2 ⟨h.measures, h.dimensions, fun item hitem => ?_⟩
  rcases h.order item hitem with ⟨hkey, -⟩ | hm | hd | ⟨t, ht, hkey⟩
  · exact .inl hkey
  · exact .inr (.inl (h.measures _ hm))
  · exact .inr (.inr (h.dimensions _ (List.mem_append_left _ hd)))
  · have hmem : item.key ∈ q.time.toList.map (·.dimension) :=
      List.mem_map.2 ⟨t, Option.mem_toList.2 ht, hkey.symm⟩
    exact .inr (.inr (h.dimensions _ (List.mem_append_right _ (List.mem_append_right _ hmem))))

/-- Over a registry that is built, whatever its expressions are checked for, a request compiles just
if it is acceptable. -/
theorem compile_ok_iff_acceptable {check : ExpressionCheck} {d : Draft}
    (hd : d.buildWith check = .ok r) (options : CompileOptions) (q : Request) :
    (∃ c, r.compile options q = .ok c) ↔ q.Acceptable r := by
  have hr := Draft.wellFormed_of_buildWith hd
  rw [Registry.exists_compile_iff]
  constructor
  · rintro ⟨n, hn, hs, hcolumns, horder, ⟨hlimit, hoffset, hboth⟩, hplan, hfits⟩
    obtain ⟨hms, hds, -⟩ := Names.exists_resolve_iff.1 ⟨n, hn⟩
    obtain ⟨htime, hrange⟩ := hn.time_iff.1 hs.time
    have hmn : q.measures.Nodup := hn.map_measures ▸ hs.measures
    have hdn : q.dimensions.Nodup := hn.map_dimensions ▸ hs.dimensions
    exact {
      measures := hms
      dimensions := hds
      order := fun item hitem => (hn.orderedColumn?_isSome_iff hr item.key).1 (horder item hitem)
      nonempty := hn.nonempty_iff.1 hs.nonempty
      measures_nodup := hmn
      dimensions_nodup := hdn
      aliases := (hn.nodup_aliases_iff hr hmn hdn).1 hcolumns
      time := htime
      dateRange := hrange
      limit := hlimit
      offset := hoffset
      offset_limit := hboth
      joins := hn.tables_eq ▸ hplan
      filters := hn.fits_iff.1 hfits }
  · intro h
    obtain ⟨n, hn⟩ := h.exists_resolve
    have hs : n.Sound := {
      nonempty := hn.nonempty_iff.2 h.nonempty
      measures := hn.map_measures.symm ▸ h.measures_nodup
      dimensions := hn.map_dimensions.symm ▸ h.dimensions_nodup
      time := hn.time_iff.2 ⟨h.time, h.dateRange⟩ }
    have hcolumns := (hn.nodup_aliases_iff hr h.measures_nodup h.dimensions_nodup).2 h.aliases
    have horder : ∀ item ∈ q.order, (orderedColumn? n.selection.columnList item.key).isSome :=
      fun item hitem => (hn.orderedColumn?_isSome_iff hr item.key).2 (h.order item hitem)
    exact ⟨n, hn, hs, hcolumns, horder, ⟨h.limit, h.offset, h.offset_limit⟩,
      hn.tables_eq.symm ▸ h.joins, hn.fits_iff.2 h.filters⟩

/-- The page views by quarter, which compile, are acceptable. -/
theorem compile_ok_iff_acceptable_quarterlyViews :
    ∃ r, Draft.pageViews.build = .ok r ∧ quarterlyViews.Acceptable r := by
  have hbuild := Draft.pageViews_build
  exact ⟨_, hbuild, (compile_ok_iff_acceptable hbuild { dialect := .sqlite } quarterlyViews).1
    quarterlyViews_compiles⟩

end MetricLayer
