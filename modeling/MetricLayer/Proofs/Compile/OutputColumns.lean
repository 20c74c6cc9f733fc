import MetricLayer.Proofs.Compile.Acceptance

/-!
# The output columns of a compiled query

A compiled query lists a column for each measure, each dimension and the time dimension of the
request, in this order, under names that are distinct (`CompiledQuery.ListsColumns`). Two members
may have the same column name, and then they are not selected together: the request fails with the
first member whose name is taken (`Request.IsTakenFirst`). This is all in `compile_names_columns`.

The columns of the members alone decide which name is taken first. The column of the time dimension
comes after them, and its name is that of no member, since a member identifier has a period.
-/

namespace MetricLayer

/-! ## The columns of a request -/

/-- The names, members and roles of the columns that a request asks for. -/
def Request.outputs (q : Request) : List (String × String × ColumnRole) :=
  q.measures.map (fun id => (outputAlias id, id, .measure)) ++
    (q.dimensions.map (fun id => (outputAlias id, id, .dimension)) ++
      q.time.toList.map fun t => ("time", t.dimension, .time))

/-- The expressions of the columns that a request asks for. -/
def Registry.outputExprs (r : Registry) (q : Request) : List Expr :=
  (q.measures.filterMap r.measure?).map (fun m => .raw m.sql) ++
    ((q.dimensions.filterMap r.dimension?).map (fun d => d.operand.expr) ++
      q.time.toList.filterMap fun t =>
        (r.dimension? t.dimension).map fun d => .bucket t.granularity (.raw d.sql))

/-- A compiled query lists the columns that its request asks for. -/
structure CompiledQuery.ListsColumns (r : Registry) (q : Request) (c : CompiledQuery) : Prop where
  /-- The items of the select list are those of the columns, under their names. -/
  select : c.selectTexts = c.columns.map fun k => (k.expr.sql c.dialect, k.aliasName)
  /-- The columns are those of the request, in its order. -/
  columns : c.columns.map (fun k => (k.aliasName, k.member, k.role)) = q.outputs
  /-- Their expressions are the registered ones. -/
  exprs : c.columns.map (·.expr) = r.outputExprs q
  /-- No two columns have the same name. -/
  nodup : (c.columns.map (·.aliasName)).Nodup
  /-- No two members whose columns would have the same name are selected. -/
  members : ∀ a ∈ q.measures ++ q.dimensions, ∀ b ∈ q.measures ++ q.dimensions,
    outputAlias a = outputAlias b → a = b

/-- The first of the selected members whose column name is that of a member before it. -/
def Request.IsTakenFirst (q : Request) (id : String) : Prop :=
  ∃ before after, q.measures ++ q.dimensions = before ++ id :: after ∧
    (before.map outputAlias).Nodup ∧ outputAlias id ∈ before.map outputAlias

/-- A request passes the checks that come before its columns are named. -/
structure Request.Selectable (r : Registry) (q : Request) : Prop where
  /-- Every measure is registered. -/
  measures : ∀ id ∈ q.measures, (r.measure? id).isSome
  /-- Every dimension is registered, also those of the filters and the time clause. -/
  dimensions : ∀ id ∈ q.dimensionIds, (r.dimension? id).isSome
  /-- Every order key is the time key or registered. -/
  order : ∀ item ∈ q.order,
    item.key = timeKey ∨ (r.measure? item.key).isSome ∨ (r.dimension? item.key).isSome
  /-- Something is selected. -/
  nonempty : q.measures ≠ [] ∨ q.dimensions ≠ [] ∨ q.time ≠ none
  /-- No measure is repeated. -/
  measures_nodup : q.measures.Nodup
  /-- No dimension is repeated. -/
  dimensions_nodup : q.dimensions.Nodup
  /-- The time dimension holds timestamps. -/
  time : ∀ t ∈ q.time, ∀ d, r.dimension? t.dimension = some d → d.kind = .time
  /-- The date range is well formed. -/
  dateRange : checkDateRange q.dateRange = .ok ()

variable {r : Registry} {options : CompileOptions} {q : Request} {n : Names}

/-- What a selectable request names is found and can be selected. -/
theorem Request.Selectable.exists_sound (h : q.Selectable r) :
    ∃ n : Names, n.Resolve r q ∧ n.Sound := by
  obtain ⟨n, hn⟩ := Names.exists_resolve_iff.2 ⟨h.measures, h.dimensions, h.order⟩
  exact ⟨n, hn, {
    nonempty := hn.nonempty_iff.2 h.nonempty
    measures := hn.map_measures.symm ▸ h.measures_nodup
    dimensions := hn.map_dimensions.symm ▸ h.dimensions_nodup
    time := hn.time_iff.2 ⟨h.time, h.dateRange⟩ }⟩

/-! ## Names that are taken -/

/-- A column whose name is taken comes after columns of distinct names, one of which has its name
unless it has been seen. -/
theorem exists_split_of_firstClash? {seen : List String} {cs : List Column} {c : Column}
    (h : firstClash? seen cs = some c) :
    ∃ before after, cs = before ++ c :: after ∧ Fresh seen (before.map (·.aliasName)) ∧
      (c.aliasName ∈ seen ∨ c.aliasName ∈ before.map (·.aliasName)) := by
  induction cs generalizing seen with
  | nil => exact absurd h (by simp [firstClash?])
  | cons x xs ih =>
    rw [firstClash?] at h
    split at h
    case isTrue hseen =>
      obtain rfl := Option.some.inj h
      exact ⟨[], xs, rfl, fresh_nil seen, .inl hseen⟩
    case isFalse hnew =>
      obtain ⟨before, after, rfl, hfresh, htaken⟩ := ih h
      refine ⟨x :: before, after, rfl, fresh_cons_iff.2 ⟨hnew, hfresh⟩, ?_⟩
      rw [List.mem_cons] at htaken
      rw [List.map_cons, List.mem_cons]
      tauto

/-- A name that is taken stays taken, whatever columns follow. -/
theorem firstClash?_append {seen : List String} {cs : List Column} {c : Column}
    (h : firstClash? seen cs = some c) (ds : List Column) :
    firstClash? seen (cs ++ ds) = some c := by
  induction cs generalizing seen with
  | nil => exact absurd h (by simp [firstClash?])
  | cons x xs ih =>
    rw [firstClash?] at h
    rw [List.cons_append, firstClash?]
    split at h
    case isTrue hseen => rwa [if_pos hseen]
    case isFalse hnew => rw [if_neg hnew, ih h]

namespace Selection

/-- The columns of the measures and the dimensions of a selection. -/
def memberColumns (s : Selection) : List Column :=
  s.measures.map Measure.column ++ s.dimensions.map Dimension.column

/-- The column of the time dimension comes after those of the members. -/
theorem columnList_eq_append (s : Selection) :
    s.columnList = s.memberColumns ++ s.time.toList.map SelectedTime.column :=
  (List.append_assoc _ _ _).symm

/-- The column of a member has the name that its identifier makes. -/
theorem aliasName_of_mem {s : Selection} :
    ∀ c ∈ s.memberColumns, c.aliasName = outputAlias c.member := by
  intro c hc
  rcases List.mem_append.1 hc with hc | hc
  · obtain ⟨m, -, rfl⟩ := List.mem_map.1 hc
    rfl
  · obtain ⟨d, -, rfl⟩ := List.mem_map.1 hc
    rfl

/-- Columns that are named after their members have the names that the identifiers make. -/
theorem map_aliasName_eq {cs : List Column} (h : ∀ c ∈ cs, c.aliasName = outputAlias c.member) :
    cs.map (·.aliasName) = (cs.map (·.member)).map outputAlias := by
  rw [List.map_map]
  exact List.map_congr_left h

/-- The columns of members of which two have the same name are not made: the member whose name is
taken first is reported. -/
theorem columns_eq_error {s : Selection} {c : Column}
    (h : firstClash? [] s.memberColumns = some c) :
    s.columns = .error (.duplicateIdentifier c.member) := by
  have hclash := firstClash?_append h (s.time.toList.map SelectedTime.column)
  unfold Selection.columns
  rw [columnList_eq_append, hclash]

end Selection

namespace Names.Resolve

/-- The columns of the members are of the selected measures and dimensions. -/
theorem map_member_memberColumns (h : n.Resolve r q) :
    n.selection.memberColumns.map (·.member) = q.measures ++ q.dimensions := by
  rw [← h.map_measures, ← h.map_dimensions]
  unfold Selection.memberColumns Names.selection
  simp only [List.map_append, List.map_map]
  rfl

/-- The column whose name is taken is that of the member that is taken first. -/
theorem isTakenFirst (h : n.Resolve r q) {c : Column}
    (hclash : firstClash? [] n.selection.memberColumns = some c) : q.IsTakenFirst c.member := by
  obtain ⟨before, after, hsplit, hfresh, htaken⟩ := exists_split_of_firstClash? hclash
  have hnames : ∀ k ∈ before ++ c :: after, k.aliasName = outputAlias k.member :=
    hsplit ▸ Selection.aliasName_of_mem
  have hbefore := Selection.map_aliasName_eq fun k hk => hnames k (List.mem_append_left _ hk)
  refine ⟨before.map (·.member), after.map (·.member), ?_, ?_, ?_⟩
  · rw [← h.map_member_memberColumns, hsplit, List.map_append, List.map_cons]
  · rw [← hbefore]
    exact fresh_nil_left_iff.1 hfresh
  · rw [← hbefore, ← hnames c (List.mem_append_right _ List.mem_cons_self)]
    exact htaken.resolve_left List.not_mem_nil

/-- If two of the selected members have the same column name, then a name is taken. -/
theorem exists_firstClash? (h : n.Resolve r q)
    (hsame : ∃ a ∈ q.measures ++ q.dimensions, ∃ b ∈ q.measures ++ q.dimensions,
      a ≠ b ∧ outputAlias a = outputAlias b) :
    ∃ c, firstClash? [] n.selection.memberColumns = some c := by
  obtain ⟨a, ha, b, hb, hne, hsame⟩ := hsame
  rw [← Option.isSome_iff_exists, Option.isSome_iff_ne_none, ne_eq, firstClash?_eq_none_iff,
    Selection.map_aliasName_eq Selection.aliasName_of_mem, h.map_member_memberColumns]
  exact fun hnodup => hne (List.inj_on_of_nodup_map hnodup ha hb hsame)

/-- The columns have the names, members and roles that the request asks for. -/
theorem outputs_columnList (h : n.Resolve r q) :
    n.selection.columnList.map (fun k => (k.aliasName, k.member, k.role)) = q.outputs := by
  unfold Request.outputs
  rw [← h.map_measures, ← h.map_dimensions, ← h.map_time]
  unfold Selection.columnList Names.selection
  cases n.time with
  | none =>
    simp only [List.map_append, List.map_map]
    rfl
  | some p =>
    simp only [List.map_append, List.map_map]
    rfl

/-- The columns have the expressions that the request asks for. -/
theorem exprs_columnList (h : n.Resolve r q) :
    n.selection.columnList.map (·.expr) = r.outputExprs q := by
  unfold Registry.outputExprs
  rw [filterMap_eq_of_results h.measures, filterMap_eq_of_results h.dimensions, ← h.map_time]
  unfold Selection.columnList Names.selection
  cases hn : n.time with
  | none =>
    simp only [List.map_append, List.map_map]
    rfl
  | some p =>
    have hd := h.time_dimension hn
    simp only [List.map_append, List.map_map, Option.map_some, Option.toList_some, List.map_cons,
      List.map_nil, List.filterMap_cons, List.filterMap_nil, hd]
    rfl

end Names.Resolve

/-- The texts of the select list are those of the output columns, under their names. -/
theorem Compilation.selectTexts_eq (k : Compilation r options q) :
    k.result.selectTexts =
      k.result.columns.map fun c => (c.expr.sql options.dialect, c.aliasName) :=
  List.map_map

/-- The compiled query of a request lists the columns that the request asks for. -/
theorem Compilation.listsColumns (k : Compilation r options q) (hr : r.WellFormed) :
    k.result.ListsColumns r q := by
  have hms : q.measures.Nodup := k.resolve.map_measures ▸ k.sound.measures
  have hds : q.dimensions.Nodup := k.resolve.map_dimensions ▸ k.sound.dimensions
  exact ⟨k.selectTexts_eq, k.resolve.outputs_columnList, k.resolve.exprs_columnList,
    k.columns_nodup, (k.resolve.nodup_aliases_iff hr hms hds).1 k.columns_nodup⟩

/-- A selectable request for two members with the same column name fails with the first member whose
name is taken. -/
theorem Request.Selectable.compile_eq_error (h : q.Selectable r)
    (hsame : ∃ a ∈ q.measures ++ q.dimensions, ∃ b ∈ q.measures ++ q.dimensions,
      a ≠ b ∧ outputAlias a = outputAlias b) :
    ∃ id, q.IsTakenFirst id ∧ r.compile options q = .error (.duplicateIdentifier id) := by
  obtain ⟨n, hn, hs⟩ := h.exists_sound
  obtain ⟨c, hc⟩ := hn.exists_firstClash? hsame
  refine ⟨c.member, hn.isTakenFirst hc, ?_⟩
  have hselect : n.select = .ok n.selection := Names.select_eq_ok_iff.2 ⟨hs, rfl⟩
  unfold Registry.compile Registry.compileSelection
  rw [Registry.names_eq_ok_iff.2 hn]
  show n.select >>= _ = _
  rw [hselect]
  show n.selection.columns >>= _ = _
  rw [Selection.columns_eq_error hc]
  rfl

/-- Over a registry that is built, whatever its expressions are checked for, a compiled query lists
the columns of its request, under distinct names. A request for two members with the same column
name, if it passes the earlier checks, fails with the first member whose name is taken. No member has
the column name of the time dimension. -/
theorem compile_names_columns {check : ExpressionCheck} {d : Draft}
    (hd : d.buildWith check = .ok r) (options : CompileOptions) (q : Request) :
    (∀ c, r.compile options q = .ok c → c.ListsColumns r q) ∧
      (q.Selectable r →
        (∃ a ∈ q.measures ++ q.dimensions, ∃ b ∈ q.measures ++ q.dimensions,
          a ≠ b ∧ outputAlias a = outputAlias b) →
        ∃ id, q.IsTakenFirst id ∧ r.compile options q = .error (.duplicateIdentifier id)) ∧
      ∀ id ∈ r.measures.map (·.id) ++ r.dimensions.map (·.id), outputAlias id ≠ "time" := by
  have hr := Draft.wellFormed_of_buildWith hd
  refine ⟨?_, fun h hsame => h.compile_eq_error hsame, fun id hid => ?_⟩
  · intro c hc
    obtain ⟨k, rfl⟩ := Registry.compile_eq_ok_iff.1 hc
    exact k.listsColumns hr
  · rcases List.mem_append.1 hid with hid | hid
    · obtain ⟨m, hm, rfl⟩ := List.mem_map.1 hid
      exact outputAlias_ne_timeKey (hr.measures m hm).id_wellFormed
    · obtain ⟨x, hx, rfl⟩ := List.mem_map.1 hid
      exact outputAlias_ne_timeKey (hr.dimensions x hx).id_wellFormed

/-- The page views with a measure whose column has the name of that of a dimension. -/
def Draft.latestViews : Draft :=
  pageViews.addMeasure ⟨"views_seen.at", "views", .max, "MAX(v.seen_at)", ""⟩

/-- The registry of `Draft.latestViews`. -/
def Draft.latestViewsRegistry : Registry :=
  (latestViews.declared "views").inOrder

/-- A request for a measure and a dimension whose columns would have the same name. -/
def clashingViews : Request where
  measures := ["views.count", "views_seen.at"]
  dimensions := ["users.role", "views.seen_at"]

/-- The page views by quarter compile to their columns, and the request whose columns would clash
fails with the member whose name is taken first. -/
theorem compile_names_columns_latestViews :
    ∃ r, Draft.latestViews.build = .ok r ∧
      (∃ c, r.compile { dialect := .sqlite } quarterlyViews = .ok c ∧
        c.ListsColumns r quarterlyViews) ∧
      clashingViews.Selectable r ∧
      outputAlias "views_seen.at" = outputAlias "views.seen_at" ∧
      ∃ id, clashingViews.IsTakenFirst id ∧
        r.compile { dialect := .sqlite } clashingViews = .error (.duplicateIdentifier id) := by
  have hbuild : Draft.latestViews.build = .ok Draft.latestViewsRegistry :=
    Draft.build_eq_of_toBool (by decide +kernel) rfl
  have hcompiles :
      (Draft.latestViewsRegistry.compile { dialect := .sqlite } quarterlyViews).toBool = true := by
    decide +kernel
  obtain ⟨c, hc⟩ := exists_ok_of_toBool hcompiles
  have hselectable : clashingViews.Selectable Draft.latestViewsRegistry := {
    measures := by decide +kernel
    dimensions := by decide +kernel
    order := by decide +kernel
    nonempty := by decide
    measures_nodup := by decide
    dimensions_nodup := by decide
    time := by simp [clashingViews]
    dateRange := rfl }
  have hsame : outputAlias "views_seen.at" = outputAlias "views.seen_at" := by
    rw [← String.toList_inj, outputAlias, outputAlias, String.toList_map, String.toList_map]
    decide
  have hquarters := compile_names_columns hbuild { dialect := .sqlite } quarterlyViews
  have hclash := compile_names_columns hbuild { dialect := .sqlite } clashingViews
  have htaken := hclash.2.1 hselectable ⟨"views_seen.at", by decide, "views.seen_at", by decide,
    by decide, hsame⟩
  exact ⟨_, hbuild, ⟨c, hc, hquarters.1 c hc⟩, hselectable, hsame, htaken⟩

end MetricLayer
