import MetricLayer.Proofs.Compile.Acceptance
import MetricLayer.Proofs.Sql.Rendering

/-!
# The tables of a compiled query

A compiled query reads every table that it needs, and each of them once: `compile_joins_tables_once`.

The plan is made in two loops, over the paths and over the steps of a path, and both keep the list
of the tables that are joined so far. `nodup_newSteps` and `nodup_plannedSteps` say that neither
loop joins a table again, `sublist_newSteps` and `sublist_plannedSteps` that the steps come in the
order of their declaration from paths to needed tables. The rest is about the registry, which gives
different tables different aliases.
-/

namespace MetricLayer

/-! ## The steps of a plan -/

/-- The steps of a path that are taken are some of them, in order. -/
theorem sublist_newSteps (joined : List String) (ss : List JoinStep) :
    (newSteps joined ss).Sublist ss := by
  induction ss generalizing joined with
  | nil => exact .slnil
  | cons s ss ih =>
    rw [newSteps]
    split
    · exact (ih joined).cons s
    · exact (ih _).cons_cons s

/-- The steps of a path join no table that is joined already, and none twice. -/
theorem nodup_newSteps {joined : List String} (hjoined : joined.Nodup) (ss : List JoinStep) :
    (joined ++ (newSteps joined ss).map (·.table)).Nodup := by
  induction ss generalizing joined with
  | nil => rwa [newSteps, List.map_nil, List.append_nil]
  | cons s ss ih =>
    rw [newSteps]
    split
    case isTrue => exact ih hjoined
    case isFalse hs =>
      have hnext : (joined ++ [s.table]).Nodup := by
        rw [nodup_append_iff_fresh, fresh_cons_iff]
        exact ⟨hjoined, hs, fresh_nil _⟩
      have hrest := ih hnext
      rwa [List.append_assoc] at hrest

/-- The steps that are taken are steps of the paths to needed tables, in the order of their
declaration. -/
theorem sublist_plannedSteps (needed joined : List String) (ps : List JoinPath) :
    (plannedSteps needed joined ps).Sublist
      ((ps.filter fun p => p.target ∈ needed).flatMap (·.steps)) := by
  induction ps generalizing joined with
  | nil => exact .slnil
  | cons p ps ih =>
    rw [plannedSteps]
    by_cases hneeded : p.target ∈ needed
    · rw [List.filter_cons_of_pos (by simpa using hneeded), List.flatMap_cons]
      split
      · exact (sublist_newSteps joined p.steps).append (ih _)
      · exact (ih joined).trans (List.sublist_append_right _ _)
    · rw [List.filter_cons_of_neg (by simpa using hneeded), if_neg fun h => hneeded h.1]
      exact ih joined

/-- The steps that are taken join no table that is joined already, and none twice. -/
theorem nodup_plannedSteps (needed : List String) {joined : List String} (hjoined : joined.Nodup)
    (ps : List JoinPath) : (joined ++ (plannedSteps needed joined ps).map (·.table)).Nodup := by
  induction ps generalizing joined with
  | nil => rwa [plannedSteps, List.map_nil, List.append_nil]
  | cons p ps ih =>
    rw [plannedSteps]
    split
    case isTrue =>
      have hpath := ih (nodup_newSteps hjoined p.steps)
      rwa [List.append_assoc, ← List.map_append] at hpath
    case isFalse => exact ih hjoined

/-! ## The tables of a query -/

/-- The tables of a query, in the order in which it reads them. -/
def Query.tables (q : Query) : List TableRef :=
  q.source.toList ++ q.joins.map (·.table)

/-- A join brings in the table of a step, on the equality of the columns of the step under the
aliases of a registry. -/
def Join.Follows (r : Registry) (j : Join) (s : JoinStep) : Prop :=
  j.table.table = s.table ∧ ∃ a b, r.alias? s.fromTable = some a ∧ r.alias? s.table = some b ∧
    j.on = .binary .eq (.column (some a) s.fromColumn) (.column (some b) s.toColumn)

/-- The tables of a query are those that a registry needs for a request, each of them once. -/
structure Query.ReadsOnce (r : Registry) (q : Request) (x : Query) : Prop where
  /-- No table is read twice. -/
  tables_nodup : (x.tables.map (·.table)).Nodup
  /-- No two tables have the same alias. -/
  aliases_nodup : (x.tables.map (·.aliasName)).Nodup
  /-- A table has the alias under which it is registered. -/
  registered : ∀ t ∈ x.tables, ∃ a, t.aliasName = some a ∧ ⟨t.table, a⟩ ∈ r.tables
  /-- The tables that own the members of the request are read. -/
  complete : ∀ t ∈ r.owners q, t ∈ x.tables.map (·.table)
  /-- The first table is the first one of the priority list that owns a member, or else the
  fallback. -/
  primary : x.source.map (·.table) =
    some ((r.priority.find? fun t => t ∈ r.owners q).getD r.fallback)
  /-- The joins follow steps of the paths that are declared from the first table to tables that own
  a member, in the order of their declaration. -/
  joins : ∃ steps : List JoinStep, List.Forall₂ (Join.Follows r) x.joins steps ∧
    steps.Sublist (((r.joins.pathsFrom (r.primaryTable (r.owners q))).filter
      fun p => p.target ∈ r.owners q).flatMap (·.steps))

/-- The tables of the query of a plan have the names of the plan. -/
theorem JoinPlan.map_table_tables (p : JoinPlan) :
    p.query.tables.map (·.table) = p.tables := by
  unfold Query.tables JoinPlan.tables JoinPlan.query
  rw [Option.toList_some, List.singleton_append, List.map_cons, List.map_map, List.map_map]
  rfl

variable {r : Registry} {needed : List String} {p : JoinPlan}

/-- The tables of a plan are its primary table and those of its steps. -/
theorem Registry.tables_joinPlan (h : r.joinPlan needed = .ok p) :
    p.tables = r.primaryTable needed :: (r.planSteps needed).map (·.table) := by
  obtain ⟨hsteps, -, -, hprimary⟩ := joinPlan_eq_ok_iff.1 h
  have hjoins : p.joins.map (·.table) = (r.planSteps needed).map (·.table) := by
    refine map_eq_of_results (R := fun s t => s = t.table) ?_ fun _ _ h => h.symm
    rw [List.forall₂_map_left_iff]
    refine hsteps.imp ?_
    rintro s t ⟨a, b, -, -, rfl⟩
    rfl
  rw [JoinPlan.tables, hprimary, hjoins]

/-- The tables of a plan have their registered aliases. -/
theorem Registry.alias_joinPlan (h : r.joinPlan needed = .ok p) :
    ∀ t ∈ p.query.tables, ∃ a, t.aliasName = some a ∧ r.alias? t.table = some a := by
  obtain ⟨hsteps, -, halias, hprimary⟩ := joinPlan_eq_ok_iff.1 h
  intro t ht
  rcases List.mem_cons.1 ht with rfl | ht
  · refine ⟨_, rfl, ?_⟩
    rw [← halias, ← hprimary]
    rfl
  · obtain ⟨j, hj, rfl⟩ := List.mem_map.1 ht
    obtain ⟨x, hx, rfl⟩ := List.mem_map.1 hj
    obtain ⟨s, -, a, b, -, hb, rfl⟩ := exists_item_of_mem hsteps x hx
    exact ⟨b, rfl, hb⟩

/-- The joins of a plan follow its steps. -/
theorem Registry.follows_joinPlan (h : r.joinPlan needed = .ok p) :
    List.Forall₂ (Join.Follows r) p.query.joins (r.planSteps needed) := by
  obtain ⟨hsteps, -, -, -⟩ := joinPlan_eq_ok_iff.1 h
  unfold JoinPlan.query
  rw [List.forall₂_map_left_iff]
  refine hsteps.flip.imp ?_
  rintro t s ⟨a, b, ha, hb, rfl⟩
  exact ⟨rfl, a, b, ha, hb, rfl⟩

/-- A table under a name is registered with that name. -/
theorem Registry.alias?_eq_some_mem {name a : String} (h : r.alias? name = some a) :
    ⟨name, a⟩ ∈ r.tables := by
  obtain ⟨t, ht, rfl⟩ := Option.map_eq_some_iff.1 h
  obtain rfl : t.name = name := by simpa using List.find?_some ht
  exact List.mem_of_find?_eq_some ht

/-- Different tables have different aliases. -/
theorem Registry.WellFormed.eq_of_alias (hr : r.WellFormed) {name other a : String}
    (h : ⟨name, a⟩ ∈ r.tables) (ho : ⟨other, a⟩ ∈ r.tables) : name = other := by
  have heq := List.inj_on_of_nodup_map hr.aliases_nodup h ho rfl
  exact congrArg Table.name heq

/-- No table is joined twice. -/
theorem Registry.tables_nodup_joinPlan (h : r.joinPlan needed = .ok p) :
    (p.query.tables.map (·.table)).Nodup := by
  rw [JoinPlan.map_table_tables, tables_joinPlan h, ← List.singleton_append]
  exact nodup_plannedSteps _ (List.nodup_singleton _) _

/-- No two tables of a plan have the same alias. -/
theorem Registry.aliases_nodup_joinPlan (hr : r.WellFormed) (h : r.joinPlan needed = .ok p) :
    (p.query.tables.map (·.aliasName)).Nodup := by
  have hnodup := tables_nodup_joinPlan h
  have halias := alias_joinPlan h
  refine (List.Nodup.of_map _ hnodup).map_on fun t ht u hu htu => ?_
  obtain ⟨a, ha, hta⟩ := halias t ht
  obtain ⟨b, hb, hub⟩ := halias u hu
  rw [ha, hb] at htu
  obtain rfl := Option.some.inj htu
  have hname := hr.eq_of_alias (alias?_eq_some_mem hta) (alias?_eq_some_mem hub)
  exact List.inj_on_of_nodup_map hnodup ht hu hname

/-- The query of a plan reads each table once. -/
theorem Registry.readsOnce_joinPlan (hr : r.WellFormed) {q : Request}
    (h : r.joinPlan (r.owners q) = .ok p) : p.query.ReadsOnce r q := by
  obtain ⟨-, hneeded, -, hprimary⟩ := joinPlan_eq_ok_iff.1 h
  refine { tables_nodup := tables_nodup_joinPlan h, aliases_nodup := aliases_nodup_joinPlan hr h,
           registered := ?_, complete := ?_, primary := ?_,
           joins := ⟨_, follows_joinPlan h, sublist_plannedSteps _ _ _⟩ }
  · intro t ht
    obtain ⟨a, ha, hta⟩ := alias_joinPlan h t ht
    exact ⟨a, ha, alias?_eq_some_mem hta⟩
  · rw [JoinPlan.map_table_tables, tables_joinPlan h]
    exact hneeded
  · show some p.primary = _
    rw [hprimary]
    rfl

/-- Over a registry that is built, whatever its expressions are checked for, a compiled query reads
every table that it needs once, and its text does so too. -/
theorem compile_joins_tables_once {check : ExpressionCheck} {d : Draft}
    (hd : d.buildWith check = .ok r) {options : CompileOptions} {q : Request} {c : CompiledQuery}
    (h : r.compile options q = .ok c) :
    c.query.ReadsOnce r q ∧
      c.source = String.join (c.query.source.toList.map TableRef.text) ++
        String.join (c.query.joins.map (Join.text c.dialect)) := by
  obtain ⟨k, rfl⟩ := Registry.compile_eq_ok_iff.1 h
  have hplan : r.joinPlan (r.owners q) = .ok k.plan := k.resolve.tables_eq ▸ k.plan_eq
  have honce := Registry.readsOnce_joinPlan (Draft.wellFormed_of_buildWith hd) hplan
  -- The other clauses of the query leave its tables as they are.
  exact ⟨{ honce with }, Query.sourceSql_eq _ _⟩

/-- The page views by quarter, of users of some roles, read the views and the users once. -/
theorem compile_joins_tables_once_quarterlyViews :
    Draft.pageViews.build = .ok Draft.pageViewsRegistry ∧
      ∃ c, Draft.pageViewsRegistry.compile { dialect := .sqlite } quarterlyViews = .ok c ∧
        c.query.ReadsOnce Draft.pageViewsRegistry quarterlyViews ∧
        c.source = String.join (c.query.source.toList.map TableRef.text) ++
          String.join (c.query.joins.map (Join.text c.dialect)) := by
  obtain ⟨c, hc⟩ := quarterlyViews_compiles
  exact ⟨Draft.pageViews_build, c, hc, compile_joins_tables_once Draft.pageViews_build hc⟩

end MetricLayer
