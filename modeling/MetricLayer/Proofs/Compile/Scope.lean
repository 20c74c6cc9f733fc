import MetricLayer.Proofs.Compile.Tables
import MetricLayer.Proofs.Schema.JoinGraph
import MetricLayer.Schema.Classroom

/-!
# The scope of join conditions

The condition of a join compares a column of a table that is read before with a column of the table
that is joined: `joinPlan_conditions_in_scope`.

A path is a chain if each of its steps starts at the primary table or at the table of an earlier
step. A plan leaves out the steps whose tables are joined already, so that links are missing from
the middle of a path. The steps that are taken still form a chain, from all tables that are joined
and not only from those of the path: `chainFrom_newSteps` says so for one path and
`chainFrom_plannedSteps` for all of them.
-/

namespace MetricLayer

/-! ## Chains -/

/-- Every step starts at a table of the scope or at the table of an earlier step. -/
def ChainFrom : (scope : List String) → List JoinStep → Prop
  | _, [] => True
  | scope, s :: ss => s.fromTable ∈ scope ∧ ChainFrom (scope ++ [s.table]) ss

/-- Whether steps form a chain can be decided. -/
instance decidableChainFrom : ∀ scope ss, Decidable (ChainFrom scope ss)
  | _, [] => inferInstanceAs (Decidable True)
  | scope, s :: ss =>
    have := decidableChainFrom (scope ++ [s.table]) ss
    inferInstanceAs (Decidable (s.fromTable ∈ scope ∧ ChainFrom (scope ++ [s.table]) ss))

/-- Every declared path is a chain from its primary table. -/
def JoinGraph.Chained (g : JoinGraph) : Prop :=
  ∀ e ∈ g.toList, ChainFrom [e.1] e.2.steps

/-- Whether the paths of a graph are chains can be decided. -/
instance (g : JoinGraph) : Decidable g.Chained :=
  inferInstanceAs (Decidable (∀ e ∈ g.toList, ChainFrom [e.1] e.2.steps))

/-- Steps form a chain if each starts in the scope or at a table of those before it. -/
theorem chainFrom_iff {scope : List String} {ss : List JoinStep} :
    ChainFrom scope ss ↔
      ∀ before s after, ss = before ++ s :: after → s.fromTable ∈ scope ++ before.map (·.table) := by
  induction ss generalizing scope with
  | nil => exact iff_of_true trivial fun before s after h => absurd h.symm (by simp)
  | cons x ss ih =>
    rw [ChainFrom, ih]
    constructor
    · rintro ⟨hx, hss⟩ before s after h
      rcases List.cons_eq_append_iff.1 h with ⟨rfl, h⟩ | ⟨before, rfl, h⟩
      · obtain ⟨rfl, rfl⟩ := List.cons.inj h
        exact List.mem_append_left _ hx
      · have hs := hss before s after (List.cons.inj h).2
        rwa [List.append_assoc] at hs
    · intro h
      refine ⟨by simpa using h [] x ss rfl, fun before s after hss => ?_⟩
      have hs := h (x :: before) s after (by rw [hss, List.cons_append])
      rwa [List.append_assoc]

/-- Steps that go on from a chain, or from its scope, make a longer chain. -/
theorem ChainFrom.append {scope : List String} {xs ys : List JoinStep} (hx : ChainFrom scope xs)
    (hy : ChainFrom (scope ++ xs.map (·.table)) ys) : ChainFrom scope (xs ++ ys) := by
  induction xs generalizing scope with
  | nil => simpa using hy
  | cons x xs ih =>
    refine ⟨hx.1, ih hx.2 ?_⟩
    rwa [List.append_assoc]

/-- The steps of a chain that are taken form a chain from the tables that are joined. -/
theorem chainFrom_newSteps {scope joined : List String} {ss : List JoinStep}
    (h : ChainFrom scope ss) (hscope : ∀ t ∈ scope, t ∈ joined) :
    ChainFrom joined (newSteps joined ss) := by
  induction ss generalizing scope joined with
  | nil => trivial
  | cons s ss ih =>
    obtain ⟨hs, hss⟩ := h
    rw [newSteps]
    split
    case isTrue hjoined =>
      -- The table of the step that is left out is in scope all the same.
      refine ih hss fun t ht => ?_
      rcases List.mem_append.1 ht with ht | ht
      · exact hscope t ht
      · rwa [List.mem_singleton.1 ht]
    case isFalse =>
      refine ⟨hscope _ hs, ih hss fun t ht => ?_⟩
      rcases List.mem_append.1 ht with ht | ht
      · exact List.mem_append_left _ (hscope t ht)
      · exact List.mem_append_right _ ht

/-- The steps that are taken from chains form a chain from the tables that are joined. -/
theorem chainFrom_plannedSteps {primary : String} {joined : List String} {ps : List JoinPath}
    (needed : List String) (h : ∀ p ∈ ps, ChainFrom [primary] p.steps) (hprimary : primary ∈ joined) :
    ChainFrom joined (plannedSteps needed joined ps) := by
  induction ps generalizing joined with
  | nil => trivial
  | cons p ps ih =>
    obtain ⟨hp, hps⟩ := List.forall_mem_cons.1 h
    rw [plannedSteps]
    split
    case isTrue =>
      have hsteps : ChainFrom joined (newSteps joined p.steps) := by
        apply chainFrom_newSteps hp
        simpa using hprimary
      exact hsteps.append (ih hps (List.mem_append_left _ hprimary))
    case isFalse => exact ih hps hprimary

/-! ## Conditions -/

/-- The tables of a plan have aliases of their own, and every join compares a column of a table that
is read before with one of the table that it joins. -/
structure JoinPlan.Scoped (r : Registry) (p : JoinPlan) : Prop where
  /-- The primary table has its registered alias. -/
  primary : r.alias? p.primary = some p.primaryAlias
  /-- The joined tables have their registered aliases. -/
  joined : ∀ t ∈ p.joins, r.alias? t.table = some t.aliasName
  /-- No two tables have the same alias. -/
  aliases_nodup : (p.primaryAlias :: p.joins.map (·.aliasName)).Nodup
  /-- A condition is on the alias of the primary table, or of a table that is joined before, and on
  the alias of the joined table. -/
  conditions : ∀ before t after, p.joins = before ++ t :: after →
    ∃ a ∈ p.primaryAlias :: before.map (·.aliasName), ∃ fromColumn toColumn,
      t.on = .binary .eq (.column (some a) fromColumn) (.column (some t.aliasName) toColumn)

variable {r : Registry} {needed : List String} {p : JoinPlan}

/-- The steps of a plan form a chain from its primary table if the declared paths are chains. -/
theorem Registry.chainFrom_planSteps (hchain : r.joins.Chained) (needed : List String) :
    ChainFrom [r.primaryTable needed] (r.planSteps needed) := by
  apply chainFrom_plannedSteps needed
  · intro path hpath
    exact hchain _ (JoinGraph.mem_toList_of_mem_pathsFrom hpath)
  · exact List.mem_singleton_self _

/-- The aliases of a plan are distinct. -/
theorem Registry.nodup_aliases_joinPlan (hr : r.WellFormed) (h : r.joinPlan needed = .ok p) :
    (p.primaryAlias :: p.joins.map (·.aliasName)).Nodup := by
  have hnodup := aliases_nodup_joinPlan hr h
  have hnames : p.query.tables.map (·.aliasName) =
      (p.primaryAlias :: p.joins.map (·.aliasName)).map some := by
    unfold Query.tables JoinPlan.query
    rw [Option.toList_some, List.singleton_append, List.map_cons, List.map_map, List.map_map,
      List.map_cons, List.map_map]
    rfl
  rw [hnames] at hnodup
  exact hnodup.of_map

/-- A plan over chains is scoped. -/
theorem Registry.scoped_joinPlan (hr : r.WellFormed) (hchain : r.joins.Chained)
    (h : r.joinPlan needed = .ok p) : p.Scoped r := by
  obtain ⟨hsteps, -, hprimary, hname⟩ := joinPlan_eq_ok_iff.1 h
  refine { primary := hname ▸ hprimary, joined := ?_,
           aliases_nodup := nodup_aliases_joinPlan hr h, conditions := ?_ }
  · intro t ht
    obtain ⟨s, -, a, b, -, hb, rfl⟩ := exists_item_of_mem hsteps t ht
    exact hb
  · intro before t after hjoins
    rw [hjoins] at hsteps
    obtain ⟨taken, s, rest, hplan, htaken, a, b, ha, -, rfl⟩ := exists_split_of_results hsteps
    have hscope := chainFrom_iff.1 (chainFrom_planSteps hchain needed) taken s rest hplan
    refine ⟨a, ?_, s.fromColumn, s.toColumn, rfl⟩
    rcases List.mem_cons.1 hscope with heq | hmem
    · -- The step starts at the primary table.
      rw [heq, hprimary] at ha
      rw [Option.some.inj ha]
      exact List.mem_cons_self
    · -- The step starts at the table of a step that is taken before it.
      obtain ⟨s', hs', heq⟩ := List.mem_map.1 hmem
      obtain ⟨t', ht', _, b', -, hb', rfl⟩ := exists_result_of_mem htaken s' hs'
      have halias : b' = a := by
        rw [heq, ha] at hb'
        exact (Option.some.inj hb').symm
      rw [← halias]
      exact List.mem_cons_of_mem _ (List.mem_map_of_mem ht')

/-- Over a registry that is built, whatever its expressions are checked for, and whose declared paths
are chains, the condition of every join of a plan is on a table that is read before and on the table
that is joined. The paths of the classroom schema are chains. -/
theorem joinPlan_conditions_in_scope :
    (∀ (check : ExpressionCheck) (d : Draft) (r : Registry), d.buildWith check = .ok r →
      r.joins.Chained → ∀ (needed : List String) (p : JoinPlan), r.joinPlan needed = .ok p → p.Scoped r) ∧
      Classroom.draft.joins.Chained := by
  constructor
  · intro check d r hd hchain needed p h
    exact Registry.scoped_joinPlan (Draft.wellFormed_of_buildWith hd) hchain h
  · decide +kernel

namespace Classroom

/-- The tables and the paths of the classroom schema, without measures and dimensions. -/
def tablesDraft : Draft :=
  { draft with measures := [], dimensions := [] }

/-- The registry of the tables and the paths. -/
def tablesRegistry : Registry :=
  (tablesDraft.declared "events").inOrder

/-- The tables and the paths build. -/
theorem tablesDraft_build : tablesDraft.build = .ok tablesRegistry :=
  Draft.build_eq_of_toBool (by decide +kernel) rfl

/-- Sessions, their classrooms and the schools of these can be joined. -/
theorem sessionSchools_joinPlan :
    ∃ p, tablesRegistry.joinPlan ["schools", "sessions", "classrooms"] = .ok p :=
  exists_ok_of_toBool (by decide +kernel)

end Classroom

/-- The plan for sessions, classrooms and schools is scoped, though the path to the schools leaves
out the classrooms, which are joined already. -/
theorem joinPlan_conditions_in_scope_sessionSchools :
    Classroom.tablesDraft.build = .ok Classroom.tablesRegistry ∧
      Classroom.tablesRegistry.joins.Chained ∧
      ∃ p, Classroom.tablesRegistry.joinPlan ["schools", "sessions", "classrooms"] = .ok p ∧
        p.Scoped Classroom.tablesRegistry := by
  obtain ⟨hscoped, hchained⟩ := joinPlan_conditions_in_scope
  have hbuild := Classroom.tablesDraft_build
  obtain ⟨p, hp⟩ := Classroom.sessionSchools_joinPlan
  exact ⟨hbuild, hchained, p, hp, hscoped _ _ _ hbuild hchained _ p hp⟩

end MetricLayer
