import MetricLayer.Compile.JoinPlan
import MetricLayer.Proofs.Fallible
import MetricLayer.Proofs.Sql.Placeholders

/-!
# When there is a join plan

A plan is made if every table on the way is registered and every needed table is reached
(`Registry.joinPlan_eq_ok_iff`). Its joins are those of the planned steps, on the equality of two
columns.
-/

namespace MetricLayer

/-- Some names have a least one unless there are none. -/
theorem leastName?_eq_none_iff {xs : List String} : leastName? xs = none ↔ xs = [] := by
  cases xs with
  | nil => simp [leastName?]
  | cons x xs =>
    unfold leastName?
    cases leastName? xs with
    | none => simp
    | some y => simp

/-- The joined table of a step under the aliases of a registry. -/
def JoinedTable.Joins (r : Registry) (s : JoinStep) (t : JoinedTable) : Prop :=
  ∃ fromAlias aliasName, r.alias? s.fromTable = some fromAlias ∧ r.alias? s.table = some aliasName ∧
    t = ⟨s.table, aliasName,
      .binary .eq (.column (some fromAlias) s.fromColumn) (.column (some aliasName) s.toColumn)⟩

/-- The steps of a plan for some tables. -/
def Registry.planSteps (r : Registry) (needed : List String) : List JoinStep :=
  plannedSteps needed [r.primaryTable needed] (r.joins.pathsFrom (r.primaryTable needed))

namespace Registry

/-- A table has an alias in a plan if it is registered. -/
theorem joinAlias_eq_ok_iff {r : Registry} {primary table a : String} :
    r.joinAlias primary table = .ok a ↔ r.alias? table = some a := by
  unfold joinAlias
  cases r.alias? table with
  | none => simp
  | some b => simp

/-- The join of a step is made if both its tables are registered. -/
theorem joinStep_eq_ok_iff {r : Registry} {primary : String} {s : JoinStep} {t : JoinedTable} :
    r.joinStep primary s = .ok t ↔ t.Joins r s := by
  unfold joinStep JoinedTable.Joins
  simp only [bind_eq_ok_iff, joinAlias_eq_ok_iff, Except.ok.injEq]
  constructor
  · rintro ⟨a, ha, b, hb, rfl⟩
    exact ⟨a, b, ha, hb, rfl⟩
  · rintro ⟨a, b, ha, hb, rfl⟩
    exact ⟨a, ha, b, hb, rfl⟩

/-- A plan is made if the tables of its steps are registered, every needed table is the primary
table or that of a step, and the primary table is registered. -/
theorem joinPlan_eq_ok_iff {r : Registry} {needed : List String} {p : JoinPlan} :
    r.joinPlan needed = .ok p ↔
      List.Forall₂ (fun s t => t.Joins r s) (r.planSteps needed) p.joins ∧
        (∀ t ∈ needed, t ∈ r.primaryTable needed :: (r.planSteps needed).map (·.table)) ∧
        r.alias? (r.primaryTable needed) = some p.primaryAlias ∧
        p.primary = r.primaryTable needed := by
  have hmissing : leastName? (needed.filter fun t =>
        t ∉ r.primaryTable needed :: (r.planSteps needed).map (·.table)) = none ↔
      ∀ t ∈ needed, t ∈ r.primaryTable needed :: (r.planSteps needed).map (·.table) := by
    rw [leastName?_eq_none_iff, List.filter_eq_nil_iff]
    simp only [decide_eq_true_eq, not_not]
  obtain ⟨primary, primaryAlias, joins⟩ := p
  unfold joinPlan
  simp only [bind_eq_ok_iff, mapM_eq_ok_iff, joinStep_eq_ok_iff, ← hmissing]
  unfold planSteps
  constructor
  · rintro ⟨js, hjs, h⟩
    split at h
    · exact absurd h (by simp)
    case h_2 hleast =>
      obtain ⟨a, ha, h⟩ := bind_eq_ok_iff.1 h
      obtain ⟨rfl, rfl, rfl⟩ := JoinPlan.mk.inj (Except.ok.inj h)
      exact ⟨hjs, hleast, joinAlias_eq_ok_iff.1 ha, rfl⟩
  · rintro ⟨hjs, hleast, ha, rfl⟩
    refine ⟨joins, hjs, ?_⟩
    rw [hleast]
    exact bind_eq_ok_iff.2 ⟨primaryAlias, joinAlias_eq_ok_iff.2 ha, rfl⟩

/-- No join of a plan has a placeholder. -/
theorem placeholders_joinPlan {r : Registry} {needed : List String} {p : JoinPlan}
    (h : r.joinPlan needed = .ok p) (d : Dialect) :
    ∀ j ∈ p.query.joins, j.on.placeholders d = [] := by
  intro j hj
  obtain ⟨t, ht, rfl⟩ := List.mem_map.1 hj
  obtain ⟨s, -, a, b, -, -, rfl⟩ := exists_item_of_mem (joinPlan_eq_ok_iff.1 h).1 t ht
  simp [JoinedTable.join]

end Registry

end MetricLayer
