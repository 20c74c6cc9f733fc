import Mathlib.Data.String.Basic
import Mathlib.Order.Bounds.Basic
import MetricLayer.Proofs.Compile.Scope
import MetricLayer.Proofs.Schema.JoinGraph

/-!
# Which tables can be joined

When the tables that a query needs can be joined, and with which table the plan fails otherwise:
`joinPlan_reaches`.

The plan follows some of the declared paths (`followedPaths`): those to needed tables that are not
joined when the turn of the path comes. A step of such a path may be left out, since its table is
joined already, but then the table is reached all the same. So the tables that a plan joins are
those of the paths that it follows (`mem_plannedSteps_iff`), and it fails with the least needed
table that is not among them (`Registry.joinPlan_eq_error_iff`).
-/

namespace MetricLayer

/-! ## Least names -/

/-- The least name of some is one of them, and not greater than any other. -/
theorem isLeast_of_leastName? {xs : List String} {x : String} (h : leastName? xs = some x) :
    IsLeast {y | y ∈ xs} x := by
  induction xs generalizing x with
  | nil => exact absurd h (by simp [leastName?])
  | cons y ys ih =>
    unfold leastName? at h
    cases hys : leastName? ys with
    | none =>
      rw [hys] at h
      obtain rfl := Option.some.inj h
      obtain rfl := leastName?_eq_none_iff.1 hys
      refine ⟨List.mem_cons_self, fun z hz => ?_⟩
      rw [List.mem_singleton.1 hz]
    | some w =>
      rw [hys] at h
      dsimp only at h
      obtain ⟨hw, hleast⟩ := ih hys
      split at h
      case isTrue hlt =>
        obtain rfl := Option.some.inj h
        refine ⟨List.mem_cons_of_mem _ hw, fun z hz => ?_⟩
        rcases List.mem_cons.1 hz with rfl | hz
        · exact hlt.le
        · exact hleast hz
      case isFalse hle =>
        obtain rfl := Option.some.inj h
        refine ⟨List.mem_cons_self, fun z hz => ?_⟩
        rcases List.mem_cons.1 hz with rfl | hz
        · exact le_refl z
        · exact (not_lt.1 hle).trans (hleast hz)

/-- A name is the least one of some if it is one of them and not greater than any other. -/
theorem leastName?_eq_some_iff {xs : List String} {x : String} :
    leastName? xs = some x ↔ IsLeast {y | y ∈ xs} x := by
  refine ⟨isLeast_of_leastName?, fun h => ?_⟩
  cases hxs : leastName? xs with
  | none =>
    obtain rfl := leastName?_eq_none_iff.1 hxs
    exact absurd h.1 List.not_mem_nil
  | some y => rw [(isLeast_of_leastName? hxs).unique h]

/-! ## The paths that are followed -/

/-- The tables of the steps of a path. -/
def JoinPath.tables (p : JoinPath) : List String :=
  p.steps.map (·.table)

/-- The paths that are followed from tables that are reached: those to needed tables that are not
reached when the turn of the path comes. -/
def followedPaths (needed reached : List String) : List JoinPath → List JoinPath
  | [] => []
  | p :: ps =>
    if p.target ∈ needed ∧ p.target ∉ reached then
      p :: followedPaths needed (reached ++ p.tables) ps
    else followedPaths needed reached ps

/-- The tables of a path are joined, those that are joined already included. -/
theorem mem_newSteps_iff {joined : List String} {ss : List JoinStep} {t : String} :
    t ∈ joined ++ (newSteps joined ss).map (·.table) ↔ t ∈ joined ++ ss.map (·.table) := by
  induction ss generalizing joined with
  | nil => exact Iff.rfl
  | cons s ss ih =>
    rw [newSteps]
    split
    case isTrue hs =>
      rw [ih]
      simp only [List.mem_append, List.map_cons, List.mem_cons]
      constructor
      · rintro (ht | ht)
        · exact .inl ht
        · exact .inr (.inr ht)
      · rintro (ht | rfl | ht)
        · exact .inl ht
        · exact .inl hs
        · exact .inr ht
    case isFalse =>
      have hrest : t ∈ (joined ++ [s.table]) ++ (newSteps _ ss).map (·.table) ↔ _ := ih
      rwa [List.append_assoc, List.append_assoc] at hrest

/-- The tables that a plan joins are those of the paths that it follows. -/
theorem mem_plannedSteps_iff {needed joined reached : List String} {ps : List JoinPath} {t : String}
    (h : ∀ u, u ∈ joined ↔ u ∈ reached) :
    t ∈ joined ++ (plannedSteps needed joined ps).map (·.table) ↔
      t ∈ reached ++ (followedPaths needed reached ps).flatMap JoinPath.tables := by
  induction ps generalizing joined reached with
  | nil => simpa [plannedSteps, followedPaths] using h t
  | cons p ps ih =>
    rw [plannedSteps, followedPaths]
    simp only [h]
    split
    case isTrue =>
      have hnext : ∀ u, u ∈ joined ++ (newSteps joined p.steps).map (·.table) ↔
          u ∈ reached ++ p.tables := by
        intro u
        rw [mem_newSteps_iff, List.mem_append, List.mem_append, h]
        exact Iff.rfl
      have hrest := ih hnext
      rwa [List.append_assoc, List.append_assoc, ← List.map_append] at hrest
    case isFalse => exact ih h

/-- The paths that are followed are declared, and lead to needed tables. -/
theorem mem_of_mem_followedPaths {needed reached : List String} {ps : List JoinPath} {p : JoinPath}
    (h : p ∈ followedPaths needed reached ps) : p ∈ ps ∧ p.target ∈ needed := by
  induction ps generalizing reached with
  | nil => exact absurd h List.not_mem_nil
  | cons q ps ih =>
    rw [followedPaths] at h
    split at h
    case isTrue hq =>
      rcases List.mem_cons.1 h with rfl | h
      · exact ⟨List.mem_cons_self, hq.1⟩
      · exact ⟨List.mem_cons_of_mem _ (ih h).1, (ih h).2⟩
    case isFalse => exact ⟨List.mem_cons_of_mem _ (ih h).1, (ih h).2⟩

/-- A needed table is reached if a path to it has it among its tables. -/
theorem target_mem_followedPaths {needed : List String} (reached : List String)
    {ps : List JoinPath} {p : JoinPath} (hp : p ∈ ps) (hneeded : p.target ∈ needed)
    (htables : p.target ∈ p.tables) :
    p.target ∈ reached ++ (followedPaths needed reached ps).flatMap JoinPath.tables := by
  induction ps generalizing reached with
  | nil => exact absurd hp List.not_mem_nil
  | cons q ps ih =>
    rw [followedPaths]
    split
    case isTrue =>
      rw [List.flatMap_cons, ← List.append_assoc]
      rcases List.mem_cons.1 hp with rfl | hp
      · exact List.mem_append_left _ (List.mem_append_right _ htables)
      · exact ih _ hp
    case isFalse hq =>
      rcases List.mem_cons.1 hp with rfl | hp
      · -- The path is not followed, since its target is reached.
        have hreached : p.target ∈ reached := not_not.1 fun h => hq ⟨hneeded, h⟩
        exact List.mem_append_left _ hreached
      · exact ih _ hp

/-- The steps that are planned depend only on which tables are needed. -/
theorem plannedSteps_congr {needed other : List String} (h : ∀ t, t ∈ other ↔ t ∈ needed)
    (joined : List String) (ps : List JoinPath) :
    plannedSteps other joined ps = plannedSteps needed joined ps := by
  induction ps generalizing joined with
  | nil => rfl
  | cons p ps ih =>
    rw [plannedSteps, plannedSteps]
    simp only [h, ih]

/-! ## Verdicts -/

namespace Registry

/-- The tables that a plan for some tables reaches: the primary table and those of the paths that
the plan follows. -/
def reachedTables (r : Registry) (needed : List String) : List String :=
  let primary := r.primaryTable needed
  primary :: (followedPaths needed [primary] (r.joins.pathsFrom primary)).flatMap JoinPath.tables

/-- What a plan for some tables says about which of them can be joined. -/
structure PlansReachable (r : Registry) (needed : List String) : Prop where
  /-- The order in which the tables are needed, and how often, does not matter. -/
  plan_eq : ∀ other, (∀ t, t ∈ other ↔ t ∈ needed) → r.joinPlan other = r.joinPlan needed
  /-- The alias of the primary table is found. -/
  primary_alias : ∃ a, r.joinAlias (r.primaryTable needed) (r.primaryTable needed) = .ok a
  /-- The aliases of both tables are found for every step of a path from the primary table. -/
  step_aliases : ∀ path ∈ r.joins.pathsFrom (r.primaryTable needed), ∀ s ∈ path.steps,
    ∃ t, r.joinStep (r.primaryTable needed) s = .ok t
  /-- There is a plan if every other table has a declared path whose steps include it. -/
  succeeds : (∀ t ∈ needed, t ≠ r.primaryTable needed →
      ∃ path, r.joins.path? (r.primaryTable needed) t = some path ∧ t ∈ path.tables) →
    ∃ p, r.joinPlan needed = .ok p
  /-- If there is a plan, every other table is on the path to a needed table. -/
  reaches : ∀ p, r.joinPlan needed = .ok p → ∀ t ∈ needed, t ≠ r.primaryTable needed →
    ∃ path ∈ r.joins.pathsFrom (r.primaryTable needed), path.target ∈ needed ∧ t ∈ path.tables
  /-- There is no plan just if a needed table is not reached, and the error names the least. -/
  fails : ∀ e, r.joinPlan needed = .error e ↔
    ∃ t, IsLeast {u | u ∈ needed ∧ u ∉ r.reachedTables needed} t ∧
      e = .unreachableJoin (r.primaryTable needed) t

variable {r : Registry} {needed : List String}

/-- The tables of a plan are those that it reaches. -/
theorem mem_planSteps_iff {t : String} :
    t ∈ r.primaryTable needed :: (r.planSteps needed).map (·.table) ↔ t ∈ r.reachedTables needed :=
  @mem_plannedSteps_iff needed [r.primaryTable needed] _ _ t fun _ => Iff.rfl

/-- A registered table has an alias. -/
theorem exists_alias {name : String} (h : Draft.Registers r.tables name) :
    ∃ a, r.alias? name = some a := by
  obtain ⟨t, ht, rfl⟩ := h
  have hfound : (r.tables.find? fun u => u.name = t.name).isSome := by
    rw [List.find?_isSome]
    exact ⟨t, ht, by simp⟩
  obtain ⟨u, hu⟩ := Option.isSome_iff_exists.1 hfound
  exact ⟨u.aliasName, Option.map_eq_some_iff.2 ⟨u, hu, rfl⟩⟩

/-- The primary table is registered. -/
theorem WellFormed.registers_primaryTable (hr : r.WellFormed) (needed : List String) :
    Draft.Registers r.tables (r.primaryTable needed) := by
  unfold primaryTable
  cases hfind : r.priority.find? fun t => t ∈ needed with
  | none => exact hr.fallback
  | some t => exact hr.priority t (List.mem_of_find?_eq_some hfind)

/-- The join of a declared step is made. -/
theorem WellFormed.exists_joinStep (hr : r.WellFormed) {primary : String} {path : JoinPath}
    (hpath : path ∈ r.joins.pathsFrom primary) {s : JoinStep} (hs : s ∈ path.steps) :
    ∃ t, r.joinStep primary s = .ok t := by
  have htables := hr.joins _ (JoinGraph.mem_toList_of_mem_pathsFrom hpath)
  have hsteps : ∀ t ∈ Draft.stepTables s, Draft.Registers r.tables t := fun t ht =>
    htables t (List.mem_cons_of_mem _ (List.mem_cons_of_mem _ (List.mem_flatMap.2 ⟨s, hs, ht⟩)))
  obtain ⟨b, hb⟩ := exists_alias (hsteps s.table (by simp [Draft.stepTables]))
  obtain ⟨a, ha⟩ := exists_alias (hsteps s.fromTable (by simp [Draft.stepTables]))
  exact ⟨_, joinStep_eq_ok_iff.2 ⟨a, b, ha, hb, rfl⟩⟩

/-- The needed tables that are not joined by the steps of a plan. -/
def missingTables (r : Registry) (needed : List String) : List String :=
  needed.filter fun t => t ∉ r.primaryTable needed :: (r.planSteps needed).map (·.table)

/-- The least table that is not joined is the least needed one that is not reached. -/
theorem leastName?_missingTables {t : String} :
    leastName? (r.missingTables needed) = some t ↔
      IsLeast {u | u ∈ needed ∧ u ∉ r.reachedTables needed} t := by
  rw [leastName?_eq_some_iff, missingTables]
  simp only [List.mem_filter, decide_eq_true_eq, mem_planSteps_iff]

/-- A plan is made in three stages: its joins, the tables that they miss, and the primary alias. -/
theorem joinPlan_eq_bind (r : Registry) (needed : List String) :
    r.joinPlan needed =
      (r.planSteps needed).mapM (r.joinStep (r.primaryTable needed)) >>= fun joins =>
        match leastName? (r.missingTables needed) with
        | some t => .error (.unreachableJoin (r.primaryTable needed) t)
        | none => r.joinAlias (r.primaryTable needed) (r.primaryTable needed) >>= fun aliasName =>
          .ok ⟨r.primaryTable needed, aliasName, joins⟩ :=
  rfl

/-- When no alias is missing, a plan is made unless a table is not joined. -/
theorem joinPlan_eq {js : List JoinedTable} {a : String}
    (hjs : (r.planSteps needed).mapM (r.joinStep (r.primaryTable needed)) = .ok js)
    (ha : r.joinAlias (r.primaryTable needed) (r.primaryTable needed) = .ok a) :
    r.joinPlan needed =
      match leastName? (r.missingTables needed) with
      | some t => .error (.unreachableJoin (r.primaryTable needed) t)
      | none => .ok ⟨r.primaryTable needed, a, js⟩ := by
  rw [joinPlan_eq_bind, hjs, ha]
  cases leastName? (r.missingTables needed) with
  | none => rfl
  | some t => rfl

/-- Over a well-formed registry a plan is made unless a needed table is not reached, and then it
fails with the least such table. -/
theorem WellFormed.joinPlan_eq_error_iff (hr : r.WellFormed) {e : RequestError} :
    r.joinPlan needed = .error e ↔
      ∃ t, IsLeast {u | u ∈ needed ∧ u ∉ r.reachedTables needed} t ∧
        e = .unreachableJoin (r.primaryTable needed) t := by
  have hsteps : ∀ s ∈ r.planSteps needed, ∃ t, r.joinStep (r.primaryTable needed) s = .ok t := by
    intro s hs
    obtain ⟨path, hpath, hs⟩ := List.mem_flatMap.1 ((sublist_plannedSteps _ _ _).subset hs)
    exact hr.exists_joinStep (List.mem_of_mem_filter hpath) hs
  obtain ⟨js, hjs⟩ := exists_results_iff.2 hsteps
  obtain ⟨a, ha⟩ := exists_alias (hr.registers_primaryTable needed)
  rw [joinPlan_eq (mapM_eq_ok_iff.2 hjs) (joinAlias_eq_ok_iff.2 ha)]
  simp only [← leastName?_missingTables]
  cases leastName? (r.missingTables needed) with
  | none => simp
  | some t => simp [eq_comm]

/-- A plan depends only on which tables are needed. -/
theorem joinPlan_congr {other : List String} (h : ∀ t, t ∈ other ↔ t ∈ needed) :
    r.joinPlan other = r.joinPlan needed := by
  have hprimary : r.primaryTable other = r.primaryTable needed := by
    unfold primaryTable
    simp only [h]
  have hsteps : r.planSteps other = r.planSteps needed := by
    unfold planSteps
    rw [hprimary, plannedSteps_congr h]
  have hmissing : leastName? (r.missingTables other) = leastName? (r.missingTables needed) := by
    apply Option.ext
    intro t
    rw [leastName?_eq_some_iff, leastName?_eq_some_iff]
    unfold missingTables
    simp only [List.mem_filter, h, hprimary, hsteps]
  rw [joinPlan_eq_bind, joinPlan_eq_bind, hprimary, hsteps, hmissing]

end Registry

/-- Over a registry that is built, whatever its expressions are checked for, a plan for some tables is
made just if they are reached. -/
theorem joinPlan_reaches {check : ExpressionCheck} {d : Draft} {r : Registry}
    (hd : d.buildWith check = .ok r) (needed : List String) : r.PlansReachable needed := by
  have hr := Draft.wellFormed_of_buildWith hd
  obtain ⟨a, ha⟩ := Registry.exists_alias (hr.registers_primaryTable needed)
  refine { plan_eq := fun other h => Registry.joinPlan_congr h,
           primary_alias := ⟨a, Registry.joinAlias_eq_ok_iff.2 ha⟩,
           step_aliases := fun path hpath s hs => hr.exists_joinStep hpath hs,
           succeeds := ?_, reaches := ?_, fails := fun e => hr.joinPlan_eq_error_iff }
  · intro hpaths
    cases hplan : r.joinPlan needed with
    | ok p => exact ⟨p, rfl⟩
    | error e =>
      obtain ⟨t, ⟨⟨hneeded, hreached⟩, -⟩, -⟩ := hr.joinPlan_eq_error_iff.1 hplan
      have hprimary : t ≠ r.primaryTable needed := by
        rintro rfl
        exact hreached List.mem_cons_self
      obtain ⟨path, hpath, htables⟩ := hpaths t hneeded hprimary
      obtain rfl : path.target = t := by simpa using List.find?_some hpath
      have hmem := List.mem_of_find?_eq_some hpath
      exact absurd (target_mem_followedPaths [r.primaryTable needed] hmem hneeded htables) hreached
  · intro p hp t hneeded hprimary
    have hreached := (Registry.joinPlan_eq_ok_iff.1 hp).2.1 t hneeded
    rcases List.mem_cons.1 (Registry.mem_planSteps_iff.1 hreached) with heq | hmem
    · exact absurd heq hprimary
    · obtain ⟨path, hpath, ht⟩ := List.mem_flatMap.1 hmem
      obtain ⟨hdeclared, htarget⟩ := mem_of_mem_followedPaths hpath
      exact ⟨path, hdeclared, htarget, ht⟩

/-- From events the quizzes and the content are not reached, and the plan fails with the content. -/
theorem joinPlan_reaches_eventContent :
    Classroom.tablesDraft.build = .ok Classroom.tablesRegistry ∧
      Classroom.tablesRegistry.PlansReachable ["users", "quizzes", "content", "events"] ∧
      Classroom.tablesRegistry.joinPlan ["users", "quizzes", "content", "events"] =
        .error (.unreachableJoin "events" "content") := by
  have hbuild := Classroom.tablesDraft_build
  exact ⟨hbuild, joinPlan_reaches hbuild _, by rfl⟩

end MetricLayer
