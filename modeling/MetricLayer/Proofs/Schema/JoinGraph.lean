import Mathlib.Data.List.Induction
import MetricLayer.Proofs.Items
import MetricLayer.Schema.JoinGraph

/-!
# Declared paths

A graph keeps one path for each pair of a primary table and a target (`JoinGraph.Distinct`): to
declare a path sets the path of its pair and leaves every other one (`JoinGraph.path?_addPath`). So
the paths of a graph are those that a look-up finds (`JoinGraph.mem_toList_iff`), and after some
declarations the last one of a pair is found (`JoinGraph.path?_declare`).
-/

namespace MetricLayer.JoinGraph

/-! ## Paths of one primary table -/

/-- The path to a target is the one that is set, or else the one there was. -/
theorem find?_setPath (p : JoinPath) (ps : List JoinPath) (target : String) :
    (setPath p ps).find? (fun q => q.target = target) =
      if p.target = target then some p else ps.find? fun q => q.target = target := by
  induction ps with
  | nil => by_cases h : p.target = target <;> simp [setPath, h]
  | cons q ps ih =>
    unfold setPath
    split
    case isTrue hq => by_cases h : p.target = target <;> simp [hq, h]
    case isFalse hq =>
      rw [List.find?_cons, List.find?_cons, ih]
      by_cases hp : p.target = target
      · have hne : ¬q.target = target := fun h => hq (h.trans hp.symm)
        simp [hp, hne]
      · simp [hp]

/-- A target keeps its place when its path is set, and a new one comes last. -/
theorem targets_setPath (p : JoinPath) (ps : List JoinPath) :
    (setPath p ps).map (·.target) =
      if p.target ∈ ps.map (·.target) then ps.map (·.target)
      else ps.map (·.target) ++ [p.target] := by
  induction ps with
  | nil => rfl
  | cons q ps ih =>
    unfold setPath
    split
    case isTrue hq => simp [hq]
    case isFalse hq =>
      rw [List.map_cons, ih, List.map_cons]
      by_cases hp : p.target ∈ ps.map (·.target)
      · rw [if_pos hp, if_pos (List.mem_cons_of_mem _ hp)]
      · have hnot : p.target ∉ q.target :: ps.map (·.target) := by
          rw [List.mem_cons, not_or]
          exact ⟨Ne.symm hq, hp⟩
        rw [if_neg hp, if_neg hnot, List.cons_append]

/-! ## Primary tables -/

/-- A key is looked up in the first entry, and then in the others. -/
theorem lookup_cons_eq_ite {β : Type} (k q : String) (v : β) (es : List (String × β)) :
    ((k, v) :: es).lookup q = if q = k then some v else es.lookup q := by
  rw [List.lookup_cons]
  by_cases h : q = k
  · rw [if_pos h, beq_iff_eq.2 h]
  · rw [if_neg h, beq_eq_false_iff_ne.2 h]

/-- The paths of a primary table are changed by setting one of them, and no others. -/
theorem lookup_setEdge (primary : String) (p : JoinPath) (es : List (String × List JoinPath))
    (q : String) :
    (setEdge primary p es).lookup q =
      if q = primary then some (setPath p ((es.lookup primary).getD [])) else es.lookup q := by
  induction es with
  | nil => by_cases h : q = primary <;> simp [setEdge, setPath, h]
  | cons e es ih =>
    obtain ⟨k, ps⟩ := e
    unfold setEdge
    split
    case isTrue hk =>
      subst hk
      simp only [lookup_cons_eq_ite]
      by_cases h : q = k <;> simp [h]
    case isFalse hk =>
      simp only [lookup_cons_eq_ite, ih, if_neg (Ne.symm hk)]
      by_cases hq : q = k
      · have hne : ¬q = primary := fun h => hk (hq.symm.trans h)
        simp only [if_pos hq, if_neg hne]
      · simp only [if_neg hq]

/-- A primary table keeps its place when one of its paths is set, and a new one comes last. -/
theorem primaries_setEdge (primary : String) (p : JoinPath) (es : List (String × List JoinPath)) :
    (setEdge primary p es).map (·.1) =
      if primary ∈ es.map (·.1) then es.map (·.1) else es.map (·.1) ++ [primary] := by
  induction es with
  | nil => rfl
  | cons e es ih =>
    obtain ⟨k, ps⟩ := e
    unfold setEdge
    split
    case isTrue hk => simp [hk]
    case isFalse hk =>
      rw [List.map_cons, ih, List.map_cons]
      by_cases hp : primary ∈ es.map (·.1)
      · rw [if_pos hp, if_pos (List.mem_cons_of_mem _ hp)]
      · have hnot : primary ∉ k :: es.map (·.1) := by
          rw [List.mem_cons, not_or]
          exact ⟨Ne.symm hk, hp⟩
        rw [if_neg hp, if_neg hnot, List.cons_append]

/-! ## One declaration -/

/-- A declared path is set among those of its primary table. -/
theorem pathsFrom_addPath (g : JoinGraph) (primary target : String) (steps : List JoinStep)
    (q : String) :
    (g.addPath primary target steps).pathsFrom q =
      if q = primary then setPath ⟨target, steps⟩ (g.pathsFrom primary) else g.pathsFrom q := by
  unfold pathsFrom addPath
  rw [lookup_setEdge]
  split
  · rfl
  · rfl

/-- A declared path is found under its pair, and under every other pair what was found before. -/
theorem path?_addPath (g : JoinGraph) (primary target : String) (steps : List JoinStep)
    (q t : String) :
    (g.addPath primary target steps).path? q t =
      if primary = q ∧ target = t then some ⟨target, steps⟩ else g.path? q t := by
  unfold path?
  rw [pathsFrom_addPath]
  by_cases hq : q = primary
  · rw [if_pos hq, find?_setPath]
    simp [hq]
  · rw [if_neg hq, if_neg fun h => hq h.1.symm]

/-! ## Graphs with one path for each pair -/

/-- No primary table has two entries, and no target of one has two paths. -/
structure Distinct (g : JoinGraph) : Prop where
  /-- Every primary table has one entry. -/
  primaries : (g.edges.map (·.1)).Nodup
  /-- Every target of a primary table has one path. -/
  targets : ∀ q, ((g.pathsFrom q).map (·.target)).Nodup

/-- The graph without paths has one for each pair. -/
theorem distinct_empty : empty.Distinct :=
  ⟨List.nodup_nil, fun _ => List.nodup_nil⟩

/-- To declare a path keeps one path for each pair. -/
theorem Distinct.addPath {g : JoinGraph} (h : g.Distinct) (primary target : String)
    (steps : List JoinStep) : (g.addPath primary target steps).Distinct where
  primaries := by
    unfold JoinGraph.addPath
    dsimp only
    rw [primaries_setEdge]
    exact nodup_ite_append h.primaries primary
  targets q := by
    rw [pathsFrom_addPath]
    split
    · rw [targets_setPath]
      exact nodup_ite_append (h.targets primary) target
    · exact h.targets q

/-- The entries of a graph are those that are found under their primary tables. -/
theorem mem_edges_iff {es : List (String × List JoinPath)} (h : (es.map (·.1)).Nodup) {q : String}
    {ps : List JoinPath} : (q, ps) ∈ es ↔ es.lookup q = some ps := by
  induction es with
  | nil => simp
  | cons e es ih =>
    obtain ⟨k, qs⟩ := e
    rw [List.map_cons, List.nodup_cons] at h
    rw [List.mem_cons, lookup_cons_eq_ite, Prod.mk.injEq]
    by_cases hq : q = k
    · -- No later entry has the key of the first one.
      have hnot : (k, ps) ∉ es := fun hmem => h.1 (List.mem_map.2 ⟨_, hmem, rfl⟩)
      simp [hq, hnot, eq_comm]
    · simp [hq, ih h.2]

/-- The paths from a primary table are paths of the graph. -/
theorem mem_toList_of_mem_pathsFrom {g : JoinGraph} {q : String} {p : JoinPath}
    (h : p ∈ g.pathsFrom q) : (q, p) ∈ g.toList := by
  unfold pathsFrom at h
  cases hlookup : g.edges.lookup q with
  | none => simp [hlookup] at h
  | some ps =>
    rw [hlookup] at h
    obtain ⟨before, after, hedges, -⟩ := List.lookup_eq_some_iff.1 hlookup
    have hmem : (q, ps) ∈ g.edges := by
      rw [hedges]
      exact List.mem_append_right _ List.mem_cons_self
    exact List.mem_flatMap.2 ⟨_, hmem, List.mem_map_of_mem h⟩

/-- The paths of a graph are those from its primary tables. -/
theorem mem_toList_iff_mem_pathsFrom {g : JoinGraph} (h : g.Distinct) {q : String} {p : JoinPath} :
    (q, p) ∈ g.toList ↔ p ∈ g.pathsFrom q := by
  refine ⟨fun hp => ?_, mem_toList_of_mem_pathsFrom⟩
  obtain ⟨⟨k, ps⟩, he, hp⟩ := List.mem_flatMap.1 hp
  obtain ⟨p', hp', heq⟩ := List.mem_map.1 hp
  obtain ⟨rfl, rfl⟩ := Prod.mk.inj heq
  unfold pathsFrom
  rw [(mem_edges_iff h.primaries).1 he]
  exact hp'

/-- A path of a graph is the one that is found for its pair. -/
theorem mem_toList_iff {g : JoinGraph} (h : g.Distinct) {q : String} {p : JoinPath} :
    (q, p) ∈ g.toList ↔ g.path? q p.target = some p := by
  rw [mem_toList_iff_mem_pathsFrom h]
  constructor
  · exact fun hp => find?_eq_some_of_nodup (h.targets q) hp
  · exact fun hp => List.mem_of_find?_eq_some hp

/-! ## Some declarations -/

/-- The graph after some declarations, each of a path from a primary table. -/
def declare (g : JoinGraph) (ds : List (String × JoinPath)) : JoinGraph :=
  ds.foldl (fun g e => g.addPath e.1 e.2.target e.2.steps) g

/-- The path of the last of some declarations from a primary table to a target. -/
def lastDeclared? (ds : List (String × JoinPath)) (q t : String) : Option JoinPath :=
  (ds.filter fun e => e.1 = q ∧ e.2.target = t).getLast?.map (·.2)

/-- A later declaration replaces an earlier one of its pair, and no other. -/
theorem lastDeclared?_append_singleton (ds : List (String × JoinPath)) (e : String × JoinPath)
    (q t : String) :
    lastDeclared? (ds ++ [e]) q t =
      if e.1 = q ∧ e.2.target = t then some e.2 else lastDeclared? ds q t := by
  unfold lastDeclared?
  by_cases h : e.1 = q ∧ e.2.target = t
  · simp [h]
  · simp [h]

/-- Declarations keep one path for each pair. -/
theorem Distinct.declare {g : JoinGraph} (h : g.Distinct) (ds : List (String × JoinPath)) :
    (g.declare ds).Distinct := by
  induction ds generalizing g with
  | nil => exact h
  | cons e ds ih => exact ih (h.addPath e.1 e.2.target e.2.steps)

/-- After some declarations, the last one of a pair is found. -/
theorem path?_declare (ds : List (String × JoinPath)) (q t : String) :
    (empty.declare ds).path? q t = lastDeclared? ds q t := by
  induction ds using List.reverseRecOn with
  | nil => rfl
  | append_singleton ds e ih =>
    rw [lastDeclared?_append_singleton, ← ih]
    unfold declare
    rw [List.foldl_append, List.foldl_cons, List.foldl_nil, path?_addPath]

/-- The paths of a graph after some declarations are the last ones of their pairs. -/
theorem mem_toList_declare_iff {ds : List (String × JoinPath)} {q : String} {p : JoinPath} :
    (q, p) ∈ (empty.declare ds).toList ↔ lastDeclared? ds q p.target = some p := by
  rw [mem_toList_iff (distinct_empty.declare ds), path?_declare]

end MetricLayer.JoinGraph
