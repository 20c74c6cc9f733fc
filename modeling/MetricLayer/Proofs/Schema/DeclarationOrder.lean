import MetricLayer.Proofs.Compile.FirstOccurrences
import MetricLayer.Proofs.Schema.JoinGraph

/-!
# The order of declared paths

A graph after some declarations is a map of last writes that remembers the order of first ones
(`JoinGraph.Records`): under a pair of a primary table and a target stands the path that was
declared last, while the pair keeps the place of its first declaration, also among the pairs of
other primary tables. `declare_records` says so of every sequence of declarations, and that to
declare a pair again changes the path at its place and nothing else.

The invariant is carried by the keys of the two levels of a graph. One declaration adds its primary
table, and its target among those of that table, behind the others unless it is there
(`primaries_setEdge`, `targets_setPath`), and that is how the first occurrences of a list change
when an item is added at its end (`FirstOccurrences.concat`).
-/

namespace MetricLayer

variable {α : Type}

/-- No items have no first occurrences. -/
theorem firstOccurrences_nil : FirstOccurrences ([] : List α) [] :=
  ⟨fun _ => Iff.rfl, List.nodup_nil, .nil⟩

/-- An item at the end is a first occurrence unless it occurs before. -/
theorem FirstOccurrences.concat [DecidableEq α] {keys xs : List α} (h : FirstOccurrences keys xs)
    (x : α) : FirstOccurrences (if x ∈ keys then keys else keys ++ [x]) (xs ++ [x]) := by
  -- The keys that there were stand in the longer list where they stood.
  have hordered : keys.Pairwise fun y z =>
      ∃ before after, xs ++ [x] = before ++ y :: after ∧ z ∉ before := by
    refine h.ordered.imp fun {y z} ⟨before, after, hxs, hz⟩ => ⟨before, after ++ [x], ?_, hz⟩
    rw [hxs, List.append_assoc, List.cons_append]
  refine ⟨fun y => ?_, nodup_ite_append h.nodup x, ?_⟩
  · rw [List.mem_append, List.mem_singleton, ← h.mem_iff]
    split
    case isTrue hx => exact ⟨.inl, fun hy => hy.elim id fun hyx => hyx ▸ hx⟩
    case isFalse => rw [List.mem_append, List.mem_singleton]
  · split
    case isTrue => exact hordered
    case isFalse hx =>
      refine List.pairwise_append.2 ⟨hordered, List.pairwise_singleton _ _, fun y hy z hz => ?_⟩
      obtain rfl := List.mem_singleton.1 hz
      obtain ⟨before, after, hxs⟩ := List.append_of_mem ((h.mem_iff y).1 hy)
      refine ⟨before, after ++ [z], by rw [hxs, List.append_assoc, List.cons_append], fun hz => ?_⟩
      exact hx ((h.mem_iff z).2 (hxs ▸ List.mem_append_left _ hz))

namespace JoinGraph

/-! ## A path in place of another -/

/-- A path to a target that has one is set in its place. -/
theorem setPath_eq_map {p : JoinPath} {ps : List JoinPath} (hnodup : (ps.map (·.target)).Nodup)
    (hp : p.target ∈ ps.map (·.target)) :
    setPath p ps = ps.map fun q => if q.target = p.target then p else q := by
  induction ps with
  | nil => exact absurd hp List.not_mem_nil
  | cons q ps ih =>
    rw [List.map_cons, List.nodup_cons] at hnodup
    rw [List.map_cons, setPath]
    split
    case isTrue hq =>
      -- No later path has the target, so that the others stay.
      have hsame : ∀ r ∈ ps, (if r.target = p.target then p else r) = r := by
        intro r hr
        refine if_neg fun hrp => hnodup.1 ?_
        rw [hq, ← hrp]
        exact List.mem_map_of_mem hr
      rw [List.map_congr_left hsame, List.map_id']
    case isFalse hq =>
      rw [List.map_cons, List.mem_cons] at hp
      rw [ih hnodup.2 (hp.resolve_left (Ne.symm hq))]

/-! ## Pairs -/

/-- The pair under which a path is declared: its primary table and its target. -/
def pair (e : String × JoinPath) : String × String :=
  (e.1, e.2.target)

/-- The targets that are declared for a primary table. -/
def declaredTargets (ds : List (String × JoinPath)) (q : String) : List String :=
  (ds.filter fun e => e.1 = q).map (·.2.target)

/-- A target is declared for a primary table if their pair is. -/
theorem mem_declaredTargets_iff {ds : List (String × JoinPath)} {q t : String} :
    t ∈ declaredTargets ds q ↔ (q, t) ∈ ds.map pair := by
  simp only [declaredTargets, pair, List.mem_map, List.mem_filter, decide_eq_true_eq,
    Prod.mk.injEq, and_assoc]

/-- A declaration adds its target to those of its primary table. -/
theorem declaredTargets_concat (ds : List (String × JoinPath)) (e : String × JoinPath)
    (q : String) :
    declaredTargets (ds ++ [e]) q =
      if q = e.1 then declaredTargets ds q ++ [e.2.target] else declaredTargets ds q := by
  unfold declaredTargets
  rw [List.filter_append, List.map_append]
  by_cases hq : q = e.1
  · simp [hq]
  · simp [hq, Ne.symm hq]

/-- The graph after a further declaration. -/
theorem declare_concat (g : JoinGraph) (ds : List (String × JoinPath)) (e : String × JoinPath) :
    g.declare (ds ++ [e]) = (g.declare ds).addPath e.1 e.2.target e.2.steps := by
  unfold declare
  rw [List.foldl_append, List.foldl_cons, List.foldl_nil]

/-- The paths of a graph are listed by primary table. -/
theorem toList_eq_flatMap {g : JoinGraph} (h : g.Distinct) :
    g.toList = (g.edges.map (·.1)).flatMap fun q => (g.pathsFrom q).map fun p => (q, p) := by
  unfold toList
  rw [List.flatMap_map]
  refine List.flatMap_congr fun e he => ?_
  have hpaths : g.pathsFrom e.1 = e.2 := by
    unfold pathsFrom
    rw [(mem_edges_iff h.primaries).1 he, Option.getD_some]
  rw [hpaths]

/-- The pairs of a graph are listed once. -/
theorem nodup_pairs {g : JoinGraph} (h : g.Distinct) : (g.toList.map pair).Nodup := by
  have hpairs : g.toList.map pair = (g.edges.map (·.1)).flatMap fun q =>
      ((g.pathsFrom q).map (·.target)).map fun t => (q, t) := by
    rw [toList_eq_flatMap h, List.map_flatMap]
    simp only [List.map_map]
    rfl
  rw [hpairs, List.nodup_flatMap]
  refine ⟨fun q _ => (h.targets q).map fun _ _ htu => (Prod.mk.inj htu).2, ?_⟩
  refine h.primaries.imp fun {q r} hqr x hq hr => hqr ?_
  obtain ⟨t, -, rfl⟩ := List.mem_map.1 hq
  obtain ⟨u, -, hu⟩ := List.mem_map.1 hr
  exact (congrArg Prod.fst hu).symm

/-! ## Declarations in order -/

/-- The graph is the map of the last declared paths, each pair in the place of its first
declaration. -/
structure Records (g : JoinGraph) (ds : List (String × JoinPath)) : Prop where
  /-- Under a pair stands the path of its last declaration, and none without one. -/
  last : ∀ q t, g.path? q t = lastDeclared? ds q t
  /-- The paths from a primary table go to its targets, each once, in the order of their first
  declarations. -/
  targets : ∀ q, FirstOccurrences ((g.pathsFrom q).map (·.target)) (declaredTargets ds q)
  /-- All paths are listed by primary table, in the order of the first declarations of these. -/
  grouped : ∃ primaries, FirstOccurrences primaries (ds.map (·.1)) ∧
    g.toList = primaries.flatMap fun q => (g.pathsFrom q).map fun p => (q, p)
  /-- The list of all paths has each declared pair once. -/
  once : (g.toList.map pair).Nodup ∧ ∀ x, x ∈ g.toList.map pair ↔ x ∈ ds.map pair

/-- The primary tables stand in the order of their first declarations. -/
theorem firstOccurrences_primaries (ds : List (String × JoinPath)) :
    FirstOccurrences ((empty.declare ds).edges.map (·.1)) (ds.map (·.1)) := by
  induction ds using List.reverseRecOn with
  | nil => exact firstOccurrences_nil
  | append_singleton ds e ih =>
    rw [declare_concat, addPath, primaries_setEdge, List.map_append, List.map_singleton]
    exact ih.concat e.1

/-- The targets of a primary table stand in the order of their first declarations. -/
theorem firstOccurrences_targets (ds : List (String × JoinPath)) (q : String) :
    FirstOccurrences (((empty.declare ds).pathsFrom q).map (·.target)) (declaredTargets ds q) := by
  induction ds using List.reverseRecOn with
  | nil => exact firstOccurrences_nil
  | append_singleton ds e ih =>
    rw [declare_concat, pathsFrom_addPath, declaredTargets_concat]
    by_cases hq : q = e.1
    · subst hq
      rw [if_pos rfl, if_pos rfl, targets_setPath]
      exact ih.concat e.2.target
    · rw [if_neg hq, if_neg hq]
      exact ih

/-- A pair is listed just if it is declared. -/
theorem mem_pairs_iff {ds : List (String × JoinPath)} {x : String × String} :
    x ∈ (empty.declare ds).toList.map pair ↔ x ∈ ds.map pair := by
  obtain ⟨q, t⟩ := x
  have hpaths : (q, t) ∈ (empty.declare ds).toList.map pair ↔
      t ∈ ((empty.declare ds).pathsFrom q).map (·.target) := by
    simp only [List.mem_map, pair, Prod.exists, Prod.mk.injEq,
      mem_toList_iff_mem_pathsFrom (distinct_empty.declare ds)]
    constructor
    · rintro ⟨q, p, hp, rfl, rfl⟩
      exact ⟨p, hp, rfl⟩
    · rintro ⟨p, hp, rfl⟩
      exact ⟨q, p, hp, rfl, rfl⟩
  rw [hpaths, (firstOccurrences_targets ds q).mem_iff, mem_declaredTargets_iff]

/-- A graph is the map of its declarations. -/
theorem records_declare (ds : List (String × JoinPath)) : (empty.declare ds).Records ds where
  last := path?_declare ds
  targets := firstOccurrences_targets ds
  grouped := ⟨_, firstOccurrences_primaries ds, toList_eq_flatMap (distinct_empty.declare ds)⟩
  once := ⟨nodup_pairs (distinct_empty.declare ds), fun _ => mem_pairs_iff⟩

/-! ## Declaring a pair again -/

/-- The entry in place of one of its pair. -/
def replace (e x : String × JoinPath) : String × JoinPath :=
  if pair x = pair e then e else x

/-- To declare a pair again replaces its path among those of its primary table. -/
theorem pathsFrom_addPath_again {g : JoinGraph} (h : g.Distinct) {e : String × JoinPath}
    (he : pair e ∈ g.toList.map pair) (q : String) :
    (g.addPath e.1 e.2.target e.2.steps).pathsFrom q =
      (g.pathsFrom q).map fun p => (replace e (q, p)).2 := by
  obtain ⟨⟨k, p⟩, hx, hpair⟩ := List.mem_map.1 he
  obtain ⟨rfl, htarget⟩ := Prod.mk.inj hpair
  have hmem : e.2.target ∈ (g.pathsFrom e.1).map (·.target) :=
    List.mem_map.2 ⟨p, (mem_toList_iff_mem_pathsFrom h).1 hx, htarget⟩
  rw [pathsFrom_addPath]
  split
  case isTrue hq =>
    subst hq
    rw [setPath_eq_map (h.targets e.1) hmem]
    refine List.map_congr_left fun r _ => ?_
    by_cases hr : r.target = e.2.target
    · have hsame : pair (e.1, r) = pair e := Prod.ext rfl hr
      rw [if_pos hr, replace, if_pos hsame]
    · have hother : pair (e.1, r) ≠ pair e := fun hpair => hr (Prod.mk.inj hpair).2
      rw [if_neg hr, replace, if_neg hother]
  case isFalse hq =>
    have hsame : ∀ r ∈ g.pathsFrom q, (replace e (q, r)).2 = r := by
      intro r _
      have hother : pair (q, r) ≠ pair e := fun hpair => hq (Prod.mk.inj hpair).1
      rw [replace, if_neg hother]
    rw [List.map_congr_left hsame, List.map_id']

/-- To declare a pair again keeps the primary tables in their places. -/
theorem primaries_addPath_again {g : JoinGraph} {e : String × JoinPath}
    (he : e.1 ∈ g.edges.map (·.1)) :
    (g.addPath e.1 e.2.target e.2.steps).edges.map (·.1) = g.edges.map (·.1) := by
  rw [addPath, primaries_setEdge, if_pos he]

/-- To declare a pair again replaces its path in the list of all paths. -/
theorem toList_addPath_again {g : JoinGraph} (h : g.Distinct) {e : String × JoinPath}
    (he : pair e ∈ g.toList.map pair) :
    (g.addPath e.1 e.2.target e.2.steps).toList = g.toList.map (replace e) := by
  have hprimary : e.1 ∈ g.edges.map (·.1) := by
    obtain ⟨⟨k, p⟩, hx, hpair⟩ := List.mem_map.1 he
    obtain ⟨⟨k', ps⟩, hedge, hx⟩ := List.mem_flatMap.1 hx
    obtain ⟨p', -, heq⟩ := List.mem_map.1 hx
    have hkey : k' = e.1 := (Prod.mk.inj heq).1.trans (Prod.mk.inj hpair).1
    exact hkey ▸ List.mem_map_of_mem hedge
  rw [toList_eq_flatMap (h.addPath e.1 e.2.target e.2.steps), primaries_addPath_again hprimary,
    toList_eq_flatMap h, List.map_flatMap]
  refine List.flatMap_congr fun q _ => ?_
  rw [pathsFrom_addPath_again h he, List.map_map, List.map_map]
  refine List.map_congr_left fun p _ => ?_
  have hfirst : (replace e (q, p)).1 = q := by
    unfold replace
    split
    case isTrue hpair => exact (Prod.mk.inj hpair).1.symm
    case isFalse => rfl
  exact Prod.ext hfirst.symm rfl

/-- After any declarations a graph is the map of the last ones, each pair in the place of its first
one; and to declare a pair again replaces its path where it stands, among the paths from its primary
table and in the list of all paths, and changes nothing else. -/
theorem declare_records (ds : List (String × JoinPath)) :
    (empty.declare ds).Records ds ∧
      ∀ e, pair e ∈ ds.map pair →
        (empty.declare (ds ++ [e])).toList = (empty.declare ds).toList.map (replace e) ∧
        ∀ q, (empty.declare (ds ++ [e])).pathsFrom q =
          ((empty.declare ds).pathsFrom q).map fun p => (replace e (q, p)).2 := by
  refine ⟨records_declare ds, fun e he => ?_⟩
  have hdistinct := distinct_empty.declare ds
  have hmem := mem_pairs_iff.2 he
  rw [declare_concat]
  exact ⟨toList_addPath_again hdistinct hmem, pathsFrom_addPath_again hdistinct hmem⟩

/-- Paths of two primary tables in turn, one of them declared twice. -/
def mixedPaths : List (String × JoinPath) := [
  ("users", ⟨"schools", []⟩),
  ("events", ⟨"users", [⟨"users", "events", "user_id", "id"⟩]⟩),
  ("users", ⟨"classrooms", [⟨"classrooms", "users", "id", "teacher_id"⟩]⟩),
  ("events", ⟨"users", []⟩)]

/-- The way from users to schools is declared again, and stays the first path of all. -/
theorem declare_records_mixedPaths :
    let e := ("users", JoinPath.mk "schools" [⟨"schools", "users", "school_id", "id"⟩])
    pair e ∈ mixedPaths.map pair ∧
      (empty.declare (mixedPaths ++ [e])).toList =
        (empty.declare mixedPaths).toList.map (replace e) ∧
      (empty.declare (mixedPaths ++ [e])).toList.head? = some e := by
  intro e
  have he : pair e ∈ mixedPaths.map pair := by decide
  exact ⟨he, ((declare_records mixedPaths).2 e he).1, by decide⟩

end JoinGraph

end MetricLayer
