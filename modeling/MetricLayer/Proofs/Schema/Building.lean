import Mathlib.Data.String.Basic
import MetricLayer.Proofs.Items
import MetricLayer.Proofs.Schema.Draft
import MetricLayer.Proofs.Schema.JoinGraph
import MetricLayer.Schema.Registry

/-!
# Schemas that are built step by step

A schema is declared in steps, of which each adds a declaration or replaces one. The steps build to
a registry just if what they declare is consistent (`Draft.Consistent`), and the registry then
answers with what was declared and with nothing else (`Registry.Keeps`): `build_steps_iff`. This
holds for every check of expressions.
-/

namespace MetricLayer

/-! ## Member identifiers -/

/-- A small letter of ASCII. -/
def IsSmallLetter (c : Char) : Prop :=
  'a' ≤ c ∧ c ≤ 'z'

/-- A small letter, and then small letters, digits and underscores. -/
def IsName (cs : List Char) : Prop :=
  ∃ c rest, cs = c :: rest ∧ IsSmallLetter c ∧
    ∀ x ∈ rest, IsSmallLetter x ∨ ('0' ≤ x ∧ x ≤ '9') ∨ x = '_'

/-- Two names with a period between them, and nothing else. -/
def IsMemberId (id : String) : Prop :=
  ∃ group name, id.toList = group ++ '.' :: name ∧ IsName group ∧ IsName name

/-- Characters pass the check of a part of an identifier if they are a name. -/
theorem isIdName_iff {cs : List Char} : isIdName cs ↔ IsName cs := by
  have hstart : ∀ c, isIdStart c = true ↔ IsSmallLetter c := by
    intro c
    rw [isIdStart, Bool.and_eq_true, decide_eq_true_eq, decide_eq_true_eq, IsSmallLetter]
  have hpart : ∀ c, isIdPart c = true ↔ IsSmallLetter c ∨ ('0' ≤ c ∧ c ≤ '9') ∨ c = '_' := by
    intro c
    rw [isIdPart, Bool.or_eq_true, Bool.or_eq_true, hstart, beq_iff_eq, or_assoc, Char.isDigit,
      Bool.and_eq_true, decide_eq_true_eq, decide_eq_true_eq]
    rfl
  cases cs with
  | nil => exact iff_of_false (by simp [isIdName]) (by rintro ⟨_, _, h, -⟩; cases h)
  | cons c cs =>
    rw [isIdName, Bool.and_eq_true, hstart, List.all_eq_true]
    simp only [hpart]
    constructor
    · exact fun ⟨hc, hcs⟩ => ⟨c, cs, rfl, hc, hcs⟩
    · rintro ⟨_, _, h, hc, hcs⟩
      obtain ⟨rfl, rfl⟩ := List.cons.inj h
      exact ⟨hc, hcs⟩

/-- A name has no period. -/
theorem IsName.ne_period {cs : List Char} (h : IsName cs) : ∀ c ∈ cs, c ≠ '.' := by
  have hletter : ¬IsSmallLetter '.' := by unfold IsSmallLetter; decide
  obtain ⟨c, rest, rfl, hc, hrest⟩ := h
  intro x hx
  rcases List.mem_cons.1 hx with rfl | hx
  · rintro rfl
    exact hletter hc
  · rintro rfl
    rcases hrest _ hx with hx | hx | hx
    · exact hletter hx
    · exact absurd hx (by decide)
    · exact absurd hx (by decide)

/-- A text passes the check of a member identifier if it is two names with a period between. -/
theorem isMemberId_iff {id : String} : isMemberId id ↔ IsMemberId id := by
  rw [isMemberId, isMemberIdChars, List.span_eq_takeWhile_dropWhile]
  constructor
  · intro h
    split at h
    case h_1 group c name heq =>
      obtain ⟨hgroup, hname⟩ := Prod.mk.inj heq
      rw [Bool.and_eq_true, isIdName_iff, isIdName_iff] at h
      -- What is dropped begins with the character that ends the group.
      have hc : c = '.' := by
        have hhead := List.head?_dropWhile_not (· != '.') id.toList
        rw [hname] at hhead
        simpa using hhead
      refine ⟨group, name, ?_, h.1, h.2⟩
      rw [← hc, ← hname, ← hgroup, List.takeWhile_append_dropWhile]
    case h_2 => exact absurd h (by simp)
  · rintro ⟨group, name, hid, hgroup, hname⟩
    have hall : ∀ c ∈ group, (c != '.') = true := fun c hc => bne_iff_ne.2 (hgroup.ne_period c hc)
    rw [hid, List.takeWhile_append_of_pos hall, List.dropWhile_append_of_pos hall]
    simp only [List.takeWhile_cons, List.dropWhile_cons, bne_self_eq_false, Bool.false_eq_true,
      if_false, List.append_nil]
    rw [Bool.and_eq_true, isIdName_iff, isIdName_iff]
    exact ⟨hgroup, hname⟩

/-! ## The order of members -/

section
variable {α : Type} (key : α → String)

/-- An item is put where the order of keys is kept. -/
theorem pairwise_insertBy {x : α} {xs : List α} (h : xs.Pairwise fun a b => key a ≤ key b) :
    (insertBy key x xs).Pairwise fun a b => key a ≤ key b := by
  induction xs with
  | nil => exact List.pairwise_singleton _ _
  | cons y ys ih =>
    obtain ⟨hy, hys⟩ := List.pairwise_cons.1 h
    unfold insertBy
    split
    case isTrue hlt =>
      refine List.pairwise_cons.2 ⟨fun z hz => ?_, h⟩
      rcases List.mem_cons.1 hz with rfl | hz
      · exact hlt.le
      · exact hlt.le.trans (hy z hz)
    case isFalse hle =>
      refine List.pairwise_cons.2 ⟨fun z hz => ?_, ih hys⟩
      rcases List.mem_cons.1 ((insertBy_perm key x ys).mem_iff.1 hz) with rfl | hz
      · exact not_lt.1 hle
      · exact hy z hz

/-- Items with distinct keys are put in the strict order of their keys. -/
theorem pairwise_lt_sortBy {xs : List α} (h : (xs.map key).Nodup) :
    ((sortBy key xs).map key).Pairwise (· < ·) := by
  have hle : (sortBy key xs).Pairwise fun a b => key a ≤ key b := by
    clear h
    induction xs with
    | nil => exact .nil
    | cons x xs ih => exact pairwise_insertBy key ih
  have hnodup : ((sortBy key xs).map key).Nodup := ((sortBy_perm key xs).map key).nodup_iff.2 h
  have hle' : ((sortBy key xs).map key).Pairwise (· ≤ ·) := List.pairwise_map.2 hle
  exact (hle'.and hnodup).imp fun h => lt_of_le_of_ne h.1 h.2

end

/-! ## Steps -/

namespace Draft

/-- A step of declaring a schema. -/
inductive Step where
  /-- Add a table. -/
  | table (t : Table)
  /-- Add a measure. -/
  | measure (m : Measure)
  /-- Add a dimension. -/
  | dimension (x : Dimension)
  /-- Declare the path from a primary table to a target. -/
  | join (primary target : String) (steps : List JoinStep)
  /-- Set the priority list. -/
  | priority (tables : List String)
  /-- Set the fallback table. -/
  | fallback (table : String)

/-- The draft after a step. -/
def apply (d : Draft) : Step → Draft
  | .table t => d.addTable t
  | .measure m => d.addMeasure m
  | .dimension x => d.addDimension x
  | .join primary target steps => d.addJoin primary target steps
  | .priority tables => d.setPriority tables
  | .fallback table => d.setFallback table

/-- The draft after some steps. -/
def ofSteps (steps : List Step) : Draft :=
  steps.foldl apply empty

namespace Step

/-- The table that a step adds. -/
def table? : Step → Option Table
  | .table t => some t
  | _ => none

/-- The measure that a step adds. -/
def measure? : Step → Option Measure
  | .measure m => some m
  | _ => none

/-- The dimension that a step adds. -/
def dimension? : Step → Option Dimension
  | .dimension x => some x
  | _ => none

/-- The path that a step declares, with its primary table. -/
def path? : Step → Option (String × JoinPath)
  | .join primary target steps => some (primary, ⟨target, steps⟩)
  | _ => none

/-- The priority list that a step sets. -/
def priority? : Step → Option (List String)
  | .priority tables => some tables
  | _ => none

/-- The fallback table that a step sets. -/
def fallback? : Step → Option String
  | .fallback name => some name
  | _ => none

end Step

variable (steps : List Step)

/-- The tables that steps add, in order. -/
def declaredTables : List Table :=
  steps.filterMap Step.table?

/-- The measures that steps add, in order. -/
def declaredMeasures : List Measure :=
  steps.filterMap Step.measure?

/-- The dimensions that steps add, in order. -/
def declaredDimensions : List Dimension :=
  steps.filterMap Step.dimension?

/-- The identifiers of the measures and dimensions that steps add. -/
def declaredIds : List String :=
  (declaredMeasures steps).map (·.id) ++ (declaredDimensions steps).map (·.id)

/-- The path that steps declare last from a primary table to a target. -/
def declaredPath? (primary target : String) : Option JoinPath :=
  JoinGraph.lastDeclared? (steps.filterMap Step.path?) primary target

/-- The priority list that steps set last; empty if they set none. -/
def declaredPriority : List String :=
  (steps.filterMap Step.priority?).getLast?.getD []

/-- The fallback table that steps set last, or else the first table of the priority list, or else
the first table that they add. -/
def declaredFallback? : Option String :=
  match (steps.filterMap Step.fallback?).getLast?, declaredPriority steps, declaredTables steps with
  | some name, _, _ => some name
  | none, name :: _, _ => some name
  | none, [], t :: _ => some t.name
  | none, [], [] => none

/-- The declarations of some steps fit together, and their expressions pass a check. -/
structure Consistent (check : ExpressionCheck) (steps : List Step) : Prop where
  /-- No two tables share a name. -/
  names_nodup : ((declaredTables steps).map (·.name)).Nodup
  /-- No two tables share an alias. -/
  aliases_nodup : ((declaredTables steps).map (·.aliasName)).Nodup
  /-- The identifiers of members are well formed. -/
  ids : ∀ id ∈ declaredIds steps, IsMemberId id
  /-- No identifier is used twice, measures and dimensions taken together. -/
  ids_nodup : (declaredIds steps).Nodup
  /-- The tables of measures are registered. -/
  measure_tables : ∀ m ∈ declaredMeasures steps, Registers (declaredTables steps) m.table
  /-- The tables of dimensions are registered. -/
  dimension_tables : ∀ x ∈ declaredDimensions steps, Registers (declaredTables steps) x.table
  /-- The SQL of a measure passes the check. -/
  measure_expressions : ∀ m ∈ declaredMeasures steps, check m.id m.sql = .ok ()
  /-- The SQL of a dimension passes the check. -/
  dimension_expressions : ∀ x ∈ declaredDimensions steps, check x.id x.sql = .ok ()
  /-- Only time dimensions have a grain. -/
  grains : ∀ x ∈ declaredDimensions steps, x.grain ≠ none → x.kind = .time
  /-- The tables of paths are registered. -/
  joins : ∀ primary target p, declaredPath? steps primary target = some p →
    Registers (declaredTables steps) primary ∧ Registers (declaredTables steps) target ∧
      ∀ s ∈ p.steps, Registers (declaredTables steps) s.table ∧
        Registers (declaredTables steps) s.fromTable
  /-- The tables of the priority list are registered. -/
  priority : ∀ t ∈ declaredPriority steps, Registers (declaredTables steps) t
  /-- There is a fallback table, and it is registered. -/
  fallback : ∃ name, declaredFallback? steps = some name ∧ Registers (declaredTables steps) name

/-- What is in a draft after some steps. -/
theorem ofSteps_eq :
    ofSteps steps = {
      tables := declaredTables steps
      measures := declaredMeasures steps
      dimensions := declaredDimensions steps
      joins := JoinGraph.empty.declare (steps.filterMap Step.path?)
      priority := declaredPriority steps
      fallback := (steps.filterMap Step.fallback?).getLast? } := by
  induction steps using List.reverseRecOn with
  | nil => rfl
  | append_singleton steps s ih =>
    have hstep : ofSteps (steps ++ [s]) = (ofSteps steps).apply s := by
      rw [ofSteps, List.foldl_append]
      rfl
    rw [hstep, ih]
    unfold declaredTables declaredMeasures declaredDimensions declaredPriority JoinGraph.declare
    cases s with
    | _ => simp [apply, addTable, addMeasure, addDimension, addJoin, setPriority, setFallback,
        Step.table?, Step.measure?, Step.dimension?, Step.path?, Step.priority?, Step.fallback?,
        List.filterMap_cons]

/-- The fallback table of a draft after some steps. -/
theorem fallbackTable?_ofSteps : (ofSteps steps).fallbackTable? = declaredFallback? steps := by
  rw [ofSteps_eq]
  unfold fallbackTable? declaredFallback?
  cases (steps.filterMap Step.fallback?).getLast? with
  | some name => rfl
  | none =>
    cases declaredPriority steps with
    | cons name names => rfl
    | nil =>
      cases declaredTables steps with
      | nil => rfl
      | cons t ts => rfl

/-- The tables of a path are registered if its primary table, its target and both tables of each
step are. -/
theorem registers_pathTables_iff {ts : List Table} {q : String} {p : JoinPath} :
    (∀ t ∈ pathTables q p, Registers ts t) ↔
      Registers ts q ∧ Registers ts p.target ∧
        ∀ s ∈ p.steps, Registers ts s.table ∧ Registers ts s.fromTable := by
  unfold pathTables stepTables
  simp only [List.forall_mem_cons, List.forall_mem_flatMap, List.not_mem_nil, false_imp_iff,
    implies_true, and_true]

/-- A path that is declared leads to its target. -/
theorem target_of_declaredPath? {steps : List Step} {q t : String} {p : JoinPath}
    (h : declaredPath? steps q t = some p) : p.target = t := by
  obtain ⟨e, he, rfl⟩ := Option.map_eq_some_iff.1 h
  have hpair := (List.mem_filter.1 (List.mem_of_getLast? he)).2
  exact (of_decide_eq_true hpair).2

/-- A member is well formed if its identifier is and its table is registered. -/
theorem memberWellFormed_iff {ts : List Table} {id table : String} :
    MemberWellFormed ts id table ↔ IsMemberId id ∧ Registers ts table := by
  rw [← isMemberId_iff]
  exact ⟨fun h => ⟨h.id_wellFormed, h.registers⟩, fun ⟨hid, htable⟩ => ⟨hid, htable⟩⟩

section

variable {check : ExpressionCheck}

/-- What some steps declare is well formed, under their fallback table, and its expressions pass, if
their declarations fit together. -/
theorem wellFormed_ofSteps_iff {name : String} (hname : declaredFallback? steps = some name) :
    ((ofSteps steps).declared name).WellFormed ∧ ((ofSteps steps).declared name).Passes check ↔
      Consistent check steps := by
  have hpath : ∀ {q p}, (q, p) ∈ (JoinGraph.empty.declare (steps.filterMap Step.path?)).toList ↔
      declaredPath? steps q p.target = some p := JoinGraph.mem_toList_declare_iff
  rw [ofSteps_eq]
  constructor
  · rintro ⟨h, hpass⟩
    have hms := fun m hm => memberWellFormed_iff.1 (h.measures m hm)
    have hxs := fun x hx => memberWellFormed_iff.1 (h.dimensions x hx)
    exact {
      names_nodup := h.names_nodup
      aliases_nodup := h.aliases_nodup
      ids := List.forall_mem_append.2 ⟨List.forall_mem_map.2 fun m hm => (hms m hm).1,
        List.forall_mem_map.2 fun x hx => (hxs x hx).1⟩
      ids_nodup := h.ids_nodup
      measure_tables := fun m hm => (hms m hm).2
      dimension_tables := fun x hx => (hxs x hx).2
      measure_expressions := hpass.measures
      dimension_expressions := hpass.dimensions
      grains := h.grains
      joins := by
        intro q t p hp
        obtain rfl := target_of_declaredPath? hp
        exact registers_pathTables_iff.1 (h.joins (q, p) (hpath.2 hp))
      priority := h.priority
      fallback := ⟨name, hname, h.fallback⟩ }
  · intro h
    obtain ⟨hms, hxs⟩ := List.forall_mem_append.1 h.ids
    rw [List.forall_mem_map] at hms hxs
    refine ⟨?_, ⟨h.measure_expressions, h.dimension_expressions⟩⟩
    exact {
      names_nodup := h.names_nodup
      aliases_nodup := h.aliases_nodup
      ids_nodup := h.ids_nodup
      measures := fun m hm => memberWellFormed_iff.2 ⟨hms m hm, h.measure_tables m hm⟩
      dimensions := fun x hx => memberWellFormed_iff.2 ⟨hxs x hx, h.dimension_tables x hx⟩
      grains := h.grains
      joins := fun e he => registers_pathTables_iff.2 (h.joins _ _ _ (hpath.1 he))
      priority := h.priority
      fallback := by
        obtain ⟨name', hname', hregisters⟩ := h.fallback
        rwa [Option.some.inj (hname.symm.trans hname')] }

/-- Steps build to a registry if their declarations fit together, and then to the registry of
them. -/
theorem buildWith_ofSteps_eq_ok_iff {r : Registry} :
    (ofSteps steps).buildWith check = .ok r ↔
      Consistent check steps ∧ ∃ name, declaredFallback? steps = some name ∧
        r = ((ofSteps steps).declared name).inOrder := by
  rw [buildWith_eq_ok_iff, fallbackTable?_ofSteps]
  constructor
  · rintro ⟨name, hname, hwell, hpass, rfl⟩
    exact ⟨(wellFormed_ofSteps_iff steps hname).1 ⟨hwell, hpass⟩, name, hname, rfl⟩
  · rintro ⟨h, name, hname, rfl⟩
    obtain ⟨hwell, hpass⟩ := (wellFormed_ofSteps_iff steps hname).2 h
    exact ⟨name, hname, hwell, hpass, rfl⟩

end

end Draft

/-! ## What a registry keeps -/

open Draft

/-- A registry holds what some steps declare, and nothing else. -/
structure Registry.Keeps (r : Registry) (steps : List Draft.Step) : Prop where
  /-- The tables are listed in the order of their declaration. -/
  tables : r.tables = declaredTables steps
  /-- A measure is found under its identifier. -/
  lookupMeasure : ∀ m ∈ declaredMeasures steps, r.lookupMeasure m.id = .ok m
  /-- No measure is found under an identifier that is not one of a measure. -/
  measureNotFound : ∀ id ∉ (declaredMeasures steps).map (·.id),
    r.lookupMeasure id = .error (.measureNotFound id)
  /-- A dimension is found under its identifier. -/
  lookupDimension : ∀ x ∈ declaredDimensions steps, r.lookupDimension x.id = .ok x
  /-- No dimension is found under an identifier that is not one of a dimension. -/
  dimensionNotFound : ∀ id ∉ (declaredDimensions steps).map (·.id),
    r.lookupDimension id = .error (.dimensionNotFound id)
  /-- No dimension is found as a measure. -/
  dimensionNoMeasure : ∀ x ∈ declaredDimensions steps,
    r.lookupMeasure x.id = .error (.measureNotFound x.id)
  /-- No measure is found as a dimension. -/
  measureNoDimension : ∀ m ∈ declaredMeasures steps,
    r.lookupDimension m.id = .error (.dimensionNotFound m.id)
  /-- Every measure is listed once. -/
  measures : r.measures.Perm (declaredMeasures steps)
  /-- Measures are listed in the strict order of their identifiers. -/
  measures_sorted : (r.measures.map (·.id)).Pairwise (· < ·)
  /-- Every dimension is listed once. -/
  dimensions : r.dimensions.Perm (declaredDimensions steps)
  /-- Dimensions are listed in the strict order of their identifiers. -/
  dimensions_sorted : (r.dimensions.map (·.id)).Pairwise (· < ·)
  /-- The catalogue has one line for every measure. -/
  catalogue_measures : r.catalogue.measures.Perm ((declaredMeasures steps).map Measure.entry)
  /-- The lines for measures are in the strict order of their names. -/
  catalogue_measures_sorted : (r.catalogue.measures.map (·.name)).Pairwise (· < ·)
  /-- The catalogue has one line for every dimension. -/
  catalogue_dimensions :
    r.catalogue.dimensions.Perm ((declaredDimensions steps).map Dimension.entry)
  /-- The lines for dimensions are in the strict order of their names. -/
  catalogue_dimensions_sorted : (r.catalogue.dimensions.map (·.name)).Pairwise (· < ·)
  /-- The path of a pair of tables is the one that is declared last. -/
  path : ∀ primary target, r.joins.path? primary target = declaredPath? steps primary target
  /-- The priority list is the one that is set last. -/
  priority : r.priority = declaredPriority steps
  /-- The fallback table is the declared one, or else the first one that is preferred. -/
  fallback : some r.fallback = declaredFallback? steps

namespace Registry

variable {r : Registry}

/-- A measure of distinct ones is found under its identifier. -/
theorem lookupMeasure_of_mem (h : (r.measures.map (·.id)).Nodup) {m : Measure}
    (hm : m ∈ r.measures) : r.lookupMeasure m.id = .ok m := by
  unfold lookupMeasure measure?
  rw [find?_eq_some_of_nodup h hm]

/-- No measure is found under an identifier that is not one of a measure. -/
theorem lookupMeasure_of_notMem {id : String} (h : id ∉ r.measures.map (·.id)) :
    r.lookupMeasure id = .error (.measureNotFound id) := by
  unfold lookupMeasure measure?
  rw [find?_eq_none_of_notMem h]

/-- A dimension of distinct ones is found under its identifier. -/
theorem lookupDimension_of_mem (h : (r.dimensions.map (·.id)).Nodup) {x : Dimension}
    (hx : x ∈ r.dimensions) : r.lookupDimension x.id = .ok x := by
  unfold lookupDimension dimension?
  rw [find?_eq_some_of_nodup h hx]

/-- No dimension is found under an identifier that is not one of a dimension. -/
theorem lookupDimension_of_notMem {id : String} (h : id ∉ r.dimensions.map (·.id)) :
    r.lookupDimension id = .error (.dimensionNotFound id) := by
  unfold lookupDimension dimension?
  rw [find?_eq_none_of_notMem h]

end Registry

/-- The registry of consistent steps holds what they declare. -/
theorem keeps_inOrder {steps : List Draft.Step} {check : ExpressionCheck}
    (h : Consistent check steps) {name : String} (hname : declaredFallback? steps = some name) :
    ((ofSteps steps).declared name).inOrder.Keeps steps := by
  obtain ⟨hms, hxs, hdisjoint⟩ := List.nodup_append'.1 h.ids_nodup
  rw [ofSteps_eq]
  generalize hr : Registry.inOrder _ = r
  have hmeasures : r.measures = sortBy (·.id) (declaredMeasures steps) := by rw [← hr]; rfl
  have hdimensions : r.dimensions = sortBy (·.id) (declaredDimensions steps) := by rw [← hr]; rfl
  have hmperm : r.measures.Perm (declaredMeasures steps) := hmeasures ▸ sortBy_perm _ _
  have hxperm : r.dimensions.Perm (declaredDimensions steps) := hdimensions ▸ sortBy_perm _ _
  have hmids : ∀ id, id ∈ r.measures.map (·.id) ↔ id ∈ (declaredMeasures steps).map (·.id) :=
    fun id => (hmperm.map _).mem_iff
  have hxids : ∀ id, id ∈ r.dimensions.map (·.id) ↔ id ∈ (declaredDimensions steps).map (·.id) :=
    fun id => (hxperm.map _).mem_iff
  have hmsorted : (r.measures.map (·.id)).Pairwise (· < ·) :=
    hmeasures ▸ pairwise_lt_sortBy Measure.id hms
  have hxsorted : (r.dimensions.map (·.id)).Pairwise (· < ·) :=
    hdimensions ▸ pairwise_lt_sortBy Dimension.id hxs
  exact {
    tables := by rw [← hr]; rfl
    lookupMeasure := fun m hm =>
      Registry.lookupMeasure_of_mem ((hmperm.map _).nodup_iff.2 hms) (hmperm.mem_iff.2 hm)
    measureNotFound := fun id hid => Registry.lookupMeasure_of_notMem (mt (hmids id).1 hid)
    lookupDimension := fun x hx =>
      Registry.lookupDimension_of_mem ((hxperm.map _).nodup_iff.2 hxs) (hxperm.mem_iff.2 hx)
    dimensionNotFound := fun id hid => Registry.lookupDimension_of_notMem (mt (hxids id).1 hid)
    -- Measures and dimensions share no identifier.
    dimensionNoMeasure := fun x hx => Registry.lookupMeasure_of_notMem fun hm =>
      hdisjoint ((hmids _).1 hm) (List.mem_map_of_mem hx)
    measureNoDimension := fun m hm => Registry.lookupDimension_of_notMem fun hx =>
      hdisjoint (List.mem_map_of_mem hm) ((hxids _).1 hx)
    measures := hmperm
    measures_sorted := hmsorted
    dimensions := hxperm
    dimensions_sorted := hxsorted
    catalogue_measures := hmperm.map _
    catalogue_measures_sorted := by
      unfold Registry.catalogue
      rw [List.map_map]
      exact hmsorted
    catalogue_dimensions := hxperm.map _
    catalogue_dimensions_sorted := by
      unfold Registry.catalogue
      rw [List.map_map]
      exact hxsorted
    path := fun q t => by
      rw [← hr]
      exact JoinGraph.path?_declare _ q t
    priority := by rw [← hr]; rfl
    fallback := by rw [hname, ← hr]; rfl }

/-- Under every check of expressions, steps build to a registry just if their declarations fit
together, and the registry then holds what they declare and nothing else. -/
theorem build_steps_iff (check : ExpressionCheck) (steps : List Draft.Step) :
    ((∃ r, (ofSteps steps).buildWith check = .ok r) ↔ Consistent check steps) ∧
      ∀ r, (ofSteps steps).buildWith check = .ok r → r.Keeps steps := by
  constructor
  · constructor
    · rintro ⟨r, hr⟩
      exact ((buildWith_ofSteps_eq_ok_iff steps).1 hr).1
    · intro h
      obtain ⟨name, hname, -⟩ := h.fallback
      exact ⟨_, (buildWith_ofSteps_eq_ok_iff steps).2 ⟨h, name, hname, rfl⟩⟩
  · intro r hr
    obtain ⟨h, name, hname, rfl⟩ := (buildWith_ofSteps_eq_ok_iff steps).1 hr
    exact keeps_inOrder h hname

namespace Draft

/-- Steps to the schema of page views: a path over a table that does not exist, and a priority list
with that table, are replaced later. -/
def pageViewSteps : List Step :=
  [.table ⟨"views", "v"⟩, .join "views" "users" [⟨"staff", "views", "staff_id", "id"⟩],
    .priority ["staff"], .measure ⟨"views.count", "views", .count, "COUNT(*)", ""⟩,
    .dimension ⟨"views.seen_at", "views", .time, "v.seen_at", some .quarter, ""⟩,
    .table ⟨"users", "u"⟩, .dimension ⟨"users.role", "users", .string, "u.role", none, ""⟩,
    .join "views" "users" [⟨"users", "views", "user_id", "id"⟩], .priority []]

end Draft

/-- The steps to the schema of page views fit together, and its registry holds what they declare. -/
theorem build_steps_iff_pageViews :
    ∃ r, (ofSteps pageViewSteps).build = .ok r ∧ Consistent checkExpression pageViewSteps ∧
      r.Keeps pageViewSteps := by
  have hsteps : ofSteps pageViewSteps = pageViews := rfl
  have hbuild : (ofSteps pageViewSteps).build = .ok pageViewsRegistry := hsteps ▸ pageViews_build
  obtain ⟨hconsistent, hkeeps⟩ := build_steps_iff checkExpression pageViewSteps
  exact ⟨_, hbuild, hconsistent.1 ⟨_, hbuild⟩, hkeeps _ hbuild⟩

end MetricLayer
