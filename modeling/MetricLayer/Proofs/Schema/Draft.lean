import Mathlib.Data.List.TakeDrop
import Mathlib.Data.List.TakeWhile
import MetricLayer.Proofs.Fallible
import MetricLayer.Schema.Draft

/-!
# Drafts that build

A draft builds if its declarations fit together (`Registry.WellFormed`) and its expressions pass
their check (`Registry.Passes`), and then to the registry of them with the members in the order of
their identifiers: `Draft.buildWith_eq_ok_iff`. Each check of a draft has a lemma that says when it
passes. What the compiler relies on is `Draft.wellFormed_of_buildWith`, which holds for any check of
expressions.
-/

namespace MetricLayer

/-! ## The order of members -/

section
variable {α : Type} (key : α → String)

/-- An item is put among the others. -/
theorem insertBy_perm (x : α) (xs : List α) : (insertBy key x xs).Perm (x :: xs) := by
  induction xs with
  | nil => exact .refl _
  | cons y ys ih =>
    unfold insertBy
    split
    · exact .refl _
    · exact (ih.cons y).trans (.swap x y ys)

/-- Items in the order of their keys are the same items. -/
theorem sortBy_perm (xs : List α) : (sortBy key xs).Perm xs := by
  induction xs with
  | nil => exact .refl _
  | cons x xs ih => exact (insertBy_perm key x (sortBy key xs)).trans (ih.cons x)

end

namespace Draft

/-! ## The checks -/

/-- A member identifier has a period. -/
theorem period_mem_of_isMemberId {id : String} (h : isMemberId id) : '.' ∈ id.toList := by
  by_contra hmem
  have hdrop : id.toList.dropWhile (· != '.') = [] := by
    rw [List.dropWhile_eq_nil_iff]
    intro c hc
    rw [bne_iff_ne]
    rintro rfl
    exact hmem hc
  rw [isMemberId, isMemberIdChars, List.span_eq_takeWhile_dropWhile, hdrop] at h
  cases h

/-- A table is registered. -/
def Registers (tables : List Table) (name : String) : Prop :=
  ∃ t ∈ tables, t.name = name

/-- A member has a member identifier and a registered table. -/
structure MemberWellFormed (tables : List Table) (id table : String) : Prop where
  /-- The identifier is well formed. -/
  id_wellFormed : isMemberId id
  /-- The table is registered. -/
  registers : Registers tables table

/-- Tables pass their check if their names are new and their aliases are. -/
theorem checkTables_eq_ok_iff {earlier ts : List Table} {u : Unit} :
    checkTables earlier ts = .ok u ↔
      Fresh (earlier.map (·.name)) (ts.map (·.name)) ∧
        Fresh (earlier.map (·.aliasName)) (ts.map (·.aliasName)) := by
  -- Each table that passes is one of the earlier ones for those behind it.
  induction ts generalizing earlier with
  | nil => exact iff_of_true rfl ⟨fresh_nil _, fresh_nil _⟩
  | cons t ts ih =>
    have hname : (earlier.any fun u => u.name = t.name) = true ↔ t.name ∈ earlier.map (·.name) := by
      simp
    have halias : (earlier.find? fun u => u.aliasName = t.aliasName) = none ↔
        t.aliasName ∉ earlier.map (·.aliasName) := by
      simp
    rw [List.map_cons, List.map_cons, fresh_cons_iff, fresh_cons_iff]
    unfold checkTables
    split
    case isTrue h => exact iff_of_false (by simp) fun ⟨⟨hx, _⟩, _⟩ => hx (hname.1 h)
    case isFalse h =>
      split
      case h_1 w hw =>
        refine iff_of_false (by simp) fun ⟨_, hx, _⟩ => ?_
        rw [halias.2 hx] at hw
        cases hw
      case h_2 hw =>
        rw [ih, List.map_append, List.map_append, List.map_singleton, List.map_singleton,
          fresh_append_singleton_iff, fresh_append_singleton_iff, and_iff_right (mt hname.2 h),
          and_iff_right (halias.1 hw)]

/-- A table passes its check if it is registered. -/
theorem checkTable_eq_ok_iff {tables : List Table} {context : TableContext} {name : String}
    {u : Unit} : checkTable tables context name = .ok u ↔ Registers tables name := by
  have h : (tables.any fun t => t.name = name) = true ↔ Registers tables name := by
    simp [Registers]
  rw [← h]
  unfold checkTable
  split
  case isTrue ht => exact iff_of_true rfl ht
  case isFalse ht => exact iff_of_false (by simp) ht

/-- An identifier passes its check if it is well formed and new. -/
theorem checkId_eq_ok_iff {seen : List String} {id : String} {u : Unit} :
    checkId seen id = .ok u ↔ isMemberId id ∧ id ∉ seen := by
  unfold checkId
  split
  case isTrue hid =>
    split
    case isTrue hmem => exact iff_of_false (by simp) fun ⟨_, hnew⟩ => hnew hmem
    case isFalse hmem => exact iff_of_true rfl ⟨hid, hmem⟩
  case isFalse hid => exact iff_of_false (by simp) fun ⟨h, _⟩ => hid h

/-- The SQL of a member passes its check if it is one expression. -/
theorem checkExpression_eq_ok_iff {id sql : String} {u : Unit} :
    checkExpression id sql = .ok u ↔ ∃ t, Term.parse sql = .ok t := by
  unfold checkExpression
  cases Term.parse sql with
  | ok t => simp
  | error fault => simp

/-- A dimension passes the check of its grain if it has none or is a time dimension. -/
theorem checkGrain_eq_ok_iff {d : Dimension} {u : Unit} :
    checkGrain d = .ok u ↔ (d.grain ≠ none → d.kind = .time) := by
  have h : (d.grain.isSome && !d.isTime) = true ↔ ¬(d.grain ≠ none → d.kind = .time) := by
    rw [Bool.and_eq_true, Option.isSome_iff_ne_none, Classical.not_imp]
    simp [Dimension.isTime]
  unfold checkGrain
  split
  case isTrue hd => exact iff_of_false (by simp) (h.1 hd)
  case isFalse hd => exact iff_of_true rfl (not_not.1 (mt h.2 hd))

section

variable {check : ExpressionCheck} {tables : List Table} {seen : List String} {u : Unit}

/-- A member passes its check if it is well formed, its expression passes, and its identifier is
new. -/
theorem checkMember_eq_ok_iff {id table sql : String} :
    checkMember check tables seen id table sql = .ok u ↔
      (MemberWellFormed tables id table ∧ check id sql = .ok ()) ∧ id ∉ seen := by
  unfold checkMember
  simp only [bind_eq_ok_iff, checkId_eq_ok_iff, checkTable_eq_ok_iff]
  constructor
  · rintro ⟨_, ⟨hid, hnew⟩, _, htable, hsql⟩
    exact ⟨⟨⟨hid, htable⟩, hsql⟩, hnew⟩
  · rintro ⟨⟨h, hsql⟩, hnew⟩
    exact ⟨(), ⟨h.id_wellFormed, hnew⟩, (), h.registers, hsql⟩

/-- Measures pass their checks if each is well formed, their expressions pass, and their identifiers
are new. -/
theorem checkMeasures_eq_ok_iff {ms : List Measure} :
    checkMeasures check tables seen ms = .ok u ↔
      (∀ m ∈ ms, MemberWellFormed tables m.id m.table ∧ check m.id m.sql = .ok ()) ∧
        Fresh seen (ms.map (·.id)) := by
  induction ms generalizing seen with
  | nil => exact iff_of_true rfl ⟨by simp, fresh_nil seen⟩
  | cons m ms ih =>
    unfold checkMeasures
    simp only [bind_eq_ok_iff, checkMember_eq_ok_iff, ih]
    rw [List.map_cons, fresh_cons_iff, List.forall_mem_cons]
    constructor
    · rintro ⟨_, ⟨hm, hnew⟩, hms, hfresh⟩
      exact ⟨⟨hm, hms⟩, hnew, hfresh⟩
    · rintro ⟨⟨hm, hms⟩, hnew, hfresh⟩
      exact ⟨(), ⟨hm, hnew⟩, hms, hfresh⟩

/-- Dimensions pass their checks if each is well formed, their expressions pass, only time
dimensions have a grain, and their identifiers are new. -/
theorem checkDimensions_eq_ok_iff {ds : List Dimension} :
    checkDimensions check tables seen ds = .ok u ↔
      (∀ d ∈ ds, (MemberWellFormed tables d.id d.table ∧ check d.id d.sql = .ok ()) ∧
          (d.grain ≠ none → d.kind = .time)) ∧ Fresh seen (ds.map (·.id)) := by
  induction ds generalizing seen with
  | nil => exact iff_of_true rfl ⟨by simp, fresh_nil seen⟩
  | cons d ds ih =>
    unfold checkDimensions
    simp only [bind_eq_ok_iff, checkMember_eq_ok_iff, checkGrain_eq_ok_iff, ih]
    rw [List.map_cons, fresh_cons_iff, List.forall_mem_cons]
    constructor
    · rintro ⟨_, ⟨hd, hnew⟩, _, hgrain, hds, hfresh⟩
      exact ⟨⟨⟨hd, hgrain⟩, hds⟩, hnew, hfresh⟩
    · rintro ⟨⟨⟨hd, hgrain⟩, hds⟩, hnew, hfresh⟩
      exact ⟨(), ⟨hd, hnew⟩, (), hgrain, hds, hfresh⟩

end

/-- A path passes its check if its tables are registered. -/
theorem checkPath_eq_ok_iff {tables : List Table} {e : String × JoinPath} {u : Unit} :
    checkPath tables e = .ok u ↔ ∀ t ∈ pathTables e.1 e.2, Registers tables t := by
  unfold checkPath
  simp only [forM_eq_ok_iff, checkTable_eq_ok_iff]

/-- The fallback table passes its check if there is one and it is registered. -/
theorem checkFallback_eq_ok_iff {d : Draft} {name : String} :
    d.checkFallback = .ok name ↔ d.fallbackTable? = some name ∧ Registers d.tables name := by
  unfold checkFallback
  cases d.fallbackTable? with
  | none => simp
  | some t =>
    simp only [map_eq_ok_iff, checkTable_eq_ok_iff, Option.some.injEq]
    constructor
    · rintro ⟨_, ht, rfl⟩
      exact ⟨rfl, ht⟩
    · rintro ⟨rfl, ht⟩
      exact ⟨(), ht, rfl⟩

end Draft

/-! ## Well-formed registries -/

open Draft (MemberWellFormed Registers pathTables)

/-- The entries of a registry fit together. -/
structure Registry.WellFormed (r : Registry) : Prop where
  /-- No two tables share a name. -/
  names_nodup : (r.tables.map (·.name)).Nodup
  /-- No two tables share an alias. -/
  aliases_nodup : (r.tables.map (·.aliasName)).Nodup
  /-- No two members share an identifier, measures and dimensions taken together. -/
  ids_nodup : (r.measures.map (·.id) ++ r.dimensions.map (·.id)).Nodup
  /-- The measures are well formed. -/
  measures : ∀ m ∈ r.measures, MemberWellFormed r.tables m.id m.table
  /-- The dimensions are well formed. -/
  dimensions : ∀ x ∈ r.dimensions, MemberWellFormed r.tables x.id x.table
  /-- Only time dimensions have a grain. -/
  grains : ∀ x ∈ r.dimensions, x.grain ≠ none → x.kind = .time
  /-- The tables of joins are registered. -/
  joins : ∀ e ∈ r.joins.toList, ∀ t ∈ pathTables e.1 e.2, Registers r.tables t
  /-- The tables of the priority list are registered. -/
  priority : ∀ t ∈ r.priority, Registers r.tables t
  /-- The fallback table is registered. -/
  fallback : Registers r.tables r.fallback

/-- The expressions of a registry pass a check. -/
structure Registry.Passes (check : ExpressionCheck) (r : Registry) : Prop where
  /-- The expressions of the measures pass. -/
  measures : ∀ m ∈ r.measures, check m.id m.sql = .ok ()
  /-- The expressions of the dimensions pass. -/
  dimensions : ∀ x ∈ r.dimensions, check x.id x.sql = .ok ()

/-- The registry with its members in the order of their identifiers. -/
def Registry.inOrder (r : Registry) : Registry :=
  { r with measures := sortBy (·.id) r.measures, dimensions := sortBy (·.id) r.dimensions }

/-- A registry in order has the same measures. -/
theorem Registry.measures_inOrder_perm (r : Registry) : r.inOrder.measures.Perm r.measures :=
  sortBy_perm _ _

/-- A registry in order has the same dimensions. -/
theorem Registry.dimensions_inOrder_perm (r : Registry) :
    r.inOrder.dimensions.Perm r.dimensions :=
  sortBy_perm _ _

/-- The order of its members does not matter to whether a registry is well formed. -/
theorem Registry.WellFormed.inOrder {r : Registry} (h : r.WellFormed) : r.inOrder.WellFormed := by
  have hms := r.measures_inOrder_perm
  have hds := r.dimensions_inOrder_perm
  refine ⟨h.names_nodup, h.aliases_nodup, ?_, ?_, ?_, ?_, h.joins, h.priority, h.fallback⟩
  · exact ((hms.map _).append (hds.map _)).nodup_iff.2 h.ids_nodup
  · exact fun m hm => h.measures m (hms.mem_iff.1 hm)
  · exact fun x hx => h.dimensions x (hds.mem_iff.1 hx)
  · exact fun x hx => h.grains x (hds.mem_iff.1 hx)

/-- The order of its members does not matter to whether the expressions of a registry pass. -/
theorem Registry.Passes.inOrder {check : ExpressionCheck} {r : Registry} (h : r.Passes check) :
    r.inOrder.Passes check :=
  ⟨fun m hm => h.measures m (r.measures_inOrder_perm.mem_iff.1 hm),
    fun x hx => h.dimensions x (r.dimensions_inOrder_perm.mem_iff.1 hx)⟩

namespace Draft

/-- The declarations of a draft as entries of a registry, under a fallback table. -/
def declared (d : Draft) (fallback : String) : Registry where
  tables := d.tables
  measures := d.measures
  dimensions := d.dimensions
  joins := d.joins
  priority := d.priority
  fallback := fallback

section

variable {check : ExpressionCheck} {d : Draft} {r : Registry}

/-- A draft builds if it has a fallback table, its declarations fit together and its expressions
pass, and then to the registry of its declarations. -/
theorem buildWith_eq_ok_iff :
    d.buildWith check = .ok r ↔
      ∃ t, d.fallbackTable? = some t ∧ (d.declared t).WellFormed ∧ (d.declared t).Passes check ∧
        r = (d.declared t).inOrder := by
  unfold buildWith
  simp only [bind_eq_ok_iff, checkTables_eq_ok_iff, checkMeasures_eq_ok_iff,
    checkDimensions_eq_ok_iff, forM_eq_ok_iff, checkPath_eq_ok_iff, checkTable_eq_ok_iff,
    checkFallback_eq_ok_iff, List.map_nil, fresh_nil_left_iff]
  constructor
  · rintro ⟨_, ⟨hnames, haliases⟩, _, ⟨hms, hids⟩, _, ⟨hds, hfresh⟩, _, hjoins, _, hpriority, t,
      ⟨ht, hfallback⟩, h⟩
    refine ⟨t, ht, ?_, ⟨fun m hm => (hms m hm).2, fun x hx => (hds x hx).1.2⟩,
      (Except.ok.inj h).symm⟩
    -- The dimensions are checked against the measures, so that all identifiers are distinct.
    exact ⟨hnames, haliases, nodup_append_iff_fresh.2 ⟨hids, hfresh⟩, fun m hm => (hms m hm).1,
      fun x hx => (hds x hx).1.1, fun x hx => (hds x hx).2, hjoins, hpriority, hfallback⟩
  · rintro ⟨t, ht, h, hpass, rfl⟩
    obtain ⟨hids, hfresh⟩ := nodup_append_iff_fresh.1 h.ids_nodup
    exact ⟨(), ⟨h.names_nodup, h.aliases_nodup⟩, (),
      ⟨fun m hm => ⟨h.measures m hm, hpass.measures m hm⟩, hids⟩, (),
      ⟨fun x hx => ⟨⟨h.dimensions x hx, hpass.dimensions x hx⟩, h.grains x hx⟩, hfresh⟩, (),
      h.joins, (), h.priority, t, ⟨ht, h.fallback⟩, rfl⟩

/-- A registry that is built is well formed, whatever its expressions are checked for. -/
theorem wellFormed_of_buildWith (h : d.buildWith check = .ok r) : r.WellFormed := by
  obtain ⟨t, -, hd, -, rfl⟩ := buildWith_eq_ok_iff.1 h
  exact hd.inOrder

/-- The expressions of a registry that is built pass their check. -/
theorem passes_of_buildWith (h : d.buildWith check = .ok r) : r.Passes check := by
  obtain ⟨t, -, -, hpass, rfl⟩ := buildWith_eq_ok_iff.1 h
  exact hpass.inOrder

/-- A draft whose checks are found to pass builds to the registry of its declarations. -/
theorem build_eq_of_toBool {t : String} (h : d.build.toBool = true)
    (ht : d.fallbackTable? = some t) : d.build = .ok (d.declared t).inOrder := by
  obtain ⟨r, hr⟩ := exists_ok_of_toBool h
  obtain ⟨t', ht', -, -, rfl⟩ := buildWith_eq_ok_iff.1 hr
  rwa [Option.some.inj (ht.symm.trans ht')]

end

/-! ## A small schema -/

/-- A schema of page views and the users who see them. -/
def pageViews : Draft where
  tables := [⟨"views", "v"⟩, ⟨"users", "u"⟩]
  measures := [⟨"views.count", "views", .count, "COUNT(*)", ""⟩]
  dimensions := [⟨"views.seen_at", "views", .time, "v.seen_at", some .quarter, ""⟩,
    ⟨"users.role", "users", .string, "u.role", none, ""⟩]
  joins := ⟨[("views", [⟨"users", [⟨"users", "views", "user_id", "id"⟩]⟩])]⟩

/-- The registry of page views. -/
def pageViewsRegistry : Registry :=
  (pageViews.declared "views").inOrder

/-- The schema of page views builds. -/
theorem pageViews_build : pageViews.build = .ok pageViewsRegistry :=
  build_eq_of_toBool (by decide +kernel) rfl

end Draft

end MetricLayer
