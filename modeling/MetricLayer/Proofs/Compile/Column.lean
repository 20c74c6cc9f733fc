import MetricLayer.Compile.Column
import MetricLayer.Proofs.Compile.Selection
import MetricLayer.Proofs.Schema.Draft
import MetricLayer.Proofs.Sql.Placeholders

/-!
# Columns and the sort order

The columns of a selection are made if no two share a name (`Selection.columns_eq_ok_iff`), and the
sort order if every key refers to a column (`orderTerms_eq_ok_iff`). Neither holds a placeholder.
-/

namespace MetricLayer

/-- The first column whose name occurs before has the first name that is repeated. -/
theorem map_firstClash? (seen : List String) (cs : List Column) :
    (firstClash? seen cs).map (·.aliasName) = firstRepeated? seen (cs.map (·.aliasName)) := by
  induction cs generalizing seen with
  | nil => rfl
  | cons c cs ih =>
    rw [firstClash?, List.map_cons, firstRepeated?]
    split
    · rfl
    · exact ih _

/-- No columns clash if their names are distinct. -/
theorem firstClash?_eq_none_iff {cs : List Column} :
    firstClash? [] cs = none ↔ (cs.map (·.aliasName)).Nodup := by
  rw [← Option.map_eq_none_iff (f := fun c : Column => c.aliasName), map_firstClash?,
    firstRepeated?_eq_none_iff, fresh_nil_left_iff]

/-- The columns of a selection are made if no two share a name. -/
theorem Selection.columns_eq_ok_iff {s : Selection} {cs : List Column} :
    s.columns = .ok cs ↔ (s.columnList.map (·.aliasName)).Nodup ∧ cs = s.columnList := by
  rw [← firstClash?_eq_none_iff]
  unfold Selection.columns
  cases firstClash? [] s.columnList with
  | none => simp [eq_comm]
  | some c => simp

/-- An item of the sort order is made if its key refers to a column. -/
theorem orderTerm_eq_ok_iff {cs : List Column} {item : OrderItem} {o : OrderTerm} :
    orderTerm cs item = .ok o ↔
      ∃ c, orderedColumn? cs item.key = some c ∧
        o = ⟨.column none c.aliasName, some item.direction⟩ := by
  unfold orderTerm
  cases orderedColumn? cs item.key with
  | none => simp
  | some c => simp [eq_comm]

/-- The sort order is made if every key refers to a column; without a key it is the one by time. -/
theorem orderTerms_eq_ok_iff {cs : List Column} {items : List OrderItem} {os : List OrderTerm} :
    orderTerms cs items = .ok os ↔
      if items = [] then os = defaultOrder cs
      else List.Forall₂ (fun item o => ∃ c, orderedColumn? cs item.key = some c ∧
        o = ⟨.column none c.aliasName, some item.direction⟩) items os := by
  unfold orderTerms
  cases items with
  | nil => simp [eq_comm]
  | cons item items =>
    rw [if_neg (by simp), if_neg (by simp), mapM_eq_ok_iff]
    simp only [orderTerm_eq_ok_iff]

/-! ## The columns of a selection -/

/-- The name of the column of a member is not the time key, which has no underscore. -/
theorem outputAlias_ne_timeKey {id : String} (h : isMemberId id) : outputAlias id ≠ timeKey := by
  intro heq
  have hmem : '_' ∈ (outputAlias id).toList := by
    rw [outputAlias, String.toList_map, List.mem_map]
    exact ⟨'.', Draft.period_mem_of_isMemberId h, rfl⟩
  rw [heq] at hmem
  exact absurd hmem (by decide)

/-- A member identifier is not the time key, which has no period. -/
theorem isMemberId_ne_timeKey {id : String} (h : isMemberId id) : id ≠ timeKey := by
  rintro rfl
  exact absurd h (by decide)

/-- The columns have the names of the measures, the dimensions and the time dimension. -/
theorem Selection.map_aliasName_columnList (s : Selection) :
    s.columnList.map (·.aliasName) =
      (s.measures.map (·.id) ++ s.dimensions.map (·.id)).map outputAlias ++
        s.time.toList.map fun _ => timeKey := by
  unfold Selection.columnList
  simp only [List.map_append, List.map_map, List.append_assoc]
  rfl

/-- The columns are of the measures, the dimensions and the time dimension. -/
theorem Selection.map_member_columnList (s : Selection) :
    s.columnList.map (·.member) =
      s.measures.map (·.id) ++ (s.dimensions.map (·.id) ++
        s.time.toList.map (·.clause.dimension)) := by
  unfold Selection.columnList
  simp only [List.map_append, List.map_map]
  rfl

/-- There is a column of the time dimension if one is selected. -/
theorem Selection.exists_time_column_iff {s : Selection} :
    (∃ c ∈ s.columnList, c.role = .time) ↔ s.time ≠ none := by
  have hrole : s.columnList.map (·.role) =
      s.measures.map (fun _ => .measure) ++ (s.dimensions.map (fun _ => .dimension) ++
        s.time.toList.map fun _ => .time) := by
    unfold Selection.columnList
    simp only [List.map_append, List.map_map]
    rfl
  rw [← List.mem_map (f := fun c : Column => c.role), hrole]
  cases s.time with
  | none => simp
  | some t => simp

/-- An order key refers to a column if it is the time key and a time dimension is selected, or
another key and one of the members of the columns. -/
theorem Selection.orderedColumn?_isSome_iff {s : Selection} {key : String} :
    (orderedColumn? s.columnList key).isSome ↔
      if key = timeKey then s.time ≠ none else key ∈ s.columnList.map (·.member) := by
  unfold orderedColumn?
  split
  case isTrue =>
    rw [← Selection.exists_time_column_iff]
    simp
  case isFalse => simp

/-- There is a sort order if every key refers to a column. -/
theorem exists_orderTerms_iff {cs : List Column} {items : List OrderItem} :
    (∃ os, orderTerms cs items = .ok os) ↔
      ∀ item ∈ items, (orderedColumn? cs item.key).isSome := by
  simp only [orderTerms_eq_ok_iff]
  by_cases hitems : items = []
  · subst hitems
    simp
  · simp only [if_neg hitems, exists_results_iff, Option.isSome_iff_exists]
    refine forall₂_congr fun item _ => ?_
    exact ⟨fun ⟨_, c, hc, _⟩ => ⟨c, hc⟩, fun ⟨c, hc⟩ => ⟨_, c, hc, rfl⟩⟩

/-! ## Placeholders -/

/-- No column has a placeholder. -/
theorem Selection.placeholders_columnList (d : Dialect) (s : Selection) :
    ∀ c ∈ s.columnList, c.expr.placeholders d = [] := by
  intro c hc
  unfold Selection.columnList at hc
  rcases List.mem_append.1 hc with hc | hc
  · obtain ⟨m, -, rfl⟩ := List.mem_map.1 hc
    exact Expr.placeholders_raw d m.sql
  rcases List.mem_append.1 hc with hc | hc
  · obtain ⟨x, -, rfl⟩ := List.mem_map.1 hc
    exact Operand.placeholders_expr d x.operand
  · obtain ⟨t, -, rfl⟩ := List.mem_map.1 hc
    exact Operand.placeholders_expr d t.bucket

/-- A sort order is one by columns of the result. -/
theorem expr_orderTerms {cs : List Column} {items : List OrderItem} {os : List OrderTerm}
    (h : orderTerms cs items = .ok os) : ∀ o ∈ os, ∃ name, o.expr = .column none name := by
  rw [orderTerms_eq_ok_iff] at h
  split at h
  case isTrue =>
    rw [h]
    unfold defaultOrder
    intro o ho
    split at ho
    · rw [List.mem_singleton.1 ho]
      exact ⟨timeKey, rfl⟩
    · exact absurd ho List.not_mem_nil
  case isFalse =>
    intro o ho
    obtain ⟨item, -, c, -, rfl⟩ := exists_item_of_mem h o ho
    exact ⟨c.aliasName, rfl⟩

/-- No item of the sort order has a placeholder. -/
theorem placeholders_orderTerms {d : Dialect} {cs : List Column} {items : List OrderItem}
    {os : List OrderTerm} (h : orderTerms cs items = .ok os) :
    ∀ o ∈ os, o.expr.placeholders d = [] := by
  intro o ho
  obtain ⟨name, hname⟩ := expr_orderTerms h o ho
  rw [hname]
  exact Expr.placeholders_column d none name

end MetricLayer
