import Mathlib.Data.List.Forall2
import Mathlib.Data.List.Nodup
import Mathlib.Data.List.TakeDrop
import Mathlib.Data.List.TakeWhile

/-!
# Items and their results

Facts about lists that checks and look-ups share: every item has its result and every result its
item (`exists_result_of_mem`, `exists_item_of_mem`), and a check that remembers what it has seen
passes just for items that are `Fresh`.
-/

namespace MetricLayer

variable {α β : Type}

/-- Every result is that of an item. -/
theorem exists_item_of_mem {R : α → β → Prop} {xs : List α} {ys : List β}
    (h : List.Forall₂ R xs ys) : ∀ y ∈ ys, ∃ x ∈ xs, R x y := by
  induction h with
  | nil => exact fun y hy => absurd hy List.not_mem_nil
  | cons hxy _ ih =>
    intro y hy
    rcases List.mem_cons.1 hy with rfl | hy
    · exact ⟨_, List.mem_cons_self, hxy⟩
    · obtain ⟨x, hx, hxy⟩ := ih y hy
      exact ⟨x, List.mem_cons_of_mem _ hx, hxy⟩

/-- Every item has a result. -/
theorem exists_result_of_mem {R : α → β → Prop} {xs : List α} {ys : List β}
    (h : List.Forall₂ R xs ys) : ∀ x ∈ xs, ∃ y ∈ ys, R x y :=
  exists_item_of_mem h.flip

/-- The results before a result are those of the items before its item. -/
theorem exists_split_of_results {R : α → β → Prop} {xs : List α} {before after : List β} {y : β}
    (h : List.Forall₂ R xs (before ++ y :: after)) :
    ∃ as a bs, xs = as ++ a :: bs ∧ List.Forall₂ R as before ∧ R a y := by
  have hbefore := List.forall₂_take_append _ _ _ h
  have hafter := List.forall₂_drop_append _ _ _ h
  obtain ⟨a, bs, hay, -, hdrop⟩ := List.forall₂_cons_right_iff.1 hafter
  exact ⟨_, a, bs, by rw [← hdrop, List.take_append_drop], hbefore, hay⟩

/-- There are results for all items if there is one for each. -/
theorem exists_results_iff {R : α → β → Prop} {xs : List α} :
    (∃ ys, List.Forall₂ R xs ys) ↔ ∀ x ∈ xs, ∃ y, R x y := by
  constructor
  · rintro ⟨ys, h⟩ x hx
    obtain ⟨y, -, hxy⟩ := exists_result_of_mem h x hx
    exact ⟨y, hxy⟩
  · intro h
    induction xs with
    | nil => exact ⟨[], .nil⟩
    | cons x xs ih =>
      obtain ⟨y, hy⟩ := h x List.mem_cons_self
      obtain ⟨ys, hys⟩ := ih fun x hx => h x (List.mem_cons_of_mem _ hx)
      exact ⟨y :: ys, .cons hy hys⟩

/-- The items are found again from their results. -/
theorem map_eq_of_results {R : α → β → Prop} {f : β → α} {xs : List α} {ys : List β}
    (h : List.Forall₂ R xs ys) (hf : ∀ x y, R x y → f y = x) : ys.map f = xs := by
  induction h with
  | nil => rfl
  | cons hxy _ ih => rw [List.map_cons, ih, hf _ _ hxy]

/-- The results are those that a look-up finds. -/
theorem filterMap_eq_of_results {f : α → Option β} {xs : List α} {ys : List β}
    (h : List.Forall₂ (fun x y => f x = some y) xs ys) : xs.filterMap f = ys := by
  induction h with
  | nil => rfl
  | cons hxy _ ih => rw [List.filterMap_cons_some hxy, ih]

/-- The first result of the items of several lists is that of the first list that has one. -/
theorem findSome?_flatMap (f : α → List β) {γ : Type} (g : β → Option γ) (xs : List α) :
    (xs.flatMap f).findSome? g = xs.findSome? fun x => (f x).findSome? g := by
  induction xs with
  | nil => rfl
  | cons x xs ih =>
    rw [List.flatMap_cons, List.findSome?_append, List.findSome?_cons, ih]
    cases (f x).findSome? g with
    | none => rfl
    | some z => rfl

/-- An item of a list whose keys are distinct is found under its key. -/
theorem find?_eq_some_of_nodup [DecidableEq β] {key : α → β} {xs : List α}
    (h : (xs.map key).Nodup) {x : α} (hx : x ∈ xs) :
    xs.find? (fun y => key y = key x) = some x := by
  cases hfind : xs.find? fun y => key y = key x with
  | none => exact absurd (List.find?_eq_none.1 hfind x hx) (by simp)
  | some y =>
    have hkey : key y = key x := by simpa using List.find?_some hfind
    rw [List.inj_on_of_nodup_map h (List.mem_of_find?_eq_some hfind) hx hkey]

/-- No item is found under what is the key of none. -/
theorem find?_eq_none_of_notMem [DecidableEq β] {key : α → β} {xs : List α} {k : β}
    (h : k ∉ xs.map key) : xs.find? (fun y => key y = k) = none := by
  rw [List.find?_eq_none]
  intro y hy hkey
  exact h (List.mem_map.2 ⟨y, hy, by simpa using hkey⟩)

/-- What is found under a key does not depend on the order of items whose keys are distinct. -/
theorem find?_eq_of_perm [DecidableEq β] {key : α → β} {xs ys : List α} (h : xs.Perm ys)
    (hxs : (xs.map key).Nodup) (k : β) :
    xs.find? (fun x => key x = k) = ys.find? (fun x => key x = k) := by
  have hkeys : (xs.map key).Perm (ys.map key) := h.map key
  by_cases hk : k ∈ xs.map key
  · obtain ⟨x, hx, rfl⟩ := List.mem_map.1 hk
    rw [find?_eq_some_of_nodup hxs hx,
      find?_eq_some_of_nodup (hkeys.nodup_iff.1 hxs) (h.mem_iff.1 hx)]
  · rw [find?_eq_none_of_notMem hk, find?_eq_none_of_notMem fun hy => hk (hkeys.mem_iff.2 hy)]

/-- Among entries with distinct keys, a key is looked up to the value that stands beside it. -/
theorem lookup_eq_some_iff_mem [BEq α] [LawfulBEq α] {es : List (α × β)}
    (h : (es.map Prod.fst).Nodup) {k : α} {v : β} : es.lookup k = some v ↔ (k, v) ∈ es := by
  rw [List.lookup_eq_some_iff]
  constructor
  · rintro ⟨before, after, rfl, -⟩
    exact List.mem_append_right before List.mem_cons_self
  · intro hmem
    obtain ⟨before, after, rfl⟩ := List.append_of_mem hmem
    refine ⟨before, after, rfl, fun e he => ?_⟩
    rw [List.map_append, List.map_cons, List.nodup_append'] at h
    have hne : k ≠ e.1 := by
      rintro rfl
      exact h.2.2 (List.mem_map_of_mem he) List.mem_cons_self
    simpa using hne

/-- Lists of items that two lists have are in what these form together. -/
theorem append_subset_append {xs ys zs ws : List α} (hxs : xs ⊆ zs) (hys : ys ⊆ ws) :
    xs ++ ys ⊆ zs ++ ws :=
  List.append_subset.2 ⟨List.subset_append_of_subset_left ws hxs,
    List.subset_append_of_subset_right zs hys⟩

/-- A partial function of each item depends only on its results at the items. -/
theorem mapM_congr {f g : α → Option β} {xs : List α} (h : ∀ x ∈ xs, f x = g x) :
    xs.mapM f = xs.mapM g := by
  induction xs with
  | nil => rfl
  | cons x xs ih =>
    rw [List.mapM_cons, List.mapM_cons, h x List.mem_cons_self,
      ih fun x hx => h x (List.mem_cons_of_mem _ hx)]

/-- There are as many results of a partial function as items. -/
theorem length_eq_of_mapM {f : α → Option β} {xs : List α} {ys : List β} (h : xs.mapM f = some ys) :
    ys.length = xs.length := by
  induction xs generalizing ys with
  | nil =>
    obtain rfl : [] = ys := by simpa using h
    rfl
  | cons x xs ih =>
    rw [List.mapM_cons] at h
    obtain ⟨y, -, h⟩ := Option.bind_eq_some_iff.1 h
    obtain ⟨ys', hys, h⟩ := Option.bind_eq_some_iff.1 h
    obtain rfl : y :: ys' = ys := by simpa using h
    rw [List.length_cons, List.length_cons, ih hys]

/-! ## Runs -/

/-- A run of items that goes to the end. -/
theorem span_eq_self {p : α → Bool} {xs : List α} (h : ∀ x ∈ xs, p x) : xs.span p = (xs, []) := by
  rw [List.span_eq_takeWhile_dropWhile, List.takeWhile_eq_self_iff.2 h,
    List.dropWhile_eq_nil_iff.2 h]

/-- A run ends where it ended, in front of an item that does not belong to it. -/
theorem span_append {p : α → Bool} {more : List α} (xs : List α)
    (h : ∀ x ∈ more.head?, p x = false) :
    (xs ++ more).span p = ((xs.span p).1, (xs.span p).2 ++ more) := by
  simp only [List.span_eq_takeWhile_dropWhile]
  induction xs with
  | nil =>
    cases more with
    | nil => rfl
    | cons m ms =>
      have hm : p m = false := h m rfl
      simp [hm]
  | cons x xs ih =>
    obtain ⟨htake, hdrop⟩ := Prod.mk.inj ih
    by_cases hx : p x
    · simp [hx, htake, hdrop]
    · simp [hx]

/-- The items up to the first that fails a test, and those from there on. -/
theorem run_append {p : α → Bool} {xs more : List α} (h : ∀ x ∈ xs, p x = true)
    (hmore : ∀ x ∈ more.head?, p x = false) :
    (xs ++ more).takeWhile p = xs ∧ (xs ++ more).dropWhile p = more := by
  have hspan := span_append xs hmore
  rw [span_eq_self h, List.span_eq_takeWhile_dropWhile] at hspan
  exact Prod.mk.inj hspan

/-- What is left behind a run begins with an item that does not belong to it. -/
theorem eq_false_of_mem_head?_dropWhile {p : α → Bool} {xs : List α} :
    ∀ x ∈ (xs.dropWhile p).head?, p x = false := by
  intro x hx
  have hhead := List.head?_dropWhile_not p xs
  rwa [Option.mem_def.1 hx] at hhead

/-! ## Items that are new -/

/-- The items are distinct, and none of them has been seen. -/
def Fresh (seen xs : List α) : Prop :=
  xs.Nodup ∧ ∀ x ∈ xs, x ∉ seen

/-- No items are new. -/
theorem fresh_nil (seen : List α) : Fresh seen [] :=
  ⟨List.nodup_nil, fun _ hx => absurd hx List.not_mem_nil⟩

/-- Items are new if the first is, and the others still are after the first is seen. -/
theorem fresh_cons_iff {seen xs : List α} {x : α} :
    Fresh seen (x :: xs) ↔ x ∉ seen ∧ Fresh (x :: seen) xs := by
  unfold Fresh
  rw [List.nodup_cons, List.forall_mem_cons]
  constructor
  · rintro ⟨⟨hx, hxs⟩, hseen, hnew⟩
    refine ⟨hseen, hxs, fun y hy hmem => ?_⟩
    rcases List.mem_cons.1 hmem with rfl | hmem
    · exact hx hy
    · exact hnew y hy hmem
  · rintro ⟨hseen, hxs, hnew⟩
    refine ⟨⟨fun hx => hnew x hx List.mem_cons_self, hxs⟩, hseen, fun y hy hmem => ?_⟩
    exact hnew y hy (List.mem_cons_of_mem _ hmem)

/-- Where an item is put among those that are seen makes no difference. -/
theorem fresh_append_singleton_iff {seen xs : List α} {x : α} :
    Fresh (seen ++ [x]) xs ↔ Fresh (x :: seen) xs := by
  have hmem : ∀ y, y ∈ seen ++ [x] ↔ y ∈ x :: seen := by
    intro y
    rw [List.mem_append, List.mem_singleton, List.mem_cons, or_comm]
  unfold Fresh
  simp only [hmem]

/-- Before any item is seen, items are new if they are distinct. -/
theorem fresh_nil_left_iff {xs : List α} : Fresh [] xs ↔ xs.Nodup :=
  and_iff_left fun _ _ => List.not_mem_nil

/-- An item that is added only if it is new makes no repetition. -/
theorem nodup_ite_append [DecidableEq α] {xs : List α} (h : xs.Nodup) (x : α) :
    (if x ∈ xs then xs else xs ++ [x]).Nodup := by
  split
  case isTrue => exact h
  case isFalse hx =>
    rw [List.nodup_append']
    exact ⟨h, List.nodup_singleton x, by simpa using hx⟩

/-- Items that are new after distinct others form distinct items with these. -/
theorem nodup_append_iff_fresh {seen xs : List α} :
    (seen ++ xs).Nodup ↔ seen.Nodup ∧ Fresh seen xs := by
  rw [List.nodup_append']
  refine and_congr_right fun _ => and_congr_right fun _ => ?_
  exact ⟨fun h x hx hmem => h hmem hx, fun h x hmem hx => h x hx hmem⟩

end MetricLayer
