import Mathlib.Data.List.Nodup
import MetricLayer.Compile.CompiledQuery

/-!
# First occurrences

The items of a list without repetitions, each at its first occurrence (`FirstOccurrences`). They are
what `distinctFrom` keeps: `firstOccurrences_distinctFrom`.
-/

namespace MetricLayer

variable {α β : Type}

/-- The keys are the items of a list, each once, in the order in which they first occur there. -/
structure FirstOccurrences (keys xs : List α) : Prop where
  /-- The keys are the items of the list. -/
  mem_iff : ∀ x, x ∈ keys ↔ x ∈ xs
  /-- No key is repeated. -/
  nodup : keys.Nodup
  /-- A key occurs in the list before the first occurrence of each key that follows it. -/
  ordered : keys.Pairwise fun x y => ∃ before after, xs = before ++ x :: after ∧ y ∉ before

/-- Items that are known by their images have their first occurrences where these have. -/
theorem FirstOccurrences.map {keys xs : List α} (h : FirstOccurrences keys xs) {f : α → β}
    (hf : Function.Injective f) : FirstOccurrences (keys.map f) (xs.map f) where
  mem_iff y := by simp only [List.mem_map, h.mem_iff]
  nodup := h.nodup.map hf
  ordered := by
    rw [List.pairwise_map]
    refine h.ordered.imp fun {x y} ⟨before, after, hxs, hy⟩ => ?_
    refine ⟨before.map f, after.map f, ?_, ?_⟩
    · rw [hxs, List.map_append, List.map_cons]
    · rwa [List.mem_map_of_injective hf]

/-- There is only one list of first occurrences, up to order, for all lists of the same items. -/
theorem FirstOccurrences.perm {keys keys' xs xs' : List α} (h : FirstOccurrences keys xs)
    (h' : FirstOccurrences keys' xs') (hxs : ∀ x, x ∈ xs ↔ x ∈ xs') : keys.Perm keys' := by
  rw [List.perm_ext_iff_of_nodup h.nodup h'.nodup]
  intro x
  rw [h.mem_iff, h'.mem_iff, hxs]

/-- Items that repeat earlier ones add no first occurrence. -/
theorem FirstOccurrences.of_append {keys xs ys : List α} (h : FirstOccurrences keys (xs ++ ys))
    (hys : ∀ y ∈ ys, y ∈ xs) : FirstOccurrences keys xs := by
  have hmem : ∀ x, x ∈ keys ↔ x ∈ xs := by
    intro x
    rw [h.mem_iff, List.mem_append]
    exact ⟨fun hx => hx.elim id (hys x), .inl⟩
  refine ⟨hmem, h.nodup, h.ordered.imp_of_mem fun {x y} _ hy ⟨before, after, hxs, hbefore⟩ => ?_⟩
  -- The key that follows occurs in the first list, which therefore does not end before the first
  -- occurrence of the other.
  have hlater : xs ≠ before ∧ ∀ zs, before ≠ xs ++ zs := by
    refine ⟨?_, ?_⟩
    · rintro rfl
      exact hbefore ((hmem y).1 hy)
    · rintro zs rfl
      exact hbefore (List.mem_append_left zs ((hmem y).1 hy))
  rcases List.append_eq_append_iff.1 hxs with ⟨zs, hzs, -⟩ | ⟨zs, hzs, hafter⟩
  · exact absurd hzs (hlater.2 zs)
  · cases zs with
    | nil => exact absurd (hzs.trans (List.append_nil before)) hlater.1
    | cons z zs =>
      obtain ⟨rfl, -⟩ := List.cons.inj hafter
      exact ⟨before, zs, hzs, hbefore⟩

/-! ## Items without repetitions -/

variable [DecidableEq α]

/-- The items that are kept are those that have not been seen. -/
theorem mem_distinctFrom_iff {seen xs : List α} {x : α} :
    x ∈ distinctFrom seen xs ↔ x ∈ xs ∧ x ∉ seen := by
  induction xs generalizing seen with
  | nil => simp [distinctFrom]
  | cons y ys ih =>
    rw [distinctFrom, List.mem_cons]
    split
    case isTrue hy =>
      rw [ih]
      refine ⟨fun ⟨hx, hnew⟩ => ⟨.inr hx, hnew⟩, fun ⟨hx, hnew⟩ => ⟨hx.resolve_left ?_, hnew⟩⟩
      rintro rfl
      exact hnew hy
    case isFalse hy =>
      rw [List.mem_cons, ih, List.mem_cons]
      by_cases hxy : x = y
      · simp [hxy, hy]
      · simp [hxy]

/-- No item is kept twice. -/
theorem nodup_distinctFrom (seen xs : List α) : (distinctFrom seen xs).Nodup := by
  induction xs generalizing seen with
  | nil => exact List.nodup_nil
  | cons y ys ih =>
    rw [distinctFrom]
    split
    · exact ih seen
    · refine List.nodup_cons.2 ⟨fun hy => ?_, ih (y :: seen)⟩
      exact (mem_distinctFrom_iff.1 hy).2 List.mem_cons_self

/-- Items are kept in the order in which they first occur. -/
theorem pairwise_distinctFrom (seen xs : List α) :
    (distinctFrom seen xs).Pairwise fun x y =>
      ∃ before after, xs = before ++ x :: after ∧ y ∉ before := by
  induction xs generalizing seen with
  | nil => exact .nil
  | cons z zs ih =>
    -- What stands before an item among the others stands there after the first, which is no item
    -- that is kept later.
    have hlater : ∀ seen, z ∈ seen → (distinctFrom seen zs).Pairwise fun x y =>
        ∃ before after, z :: zs = before ++ x :: after ∧ y ∉ before := by
      intro seen hz
      refine (ih seen).imp_of_mem fun {x y} _ hy ⟨before, after, hzs, hbefore⟩ => ?_
      refine ⟨z :: before, after, by rw [hzs, List.cons_append], ?_⟩
      rw [List.mem_cons, not_or]
      exact ⟨fun hyz => (mem_distinctFrom_iff.1 hy).2 (hyz ▸ hz), hbefore⟩
    rw [distinctFrom]
    split
    case isTrue hz => exact hlater seen hz
    case isFalse =>
      refine .cons (fun y _ => ⟨[], zs, rfl, List.not_mem_nil⟩) ?_
      exact hlater (z :: seen) List.mem_cons_self

/-- Items without repetitions are the first occurrences of the items. -/
theorem firstOccurrences_distinctFrom (xs : List α) : FirstOccurrences (distinctFrom [] xs) xs where
  mem_iff x := by rw [mem_distinctFrom_iff, and_iff_left List.not_mem_nil]
  nodup := nodup_distinctFrom [] xs
  ordered := pairwise_distinctFrom [] xs

end MetricLayer
