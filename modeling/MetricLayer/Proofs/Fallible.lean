import MetricLayer.Proofs.Items

/-!
# Steps that may fail

When steps in sequence give a result, and when they give an error. `bind_eq_ok_iff` and
`mapM_eq_ok_iff` take a result apart into the results of its steps. `FailsWith` finds the error of a
whole, that of the first step that has one, and `FailsOnlyWith` bounds the errors of a whole by
those of its steps.
-/

namespace MetricLayer

variable {ε α β : Type}

/-- Two steps give a result if the first gives one from which the second does. -/
theorem bind_eq_ok_iff {x : Except ε α} {f : α → Except ε β} {b : β} :
    x >>= f = .ok b ↔ ∃ a, x = .ok a ∧ f a = .ok b := by
  cases x with
  | error e => simp [bind, Except.bind]
  | ok a => simp [bind, Except.bind]

/-- Two steps give an error if the first does, or the second from the result of the first. -/
theorem bind_eq_error_iff {x : Except ε α} {f : α → Except ε β} {e : ε} :
    x >>= f = .error e ↔ x = .error e ∨ ∃ a, x = .ok a ∧ f a = .error e := by
  cases x with
  | error e' => simp [bind, Except.bind]
  | ok a => simp [bind, Except.bind]

/-- A step that is found not to fail gives a result. -/
theorem exists_ok_of_toBool {x : Except ε α} (h : x.toBool = true) : ∃ a, x = .ok a := by
  cases x with
  | error e => exact absurd h (by simp [Except.toBool])
  | ok a => exact ⟨a, rfl⟩

/-- A function of a result is a result if the step gives one. -/
theorem map_eq_ok_iff {x : Except ε α} {f : α → β} {b : β} :
    x.map f = .ok b ↔ ∃ a, x = .ok a ∧ f a = b := by
  cases x with
  | error e => simp [Except.map]
  | ok a => simp [Except.map]

/-- A function of a result has a value just if the step gives a result. -/
theorem exists_map_eq_ok_iff {x : Except ε α} {f : α → β} :
    (∃ b, x.map f = .ok b) ↔ ∃ a, x = .ok a := by
  constructor
  · rintro ⟨b, h⟩
    obtain ⟨a, ha, -⟩ := map_eq_ok_iff.1 h
    exact ⟨a, ha⟩
  · rintro ⟨a, ha⟩
    exact ⟨f a, map_eq_ok_iff.2 ⟨a, ha, rfl⟩⟩

/-- A function of a result keeps the errors of the step. -/
theorem map_eq_error_iff {x : Except ε α} {f : α → β} {e : ε} :
    x.map f = .error e ↔ x = .error e := by
  cases x with
  | error e' => simp [Except.map]
  | ok a => simp [Except.map]

/-- A step for each item gives the results of the steps, item by item. -/
theorem mapM_eq_ok_iff {f : α → Except ε β} {xs : List α} {ys : List β} :
    xs.mapM f = .ok ys ↔ List.Forall₂ (fun x y => f x = .ok y) xs ys := by
  induction xs generalizing ys with
  | nil =>
    rw [List.mapM_nil, List.forall₂_nil_left_iff]
    simp [pure, Except.pure, eq_comm]
  | cons x xs ih =>
    rw [List.mapM_cons, bind_eq_ok_iff, List.forall₂_cons_left_iff]
    constructor
    · rintro ⟨y, hy, h⟩
      obtain ⟨ys', hys, h⟩ := bind_eq_ok_iff.1 h
      exact ⟨y, ys', hy, ih.1 hys, (Except.ok.inj h).symm⟩
    · rintro ⟨y, ys', hy, hys, rfl⟩
      exact ⟨y, hy, bind_eq_ok_iff.2 ⟨ys', ih.2 hys, rfl⟩⟩

/-- Checks of all items pass if each check does. -/
theorem forM_eq_ok_iff {f : α → Except ε Unit} {xs : List α} {u : Unit} :
    xs.forM f = .ok u ↔ ∀ x ∈ xs, f x = .ok () := by
  induction xs with
  | nil => simp [pure, Except.pure]
  | cons x xs ih =>
    rw [List.forM_eq_forM, List.forM_cons, bind_eq_ok_iff, List.forall_mem_cons]
    rw [List.forM_eq_forM] at ih
    exact ⟨fun ⟨_, hx, hxs⟩ => ⟨hx, ih.1 hxs⟩, fun ⟨hx, hxs⟩ => ⟨(), hx, ih.2 hxs⟩⟩

/-! ## The error of a whole -/

/-- A step gives the error `o` if there is one, and a result if there is none. -/
def FailsWith (o : Option ε) (x : Except ε α) : Prop :=
  ∀ e, x = .error e ↔ o = some e

namespace FailsWith

variable {o o' : Option ε}

/-- A result is no error. -/
theorem ok (a : α) : FailsWith none (.ok a : Except ε α) :=
  fun _ => iff_of_false (by simp) (by simp)

/-- An error is that error. -/
theorem error (e : ε) : FailsWith (some e) (.error e : Except ε α) := by
  intro e'
  rw [Except.error.injEq, Option.some.injEq]

/-- A step with a result has no error. -/
theorem eq_none {a : α} (h : FailsWith o (.ok a : Except ε α)) : o = none := by
  cases o with
  | none => rfl
  | some e => exact absurd ((h e).2 rfl) (by simp)

/-- A step gives a result if it has no error. -/
theorem exists_ok_iff {x : Except ε α} (h : FailsWith o x) : (∃ a, x = .ok a) ↔ o = none := by
  constructor
  · rintro ⟨a, rfl⟩
    exact h.eq_none
  · rintro rfl
    cases x with
    | error e => exact absurd ((h e).1 rfl) (by simp)
    | ok a => exact ⟨a, rfl⟩

/-- Two steps give the error of the first, or else that of the second. -/
theorem bind {x : Except ε α} {f : α → Except ε β} (hx : FailsWith o x)
    (hf : ∀ a, x = .ok a → FailsWith o' (f a)) : FailsWith (o.or o') (x >>= f) := by
  cases x with
  | error e =>
    rw [(hx e).1 rfl]
    exact error e
  | ok a =>
    rw [hx.eq_none]
    exact hf a rfl

/-- A function of a result keeps the error of the step. -/
theorem map {x : Except ε α} {f : α → β} (hx : FailsWith o x) : FailsWith o (x.map f) :=
  fun e => map_eq_error_iff.trans (hx e)

/-- A step for each item gives the error of the first that has one. -/
theorem mapM {err : α → Option ε} {f : α → Except ε β} (hf : ∀ x, FailsWith (err x) (f x))
    (xs : List α) : FailsWith (xs.findSome? err) (xs.mapM f) := by
  induction xs with
  | nil => exact ok []
  | cons x xs ih =>
    rw [List.mapM_cons, List.findSome?_cons]
    cases hx : err x with
    | none =>
      have hbind := (hf x).bind fun y _ => ih.bind fun ys _ => ok (y :: ys)
      rwa [hx, Option.none_or, Option.or_none] at hbind
    | some e =>
      rw [((hf x) e).2 hx]
      exact error e

/-- A check of each item gives the error of the first that has one. -/
theorem forM {err : α → Option ε} {f : α → Except ε Unit} (hf : ∀ x, FailsWith (err x) (f x))
    (xs : List α) : FailsWith (xs.findSome? err) (xs.forM f) := by
  induction xs with
  | nil => exact ok ()
  | cons x xs ih =>
    rw [List.forM_eq_forM, List.forM_cons, List.findSome?_cons]
    rw [List.forM_eq_forM] at ih
    cases hx : err x with
    | none =>
      have hbind := (hf x).bind fun _ _ => ih
      rwa [hx, Option.none_or] at hbind
    | some e =>
      rw [((hf x) e).2 hx]
      exact error e

end FailsWith

/-! ## Bounds on errors -/

/-- Every error that a step can give satisfies `P`. -/
def FailsOnlyWith (P : ε → Prop) (x : Except ε α) : Prop :=
  ∀ e, x = .error e → P e

namespace FailsOnlyWith

variable {P : ε → Prop}

/-- A result is no error. -/
theorem ok (a : α) : FailsOnlyWith P (.ok a : Except ε α) := by
  intro e h
  exact absurd h (by simp)

/-- An error is bounded if it satisfies the bound. -/
theorem error {e : ε} (h : P e) : FailsOnlyWith P (.error e : Except ε α) := by
  intro e' he
  rwa [← Except.error.inj he]

/-- A bound on errors can be widened. -/
theorem imp {Q : ε → Prop} {x : Except ε α} (hx : FailsOnlyWith P x) (h : ∀ e, P e → Q e) :
    FailsOnlyWith Q x := by
  intro e he
  exact h e (hx e he)

/-- The errors of two steps are those of the first and those of the second. -/
theorem bind {x : Except ε α} {f : α → Except ε β} (hx : FailsOnlyWith P x)
    (hf : ∀ a, x = .ok a → FailsOnlyWith P (f a)) : FailsOnlyWith P (x >>= f) := by
  intro e h
  rcases bind_eq_error_iff.1 h with he | ⟨a, ha, he⟩
  · exact hx e he
  · exact hf a ha e he

/-- A function of a result adds no error. -/
theorem map {x : Except ε α} {f : α → β} (hx : FailsOnlyWith P x) : FailsOnlyWith P (x.map f) := by
  intro e h
  exact hx e (map_eq_error_iff.1 h)

/-- The errors of a step for each item are those of the steps. -/
theorem mapM {f : α → Except ε β} {xs : List α} (hf : ∀ x ∈ xs, FailsOnlyWith P (f x)) :
    FailsOnlyWith P (xs.mapM f) := by
  induction xs with
  | nil => exact ok []
  | cons x xs ih =>
    rw [List.mapM_cons]
    refine (hf x List.mem_cons_self).bind fun y _ => ?_
    exact (ih fun x hx => hf x (List.mem_cons_of_mem _ hx)).bind fun ys _ => ok _

end FailsOnlyWith

end MetricLayer
