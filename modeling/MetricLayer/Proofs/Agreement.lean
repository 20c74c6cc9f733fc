import MetricLayer.Proofs.Fallible

/-!
# Runs that agree

Two runs of the same steps on different data. `Agree same R x y` says that their results are related
by `R`, and that under the condition `same` they also fail alike. Agreement of a whole follows from
that of its steps (`Agree.bind`, `Agree.mapM`), so that what a run depends on is found step by step.
-/

namespace MetricLayer

variable {ε α β γ δ : Type}

/-- The results of two runs are related, and under a condition the runs fail alike. -/
structure Agree (same : Prop) (R : α → β → Prop) (x : Except ε α) (y : Except ε β) : Prop where
  /-- The results are related. -/
  ok : ∀ a b, x = .ok a → y = .ok b → R a b
  /-- Under the condition both runs give the same error, or none. -/
  error : same → ∀ e, x = .error e ↔ y = .error e

namespace Agree

variable {same : Prop} {R : α → β → Prop} {S : γ → δ → Prop}

/-- A run agrees with itself. -/
theorem refl (x : Except ε α) : Agree same Eq x x where
  ok _ _ ha hb := Except.ok.inj (ha.symm.trans hb)
  error _ _ := Iff.rfl

/-- Related results agree. -/
theorem pure {a : α} {b : β} (h : R a b) : Agree same R (.ok a : Except ε α) (.ok b) where
  ok a' b' ha hb := by rwa [← Except.ok.inj ha, ← Except.ok.inj hb]
  error _ _ := iff_of_false (by simp) (by simp)

/-- Errors agree if they are the same. -/
theorem throw {e : ε} : Agree same R (.error e) (.error e) where
  ok _ _ ha := absurd ha (by simp)
  error _ e' := by rw [Except.error.injEq, Except.error.injEq]

/-- Runs of two steps agree if both steps do. -/
theorem bind {x : Except ε α} {y : Except ε β} {f : α → Except ε γ} {g : β → Except ε δ}
    (hx : Agree same R x y) (hf : ∀ a b, R a b → Agree same S (f a) (g b)) :
    Agree same S (x >>= f) (y >>= g) where
  ok c d hc hd := by
    obtain ⟨a, ha, hc⟩ := bind_eq_ok_iff.1 hc
    obtain ⟨b, hb, hd⟩ := bind_eq_ok_iff.1 hd
    exact (hf a b (hx.ok a b ha hb)).ok c d hc hd
  error hsame e := by
    have herror := hx.error hsame
    cases x with
    | error ex =>
      rw [(herror ex).1 rfl]
      show (Except.error ex : Except ε γ) = .error e ↔ (Except.error ex : Except ε δ) = .error e
      rw [Except.error.injEq, Except.error.injEq]
    | ok a =>
      cases y with
      | error ey => exact absurd ((herror ey).2 rfl) (by simp)
      | ok b => exact (hf a b (hx.ok a b rfl rfl)).error hsame e

/-- Functions of results that agree do so if they keep the relation. -/
theorem map {x : Except ε α} {y : Except ε β} {f : α → γ} {g : β → δ} (hx : Agree same R x y)
    (hf : ∀ a b, R a b → S (f a) (g b)) : Agree same S (x.map f) (y.map g) where
  ok c d hc hd := by
    obtain ⟨a, ha, rfl⟩ := map_eq_ok_iff.1 hc
    obtain ⟨b, hb, rfl⟩ := map_eq_ok_iff.1 hd
    exact hf a b (hx.ok a b ha hb)
  error hsame e := map_eq_error_iff.trans ((hx.error hsame e).trans map_eq_error_iff.symm)

/-- Runs for each item of two lists agree if they do item by item. -/
theorem mapM {T : γ → δ → Prop} {f : γ → Except ε α} {g : δ → Except ε β} {xs : List γ}
    {ys : List δ} (h : List.Forall₂ T xs ys) (hf : ∀ x y, T x y → Agree same R (f x) (g y)) :
    Agree same (List.Forall₂ R) (xs.mapM f) (ys.mapM g) := by
  induction h with
  | nil => exact pure .nil
  | cons hxy _ ih =>
    rw [List.mapM_cons, List.mapM_cons]
    exact (hf _ _ hxy).bind fun a b hab => ih.bind fun as bs habs => pure (.cons hab habs)

/-- Under the condition, one of two runs that agree gives a result just if the other does. -/
theorem exists_ok_iff {x : Except ε α} {y : Except ε β} (h : Agree same R x y) (hsame : same) :
    (∃ a, x = .ok a) ↔ ∃ b, y = .ok b := by
  have herror := h.error hsame
  cases x with
  | error e => rw [(herror e).1 rfl]; simp
  | ok a =>
    cases y with
    | error e => exact absurd ((herror e).2 rfl) (by simp)
    | ok b => exact iff_of_true ⟨a, rfl⟩ ⟨b, rfl⟩

end Agree

end MetricLayer
