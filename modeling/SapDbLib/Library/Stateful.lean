/-
  SapDbLib.Library.Stateful — COMPUTATIONS THAT PASS A STATE ON OR FAIL.

  Readers with a position and writers with a buffer: a successful run ends
  with a result and a state, a failed one with an error only.

    * `Runs x s a s'` — `x` succeeds from `s` with `a` and leaves `s'`;
    * `runs_bind`, `runs_pure`, `runs_get`, `runs_set`, `runs_throw` — the
      rule of each kind of step, as an equivalence, so that a run can be put
      together as well as taken apart;
    * `Avoids` — a computation does not end with a given error;
    * `Extends` — a computation agrees with another wherever that one avoids
      the error: what a deeper recursion does to a bounded one;
    * `Alike` — two computations do the same from states that a relation
      holds of, and leave such states.
-/
import Mathlib.Init

namespace SapDbLib.Library

/-! ## §1. Runs. -/

/-- Computations over a state in `σ` that may fail with an `ε`. -/
abbrev Stateful (ε σ : Type) := StateT σ (Except ε)

/-- A sequence of computations without a state succeeds when its parts do. -/
theorem bind_eq_ok {ε α β : Type} {x : Except ε α} {f : α → Except ε β} {b : β} :
    (x >>= f) = .ok b ↔ ∃ a, x = .ok a ∧ f a = .ok b := by
  cases x with
  | error e => simp [bind, Except.bind]
  | ok a => simp [bind, Except.bind]

section Runs

variable {ε σ α β : Type} {x : Stateful ε σ α} {f : α → Stateful ε σ β} {s s' s'' : σ}
  {a : α} {b : β}

/-- A successful run. -/
def Runs (x : Stateful ε σ α) (s : σ) (a : α) (s' : σ) : Prop := x s = .ok (a, s')

/-- A run has one result. -/
theorem Runs.unique {a' : α} (h : Runs x s a s') (h' : Runs x s a' s'') : a = a' ∧ s' = s'' := by
  unfold Runs at h h'
  rw [h] at h'
  cases h'
  exact ⟨rfl, rfl⟩

theorem runs_pure {a' : α} : Runs (pure a : Stateful ε σ α) s a' s' ↔ a = a' ∧ s = s' := by
  show Except.ok (a, s) = Except.ok (a', s') ↔ _
  rw [Except.ok.injEq, Prod.mk.injEq]

theorem bind_apply (x : Stateful ε σ α) (f : α → Stateful ε σ β) (s : σ) :
    (x >>= f) s = match x s with
      | .ok (a, s') => f a s'
      | .error e => .error e := by
  show Except.bind (x s) _ = _
  cases x s <;> rfl

/-- **A sequence runs when its parts do**, one from the state the other
    leaves. -/
theorem runs_bind : Runs (x >>= f) s b s'' ↔ ∃ a s', Runs x s a s' ∧ Runs (f a) s' b s'' := by
  unfold Runs
  rw [bind_apply]
  cases x s with
  | error e => simp
  | ok r =>
      constructor
      · intro h
        exact ⟨r.1, r.2, rfl, h⟩
      · intro h
        obtain ⟨a, s', hr, hf⟩ := h
        cases hr
        exact hf

theorem Runs.bind (hx : Runs x s a s') (hf : Runs (f a) s' b s'') : Runs (x >>= f) s b s'' :=
  runs_bind.mpr ⟨a, s', hx, hf⟩

theorem runs_get {r : σ} : Runs (get : Stateful ε σ σ) s r s' ↔ s = r ∧ s = s' := by
  show Except.ok (s, s) = Except.ok (r, s') ↔ _
  rw [Except.ok.injEq, Prod.mk.injEq]

theorem runs_set {t : σ} {u : PUnit} :
    Runs (set t : Stateful ε σ PUnit) s u s' ↔ t = s' := by
  show Except.ok (PUnit.unit, t) = Except.ok (u, s') ↔ _
  rw [Except.ok.injEq, Prod.mk.injEq]
  exact and_iff_right rfl

/-- Looking at the state goes on from it. -/
theorem runs_get_bind {g : σ → Stateful ε σ β} :
    Runs (do let r ← get; g r) s b s'' ↔ Runs (g s) s b s'' := by
  rw [runs_bind]
  constructor
  · intro h
    obtain ⟨r, t, hr, h⟩ := h
    obtain ⟨rfl, rfl⟩ := runs_get.mp hr
    exact h
  · intro h
    exact ⟨s, s, runs_get.mpr ⟨rfl, rfl⟩, h⟩

/-- Setting the state goes on from the new one. -/
theorem runs_set_bind {t : σ} {y : Stateful ε σ β} :
    Runs (do set t; y) s b s'' ↔ Runs y t b s'' := by
  rw [runs_bind]
  constructor
  · intro h
    obtain ⟨u, t', ht, h⟩ := h
    rw [runs_set] at ht
    rw [ht]
    exact h
  · intro h
    exact ⟨⟨⟩, t, runs_set.mpr rfl, h⟩

theorem runs_throw {e : ε} : ¬ Runs (throw e : Stateful ε σ α) s a s' := by
  intro h
  cases h

/-- A choice runs as the branch taken. -/
theorem runs_ite {c : Prop} [Decidable c] {y : Stateful ε σ α} :
    Runs (if c then x else y) s a s' ↔ if c then Runs x s a s' else Runs y s a s' := by
  split <;> rfl

/-- A check that fails. -/
theorem runs_unless {c : Prop} [Decidable c] {e : ε} :
    Runs (if c then throw e else x) s a s' ↔ ¬ c ∧ Runs x s a s' := by
  by_cases hc : c
  · rw [if_pos hc]
    exact ⟨fun h => absurd h runs_throw, fun h => absurd hc h.1⟩
  · rw [if_neg hc]
    exact ⟨fun h => ⟨hc, h⟩, fun h => h.2⟩

/-- A computation that needs no state. -/
theorem runs_lift {r : Except ε α} :
    Runs (liftM r : Stateful ε σ α) s a s' ↔ r = .ok a ∧ s = s' := by
  show Except.bind r _ = _ ↔ _
  cases r with
  | error e => simp [Except.bind]
  | ok b =>
      show Except.ok (b, s) = Except.ok (a, s') ↔ _
      rw [Except.ok.injEq, Prod.mk.injEq, Except.ok.injEq]

end Runs

/-! ## §2. Errors that do not occur. -/

section Errors

variable {ε σ α β : Type} {e : ε} {x y z : Stateful ε σ α} {f g : α → Stateful ε σ β} {s s' : σ}

/-- `x` does not end with `e` from `s`. -/
def Avoids (e : ε) (x : Stateful ε σ α) (s : σ) : Prop := x s ≠ .error e

theorem Runs.avoids {a : α} (h : Runs x s a s') : Avoids e x s := by
  unfold Runs at h
  rw [Avoids, h]
  intro he
  cases he

theorem avoids_pure (a : α) : Avoids e (pure a : Stateful ε σ α) s := fun h => by cases h

theorem avoids_throw {e' : ε} (h : e' ≠ e) : Avoids e (throw e' : Stateful ε σ α) s := by
  intro hthrow
  cases hthrow
  exact h rfl

/-- **A sequence avoids an error** when its first part does, and its second
    wherever the first leads. -/
theorem avoids_bind (hx : Avoids e x s) (hf : ∀ a s', Runs x s a s' → Avoids e (f a) s') :
    Avoids e (x >>= f) s := by
  rw [Avoids, bind_apply]
  unfold Avoids at hx
  cases h : x s with
  | error e' =>
      intro he
      cases he
      exact hx h
  | ok r => exact hf r.1 r.2 h

theorem avoids_get_bind {k : σ → Stateful ε σ β} (h : Avoids e (k s) s) :
    Avoids e (do let r ← get; k r) s := h

theorem avoids_set_bind {t : σ} {k : Stateful ε σ β} (h : Avoids e k t) :
    Avoids e (do set t; k) s := h

theorem avoids_set {t : σ} : Avoids e (set t : Stateful ε σ PUnit) s := fun h => by cases h

/-- `y` agrees with `x` wherever `x` avoids `e`. -/
def Extends (e : ε) (x y : Stateful ε σ α) : Prop := ∀ s, Avoids e x s → y s = x s

theorem Extends.refl (e : ε) (x : Stateful ε σ α) : Extends e x x := fun _ _ => rfl

theorem Extends.trans (hxy : Extends e x y) (hyz : Extends e y z) : Extends e x z := by
  intro s hx
  have heq := hxy s hx
  have hy : Avoids e y s := by
    rw [Avoids, heq]
    exact hx
  rw [hyz s hy, heq]

/-- A computation that fails with `e` is extended by any. -/
theorem extends_throw : Extends e (throw e : Stateful ε σ α) x := fun _ h => absurd rfl h

/-- **Sequences extend part by part.** -/
theorem Extends.bind (hx : Extends e x y) (hf : ∀ a, Extends e (f a) (g a)) :
    Extends e (x >>= f) (y >>= g) := by
  intro s h
  have hfirst : Avoids e x s := by
    intro he
    apply h
    rw [bind_apply, he]
  rw [bind_apply, bind_apply, hx s hfirst]
  rw [Avoids, bind_apply] at h
  cases hrun : x s with
  | error e' => rfl
  | ok r =>
      rw [hrun] at h
      exact hf r.1 r.2 h

theorem Extends.ite {c : Prop} [Decidable c] {x' y' : Stateful ε σ α} (h : Extends e x y)
    (h' : Extends e x' y') : Extends e (if c then x else x') (if c then y else y') := by
  by_cases hc : c
  · rw [if_pos hc, if_pos hc]
    exact h
  · rw [if_neg hc, if_neg hc]
    exact h'

theorem Extends.runs {a : α} (hxy : Extends e x y) (h : Runs x s a s') : Runs y s a s' := by
  unfold Runs
  rw [hxy s h.avoids]
  exact h

end Errors

/-! ## §3. Computations that do the same. -/

section Alike

variable {ε σ τ α β : Type} {R : σ → τ → Prop} {x : Stateful ε σ α} {y : Stateful ε τ α}
  {f : α → Stateful ε σ β} {g : α → Stateful ε τ β}

/-- From states that `R` relates, both fail with one error, or both give one
    result and leave states that `R` relates. -/
def Alike (R : σ → τ → Prop) (x : Stateful ε σ α) (y : Stateful ε τ α) : Prop :=
  ∀ s t, R s t → (∃ e, x s = .error e ∧ y t = .error e)
    ∨ ∃ a s' t', x s = .ok (a, s') ∧ y t = .ok (a, t') ∧ R s' t'

theorem alike_pure (a : α) :
    Alike R (pure a : Stateful ε σ α) (pure a : Stateful ε τ α) :=
  fun s t hst => Or.inr ⟨a, s, t, rfl, rfl, hst⟩

theorem alike_throw (e : ε) :
    Alike R (throw e : Stateful ε σ α) (throw e : Stateful ε τ α) :=
  fun _ _ _ => Or.inl ⟨e, rfl, rfl⟩

/-- **Sequences do the same** when their parts do. -/
theorem Alike.bind (hx : Alike R x y) (hf : ∀ a, Alike R (f a) (g a)) :
    Alike R (x >>= f) (y >>= g) := by
  intro s t hst
  rw [bind_apply, bind_apply]
  rcases hx s t hst with ⟨e, hs, ht⟩ | ⟨a, s', t', hs, ht, hst'⟩
  · rw [hs, ht]
    exact Or.inl ⟨e, rfl, rfl⟩
  · rw [hs, ht]
    exact hf a s' t' hst'

theorem Alike.ite {c : Prop} [Decidable c] {x' : Stateful ε σ α} {y' : Stateful ε τ α}
    (h : Alike R x y) (h' : Alike R x' y') :
    Alike R (if c then x else x') (if c then y else y') := by
  by_cases hc : c
  · rw [if_pos hc, if_pos hc]
    exact h
  · rw [if_neg hc, if_neg hc]
    exact h'

end Alike

end SapDbLib.Library
