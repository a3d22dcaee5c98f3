/-
  SapDbLib.Library.Run — RUNS OF A STATE MACHINE.

  Two kinds of machine, each with its induction packaged once:

    * **faulting machines** `step : σ → ε → Except φ (ρ × σ)`: every event
      answers with a result or ends the run with a fault.  `run_ok_iff`
      turns a one-step description ("the guard decides between an answer
      and a fault") into the exact condition for a whole run;
    * **total machines** `step : σ → ε → σ`: `Reached` is every state of a
      run, `StepOf` every step; `Reached.of_steps` carries an invariant
      along a run, and `StepOf.reached` places both ends of a step on it.
-/
import Mathlib.Data.List.Basic
import Mathlib.Data.List.Forall2
import Mathlib.Data.List.Infix

namespace SapDbLib.Library

/-! ## §1. Faulting machines. -/

section Faulting

variable {σ ε ρ φ : Type*} (step : σ → ε → Except φ (ρ × σ))

/-- Run a list of events and collect their results. -/
def run : σ → List ε → Except φ (List ρ × σ)
  | s, [] => .ok ([], s)
  | s, e :: es =>
      match step s e with
      | .error f => .error f
      | .ok (r, s') =>
          match run s' es with
          | .error f => .error f
          | .ok (rs, s'') => .ok (r :: rs, s'')

variable (Inv : σ → Prop) (Guard : ε → Prop) (Post : ε → ρ → Prop)

/-- **The run rule.**  If every guarded event keeps the invariant and answers
    inside `Post`, so does every run of guarded events. -/
theorem run_ok
    (hok : ∀ s e, Inv s → Guard e → ∃ r s', step s e = .ok (r, s') ∧ Inv s' ∧ Post e r) :
    ∀ (es : List ε) (s : σ), Inv s → (∀ e ∈ es, Guard e) →
      ∃ rs s', run step s es = .ok (rs, s') ∧ Inv s' ∧ List.Forall₂ Post es rs
  | [], s, hs, _ => ⟨[], s, rfl, hs, .nil⟩
  | e :: es, s, hs, hg => by
      obtain ⟨r, s', hstep, hs', hpost⟩ := hok s e hs (hg e (by simp))
      obtain ⟨rs, s'', hrun, hs'', hposts⟩ :=
        run_ok hok es s' hs' (fun x hx => hg x (List.mem_cons_of_mem e hx))
      exact ⟨r :: rs, s'', by simp only [run, hstep, hrun], hs'', .cons hpost hposts⟩

/-- **The exact run rule.**  If the guard decides, in every state of the
    invariant, between an answer inside `Post` and a fault, then a run answers
    throughout exactly when all its events are guarded. -/
theorem run_ok_iff
    (hok : ∀ s e, Inv s → Guard e → ∃ r s', step s e = .ok (r, s') ∧ Inv s' ∧ Post e r)
    (hfault : ∀ s e, Inv s → ¬ Guard e → ∃ f, step s e = .error f)
    (es : List ε) (s : σ) (hs : Inv s) :
    (∃ rs s', run step s es = .ok (rs, s') ∧ List.Forall₂ Post es rs) ↔ ∀ e ∈ es, Guard e := by
  constructor
  · intro hrun
    obtain ⟨rs, s', hrun, -⟩ := hrun
    induction es generalizing s rs with
    | nil => simp
    | cons e es ih =>
        -- without its guard the first event would have ended the run
        have hge : Guard e := by
          by_contra hne
          obtain ⟨f, hf⟩ := hfault s e hs hne
          simp [run, hf] at hrun
        obtain ⟨r, t, hstep, ht, -⟩ := hok s e hs hge
        simp only [run, hstep] at hrun
        split at hrun
        next => cases hrun
        next rs' s'' hrun' =>
          cases hrun
          intro x hx
          rcases List.mem_cons.mp hx with rfl | hx
          · exact hge
          · exact ih t ht rs' hrun' x hx
  · intro hg
    obtain ⟨rs, s', hrun, -, hposts⟩ := run_ok step Inv Guard Post hok es s hs hg
    exact ⟨rs, s', hrun, hposts⟩

end Faulting

/-! ## §2. Total machines. -/

section Total

variable {σ ε : Type*} (step : σ → ε → σ) (init : σ) (es : List ε)

/-- `s` is a state of the run of `es` from `init`. -/
def Reached (s : σ) : Prop := ∃ pre, pre <+: es ∧ s = pre.foldl step init

/-- The run of `es` from `init` takes the step of event `e` in state `s`. -/
def StepOf (s : σ) (e : ε) : Prop := ∃ pre, pre ++ [e] <+: es ∧ s = pre.foldl step init

variable {step init es}

/-- **The invariant rule.**  An invariant of the first state that every step
    of the run keeps holds in every state reached. -/
theorem Reached.of_steps {Inv : σ → Prop} (h0 : Inv init)
    (hstep : ∀ s e, StepOf step init es s e → Inv s → Inv (step s e)) :
    ∀ s, Reached step init es s → Inv s := by
  intro s hs
  obtain ⟨pre, hpre, rfl⟩ := hs
  -- the induction is on the events already handled, the last one first
  induction pre using List.reverseRecOn with
  | nil => exact h0
  | append_singleton pre e ih =>
      have hpre' : pre <+: es := (List.prefix_append pre [e]).trans hpre
      rw [List.foldl_append]
      exact hstep _ e ⟨pre, hpre, rfl⟩ (ih hpre')

/-- A step leads from a state reached to a state reached. -/
theorem StepOf.reached {s : σ} {e : ε} (h : StepOf step init es s e) :
    Reached step init es s ∧ Reached step init es (step s e) := by
  obtain ⟨pre, hpre, rfl⟩ := h
  exact ⟨⟨pre, (List.prefix_append pre [e]).trans hpre, rfl⟩,
    ⟨pre ++ [e], hpre, by rw [List.foldl_append]; rfl⟩⟩

end Total

end SapDbLib.Library
