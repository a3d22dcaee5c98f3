/-
  SapDbLib.Library.Effects — EFFECTS THAT SURVIVE AN EXCEPTION.

  Code that may throw and writes variables of its caller: what was written
  before the exception stays written.  As a monad this is an exception
  transformer over a state, so that a run ends with a result or an exception
  **and** a state.

    * `runFrom_bind` — what a sequence does: the rest runs on the state its
      head leaves, and an exception skips the rest but not the state;
    * `runFrom_read_ok`, `runFrom_read_error`, `runFrom_modify` — the rule of
      each kind of statement.
-/
import Mathlib.Init

namespace SapDbLib.Library

/-- Computations with exceptions in `ε` and effects on `σ`. -/
abbrev Effects (ε σ : Type) := ExceptT ε (StateM σ)

namespace Effects

variable {ε σ α β : Type}

/-- A run from a given state. -/
def runFrom (x : Effects ε σ α) (s : σ) : Except ε α × σ := Id.run (StateT.run (ExceptT.run x) s)

/-- **What a sequence does.** -/
theorem runFrom_bind (x : Effects ε σ α) (f : α → Effects ε σ β) (s : σ) :
    runFrom (x >>= f) s = match runFrom x s with
      | (.ok a, s') => runFrom (f a) s'
      | (.error e, s') => (.error e, s') := by
  show Id.run (StateT.run (ExceptT.bindCont f (StateT.run (ExceptT.run x) s).1)
    (StateT.run (ExceptT.run x) s).2) = _
  unfold runFrom
  obtain ⟨r, s'⟩ := StateT.run (ExceptT.run x) s
  cases r with
  | ok a => rfl
  | error e => rfl

section Read

variable {x : Except ε α} (f : α → Effects ε σ β) (s : σ)

/-- A read that succeeds is its value. -/
theorem runFrom_read_ok {a : α} (h : x = .ok a) :
    runFrom (do let a ← (liftM x : Effects ε σ α); f a) s = runFrom (f a) s := by
  rw [h, runFrom_bind]
  rfl

/-- A read that throws ends the run and leaves the state as it is then. -/
theorem runFrom_read_error {e : ε} (h : x = .error e) :
    runFrom (do let a ← (liftM x : Effects ε σ α); f a) s = (.error e, s) := by
  rw [h, runFrom_bind]
  rfl

end Read

/-- A write is seen by what follows. -/
theorem runFrom_modify (g : σ → σ) (rest : Effects ε σ β) (s : σ) :
    runFrom (do modify g; rest) s = runFrom rest (g s) := by
  rw [runFrom_bind]
  rfl

end Effects

end SapDbLib.Library
