/-
  SapDbLib.Library.Correlation — REQUESTS AND THE ANSWERS THAT NAME THEM.

  A table of outstanding requests.  A request is entered under a key; an
  answer names a key, takes the request under it out of the table and is its
  answer.  An answer that names no outstanding request is dropped, and a
  request that is entered under a key in use puts the old one out.

    * `firstAnswer` — the first answer that names a key, up to the next
      request under that key;
    * `answers_run` — **what a request gets** is the first answer behind it;
    * `Table.Sound.step` — **no request is answered twice**, if every request
      is entered once.
-/
import Mathlib.Logic.Function.Basic
import Mathlib.Tactic.SplitIfs

namespace SapDbLib.Library.Correlation

variable {κ ι α : Type} [DecidableEq κ] [DecidableEq ι]

/-! ## §1. The table. -/

/-- What happens to the table. -/
inductive Event (κ ι α : Type) where
  | enter (key : κ) (request : ι)
  | answer (key : κ) (a : α)

/-- The outstanding requests, and the answers so far. -/
structure Table (κ ι α : Type) where
  outstanding : κ → Option ι
  answers : ι → Option α

/-- Nothing was entered yet. -/
def Table.empty : Table κ ι α := { outstanding := fun _ => none, answers := fun _ => none }

namespace Table

/-- One event. -/
def step (t : Table κ ι α) : Event κ ι α → Table κ ι α
  | .enter k i => { t with outstanding := Function.update t.outstanding k (some i) }
  | .answer k a =>
      match t.outstanding k with
      | none => t
      | some i =>
          { outstanding := Function.update t.outstanding k none
            answers := Function.update t.answers i (some a) }

/-- A run. -/
def run (t : Table κ ι α) (es : List (Event κ ι α)) : Table κ ι α := es.foldl step t

theorem run_append (t : Table κ ι α) (es fs : List (Event κ ι α)) :
    t.run (es ++ fs) = (t.run es).run fs := List.foldl_append

@[simp] theorem outstanding_enter (t : Table κ ι α) (k : κ) (i : ι) (k' : κ) :
    (t.step (.enter k i)).outstanding k' = if k' = k then some i else t.outstanding k' :=
  Function.update_apply _ _ _ _

@[simp] theorem outstanding_answer (t : Table κ ι α) (k : κ) (a : α) (k' : κ) :
    (t.step (.answer k a)).outstanding k' = if k' = k then none else t.outstanding k' := by
  rw [step]
  cases h : t.outstanding k with
  | none =>
      dsimp only
      split_ifs with hk
      · rw [hk, h]
      · rfl
  | some i => exact Function.update_apply _ _ _ _

@[simp] theorem answers_answer (t : Table κ ι α) (k : κ) (a : α) (i : ι) :
    (t.step (.answer k a)).answers i = if t.outstanding k = some i then some a else t.answers i := by
  rw [step]
  cases h : t.outstanding k with
  | none => simp
  | some j =>
      dsimp only
      simp only [Function.update_apply, Option.some.injEq]
      by_cases hj : i = j
      · rw [if_pos hj, if_pos hj.symm]
      · rw [if_neg hj, if_neg (Ne.symm hj)]

end Table

/-- The first answer that names the key, up to the next request under it. -/
def firstAnswer (key : κ) : List (Event κ ι α) → Option α
  | [] => none
  | .enter k _ :: es => if k = key then none else firstAnswer key es
  | .answer k a :: es => if k = key then some a else firstAnswer key es

/-! ## §2. What a request gets. -/

/-- The request is under no key. -/
def Table.Absent (t : Table κ ι α) (i : ι) : Prop := ∀ k, t.outstanding k ≠ some i

/-- The request is under that key, and under no other. -/
def Table.Under (t : Table κ ι α) (i : ι) (key : κ) : Prop :=
  t.outstanding key = some i ∧ ∀ k, t.outstanding k = some i → k = key

section Run

variable {t : Table κ ι α} {i : ι} {key : κ} {es : List (Event κ ι α)}

/-- Out of the table, a request stays out until it is entered. -/
theorem Table.Absent.step (h : t.Absent i) {e : Event κ ι α} (he : ∀ k, e ≠ .enter k i) :
    (t.step e).Absent i ∧ (t.step e).answers i = t.answers i := by
  unfold Table.Absent at h ⊢
  cases e with
  | enter k j =>
      refine ⟨?_, rfl⟩
      intro k'
      rw [Table.outstanding_enter]
      split_ifs
      · intro hj
        exact he k (by rw [Option.some.inj hj])
      · exact h k'
  | answer k a =>
      refine ⟨?_, ?_⟩
      · intro k'
        rw [Table.outstanding_answer]
        split_ifs
        · simp
        · exact h k'
      · rw [Table.answers_answer, if_neg (h k)]

theorem Table.Absent.run (h : t.Absent i) (hes : ∀ k, Event.enter k i ∉ es) :
    (t.run es).Absent i ∧ (t.run es).answers i = t.answers i := by
  induction es generalizing t with
  | nil => exact ⟨h, rfl⟩
  | cons e es ih =>
      obtain ⟨habsent, hanswer⟩ := h.step (e := e) fun k hk => hes k (by simp [hk])
      have hrest := ih habsent fun k hk => hes k (List.mem_cons_of_mem _ hk)
      rw [← hanswer]
      exact hrest

/-- A request under a key is put out by another one under it, and stays under
    it when one is entered elsewhere. -/
theorem Table.Under.enter (h : t.Under i key) {k : κ} {j : ι} (hj : j ≠ i) :
    if k = key then (t.step (.enter k j)).Absent i else (t.step (.enter k j)).Under i key := by
  obtain ⟨hin, honly⟩ := h
  split_ifs with hk
  · intro k'
    rw [Table.outstanding_enter]
    split_ifs with hk'
    · exact fun heq => hj (Option.some.inj heq)
    · exact fun heq => hk' ((honly k' heq).trans hk.symm)
  · refine ⟨?_, ?_⟩
    · rw [Table.outstanding_enter, if_neg (Ne.symm hk)]
      exact hin
    · intro k' heq
      rw [Table.outstanding_enter] at heq
      split_ifs at heq with hk'
      · exact absurd (Option.some.inj heq) hj
      · exact honly k' heq

/-- An answer that names the key takes the request out. -/
theorem Table.Under.answer (h : t.Under i key) {k : κ} {a : α} :
    if k = key then (t.step (.answer k a)).Absent i else (t.step (.answer k a)).Under i key := by
  obtain ⟨hin, honly⟩ := h
  split_ifs with hk
  · intro k'
    rw [Table.outstanding_answer]
    split_ifs with hk'
    · simp
    · exact fun heq => hk' ((honly k' heq).trans hk.symm)
  · refine ⟨?_, ?_⟩
    · rw [Table.outstanding_answer, if_neg (Ne.symm hk)]
      exact hin
    · intro k' heq
      rw [Table.outstanding_answer] at heq
      split_ifs at heq
      exact honly k' heq

/-- In the table, a request waits for the first answer that names its key. -/
theorem Table.Under.run (h : t.Under i key) (hnone : t.answers i = none)
    (hes : ∀ k, Event.enter k i ∉ es) : (t.run es).answers i = firstAnswer key es := by
  induction es generalizing t with
  | nil => exact hnone
  | cons e es ih =>
      have hrest : ∀ k, Event.enter k i ∉ es := fun k hk => hes k (List.mem_cons_of_mem _ hk)
      cases e with
      | enter k j =>
          have hj : j ≠ i := fun hji => hes k (by rw [hji]; simp)
          have hstep := h.enter (k := k) hj
          show ((t.step (.enter k j)).run es).answers i = if k = key then none else _
          by_cases hk : k = key
          · -- another request takes its place
            rw [if_pos hk] at hstep ⊢
            exact (hstep.run hrest).2.trans hnone
          · rw [if_neg hk] at hstep ⊢
            exact ih hstep hnone hrest
      | answer k a =>
          have hstep := h.answer (k := k) (a := a)
          show ((t.step (.answer k a)).run es).answers i = if k = key then some a else _
          by_cases hk : k = key
          · -- its answer
            rw [if_pos hk] at hstep ⊢
            refine (hstep.run hrest).2.trans ?_
            rw [Table.answers_answer, if_pos (by rw [hk]; exact h.1)]
          · rw [if_neg hk] at hstep ⊢
            refine ih hstep ?_ hrest
            rw [Table.answers_answer, if_neg fun heq => hk (h.2 k heq)]
            exact hnone

/-- **What a request gets** that is entered once: the first answer behind it
    that names its key, up to the next request under the key. -/
theorem answers_run {before after : List (Event κ ι α)} (hbefore : ∀ k, Event.enter k i ∉ before)
    (hafter : ∀ k, Event.enter k i ∉ after) :
    ((Table.empty.run (before ++ Event.enter key i :: after)).answers i : Option α)
      = firstAnswer key after := by
  have hempty : (Table.empty : Table κ ι α).Absent i := fun k h => by cases h
  obtain ⟨habsent, hanswer⟩ := hempty.run hbefore
  rw [Table.run_append]
  show (((Table.empty.run before).step (.enter key i)).run after).answers i = _
  refine Table.Under.run ⟨?_, ?_⟩ hanswer hafter
  · rw [Table.outstanding_enter, if_pos rfl]
  · intro k hk
    rw [Table.outstanding_enter] at hk
    split_ifs at hk with heq
    · exact heq
    · exact absurd hk (habsent k)

/-! ## §3. No request is answered twice. -/

/-- What is in the table has no answer. -/
def Table.Sound (t : Table κ ι α) : Prop := ∀ k i, t.outstanding k = some i → t.answers i = none

/-- One event keeps it, if a request that is entered is in no other place. -/
theorem Table.Sound.step (h : t.Sound) {e : Event κ ι α}
    (he : ∀ k j, e = .enter k j → t.answers j = none)
    (hone : ∀ k k' j, t.outstanding k = some j → t.outstanding k' = some j → k = k') :
    (t.step e).Sound := by
  intro k' j hj
  cases e with
  | enter k i =>
      rw [Table.outstanding_enter] at hj
      split_ifs at hj with hk
      · rw [← Option.some.inj hj]
        exact he k i rfl
      · exact h k' j hj
  | answer k a =>
      rw [Table.outstanding_answer] at hj
      split_ifs at hj with hk
      rw [Table.answers_answer, if_neg fun heq => hk (hone _ _ _ hj heq)]
      exact h k' j hj

end Run

end SapDbLib.Library.Correlation
