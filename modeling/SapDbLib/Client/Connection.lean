/-
  SapDbLib.Client.Connection — USE OF AN UNCONNECTED CLIENT.

  The constructors leave `m_remoteApp` unassigned in two of their outcomes,
  and only the window's constructor asks before it goes on.  Which sequences
  of calls, and which sequences of clicks, stay away from the pointer then?

    * `connection_safe_iff` — **exactly those on an object whose bus was
      reachable, and those whose every call ends at its input check**; the
      same for the clicks of a window.

  Both halves are the run rule `run_ok_iff` at the step lemmas of
  `Client.SapDbLib` and `Client.Window`.
-/
import SapDbLib.Client.Window
import SapDbLib.Library.Run

namespace SapDbLib

open Library

/-! ## §1. Constructions. -/

/-- How a client object comes into being. -/
inductive Construction where
  | default
  | address (bus : Bus) (qstrConnectionStr qstrName : Text)

/-- The object. -/
def Construction.build : Construction → SAPDBLib
  | .default => SAPDBLib.default
  | .address bus qstrConnectionStr qstrName =>
      SAPDBLib.connect bus qstrConnectionStr qstrName

/-- The address constructor ran and reached the bus. -/
def Construction.BusReached : Construction → Prop
  | .default => False
  | .address bus qstrConnectionStr qstrName => bus.reach qstrConnectionStr qstrName = true

/-- **The pointer is assigned exactly when the bus was reached**, whether or
    not the service interface is valid. -/
theorem Construction.build_isSome (c : Construction) :
    c.build.m_remoteApp.isSome ↔ c.BusReached := by
  cases c with
  | default => simp [Construction.build, Construction.BusReached, SAPDBLib.default]
  | address bus address name =>
      unfold Construction.BusReached
      by_cases hreach : bus.reach address name = true
      · simp [Construction.build, SAPDBLib.connect, hreach]
      · simp [Construction.build, SAPDBLib.connect, hreach]

/-! ## §2. Calls. -/

/-- A run of calls never faults, and each answer keeps the promise. -/
def SAPDBLib.RunSafe (lib : SAPDBLib) (calls : List (LibCall × Bus)) : Prop :=
  ∃ answers lib', run SAPDBLib.step lib calls = .ok (answers, lib')
    ∧ List.Forall₂ (Kept lib) calls answers

/-- On an object whose pointer is assigned or not, the guard of a call. -/
def SAPDBLib.Allows (lib : SAPDBLib) (call : LibCall) : Prop :=
  lib.m_remoteApp.isSome ∨ call.StopsAtGate

theorem step_allowed {lib : SAPDBLib} {e : LibCall × Bus} (h : lib.Allows e.1) :
    ∃ a, lib.step e = .ok (a, lib) ∧ Kept lib e a := by
  rcases h with hsome | hgate
  · exact step_ok hsome e
  · exact step_stopped hgate

theorem step_not_allowed {lib : SAPDBLib} {e : LibCall × Bus} (h : ¬ lib.Allows e.1) :
    lib.step e = .error .uninitialised := by
  unfold SAPDBLib.Allows at h
  push Not at h
  exact step_fault (by simpa using h.1) h.2

theorem SAPDBLib.runSafe_iff (lib : SAPDBLib) (calls : List (LibCall × Bus)) :
    lib.RunSafe calls ↔ ∀ e ∈ calls, lib.Allows e.1 := by
  -- the invariant of the run: the object stays as it is
  refine run_ok_iff SAPDBLib.step (fun l => l = lib) (fun e => lib.Allows e.1) (Kept lib)
    ?_ ?_ calls lib rfl
  · intro l e hl hguard
    subst hl
    obtain ⟨a, hstep, hkept⟩ := step_allowed hguard
    exact ⟨a, l, hstep, rfl, hkept⟩
  · intro l e hl hguard
    subst hl
    exact ⟨.uninitialised, step_not_allowed hguard⟩

/-- Either the object allows every call, or each call has to end at its
    check. -/
theorem forall_allows_iff {α : Type} (lib : SAPDBLib) (call : α → LibCall) (es : List α) :
    (∀ e ∈ es, lib.Allows (call e))
      ↔ lib.m_remoteApp.isSome ∨ ∀ e ∈ es, (call e).StopsAtGate := by
  by_cases hsome : lib.m_remoteApp.isSome
  · exact ⟨fun _ => Or.inl hsome, fun _ e _ => Or.inl hsome⟩
  · constructor
    · intro h
      exact Or.inr fun e he => (h e he).resolve_left hsome
    · intro h e he
      exact Or.inr (h.resolve_left hsome e he)

/-! ## §3. Clicks. -/

/-- What the window promises of an answered click. -/
def KeptClick (lib : SAPDBLib) (c : Click) (r : Clicked) : Prop :=
  Kept lib (c.libCall, c.bus) r.answer ∧ (r.answer.returned = false → r.returned = false)

/-- A window is built, and a run of clicks on it never faults. -/
def WindowSafe (bus : Bus) (clicks : List Click) : Prop :=
  ∃ w results w', Window.construct bus = .ok w ∧ run Window.click w clicks = .ok (results, w')
    ∧ List.Forall₂ (KeptClick (SAPDBLib.connect bus windowAddress windowBusName)) clicks results

theorem windowSafe_iff (bus : Bus) (clicks : List Click) :
    WindowSafe bus clicks
      ↔ ∀ c ∈ clicks, (SAPDBLib.connect bus windowAddress windowBusName).Allows c.libCall := by
  obtain ⟨w, hw, hlib, -⟩ := Window.construct_ok bus
  -- clicks change the texts shown, never the client object
  have hrun := run_ok_iff Window.click
    (fun w => w.m_sapDB = SAPDBLib.connect bus windowAddress windowBusName)
    (fun c => (SAPDBLib.connect bus windowAddress windowBusName).Allows c.libCall)
    (KeptClick (SAPDBLib.connect bus windowAddress windowBusName)) ?_ ?_ clicks w hlib
  · rw [← hrun]
    constructor
    · intro hsafe
      obtain ⟨v, results, w', hv, hclicks, hkept⟩ := hsafe
      rw [hw] at hv
      cases hv
      exact ⟨results, w', hclicks, hkept⟩
    · intro hrun
      obtain ⟨results, w', hclicks, hkept⟩ := hrun
      exact ⟨w, results, w', hw, hclicks, hkept⟩
  · intro v c hv hguard
    rw [← hv] at hguard ⊢
    obtain ⟨a, hstep, hkept⟩ := step_allowed (e := (c.libCall, c.bus)) hguard
    obtain ⟨r, ui, hclick, hanswer, hret⟩ := Window.click_ok hstep
    subst hanswer
    exact ⟨r, { v with ui := ui }, hclick, rfl, hkept, hret⟩
  · intro v c hv hguard
    rw [← hv] at hguard
    exact ⟨.uninitialised, Window.click_fault (step_not_allowed hguard)⟩

/-! ## §4. When the pointer is safe. -/

/-- **A client is safe exactly if its bus was reachable when it was built, or
    every call ends at its input check**; and so is the window. -/
theorem connection_safe_iff (c : Construction) (calls : List (LibCall × Bus)) (bus : Bus)
    (clicks : List Click) :
    (c.build.RunSafe calls ↔ c.BusReached ∨ ∀ e ∈ calls, e.1.StopsAtGate)
      ∧ (WindowSafe bus clicks
        ↔ bus.reach windowAddress windowBusName = true
          ∨ ∀ c ∈ clicks, c.libCall.StopsAtGate) := by
  constructor
  · rw [SAPDBLib.runSafe_iff, forall_allows_iff c.build Prod.fst calls, c.build_isSome]
  · have hbuild := (Construction.address bus windowAddress windowBusName).build_isSome
    rw [windowSafe_iff, forall_allows_iff _ Click.libCall clicks]
    exact or_congr_left hbuild

/-- A bus that cannot be reached. -/
def deadBus : Bus :=
  { reach := fun _ _ => false
    alive := fun _ => false
    connectionError := []
    isValid := fun _ => false
    interfaceError := fun _ => []
    answer := fun _ => .error .noReply }

/-- Ping on a client whose bus was not reachable uses the unassigned
    pointer. -/
theorem ping_unconnected_faults :
    ¬ ((Construction.address deadBus windowAddress windowBusName).build).RunSafe
      [(.ping, deadBus)] := by
  intro hsafe
  obtain ⟨answers, lib', hrun, -⟩ := hsafe
  have hfault : run SAPDBLib.step (Construction.address deadBus windowAddress windowBusName).build
      [(.ping, deadBus)] = .error .uninitialised := rfl
  rw [hfault] at hrun
  cases hrun

end SapDbLib
