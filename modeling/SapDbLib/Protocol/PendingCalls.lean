/-
  SapDbLib.Protocol.PendingCalls — CALLS UNDER WAY AND THEIR REPLIES.

  `GenerateSerial`, `SendWithReply` and `Send` of `Connection`, and the part
  of `HandleMessage` that looks for a pending call.  Any number of threads
  send at once: a step of a run is one statement of one of them, or a message
  that is handled, in any order.

    * `raised_run` — **no pending call gets a second reply**;
    * `replies_run` — **which reply a call gets**: the first that names its
      serial behind the registration, up to the next registration under it;
    * `replies_exact` — with fewer than 2^32 messages and a peer that answers
      what was sent, each once: **every call gets its own answer and no
      other**;
    * `call_answered_iff` — the serial after 2^32 - 1 is 0, and the call that
      draws it waits for an answer that no message is; `call_lost`.

  `sendings_step` says once what a step does to the threads; what is kept of
  them follows from it.
-/
import Mathlib.Data.List.Count
import SapDbLib.Library.Correlation
import SapDbLib.Protocol.MessageContainer

namespace SapDbLib

open Library Library.Correlation

/-! ## §1. The connection. -/

/-- The statements of `SendWithReply` and `Send`. -/
inductive SendPc where
  /-- `SendWithReply` draws a serial if the message has none. -/
  | generate
  /-- It enters its pending call. -/
  | register
  /-- `Send` draws a serial if the message has none. -/
  | renumber
  | write
  | done
  deriving DecidableEq, Repr

/-- A call of `SendWithReply` or `Send`: the serial of its message, and the
    serial its pending call is under. -/
structure Sending where
  pc : SendPc
  serial : BitVec 32
  key : Option (BitVec 32)
  deriving DecidableEq, Repr

/-- The part of `Connection` that sending and replies need. -/
structure PendingCalls where
  serial : BitVec 32
  sendings : List Sending
  pendingCalls : BitVec 32 → Option Nat
  /-- `PendingCall.Reply`, by the sending. -/
  replies : Nat → Option Protocol.Message
  /-- What was written: the sendings with their serials. -/
  written : List (Nat × BitVec 32)
  /-- The exceptions of `HandleMessage`. -/
  raised : List CSharpException

/-- A step. -/
inductive SendEvent where
  | sendWithReply
  | send
  /-- The next statement of a sending.  One whose write fails never takes it. -/
  | advance (i : Nat)
  | handle (msg : Protocol.Message)

namespace PendingCalls

/-- A new connection. -/
def start : PendingCalls :=
  { serial := 0
    sendings := []
    pendingCalls := fun _ => none
    replies := fun _ => none
    written := []
    raised := [] }

/-- `if (msg.Header.Serial == 0) msg.Header.Serial = GenerateSerial ()`; the
    counter wraps around. -/
def number (s : PendingCalls) (i : Nat) (sending : Sending) (next : SendPc) : PendingCalls :=
  if sending.serial = 0 then
    { s with serial := s.serial + 1
             sendings := s.sendings.set i { sending with pc := next, serial := s.serial + 1 } }
  else { s with sendings := s.sendings.set i { sending with pc := next } }

/-- `pendingCalls[msg.Header.Serial] = pending` -/
def register (s : PendingCalls) (i : Nat) (sending : Sending) : PendingCalls :=
  { s with
    pendingCalls := Function.update s.pendingCalls sending.serial (some i)
    sendings := s.sendings.set i { sending with pc := .renumber, key := some sending.serial } }

/-- `transport.WriteMessage (msg)` -/
def write (s : PendingCalls) (i : Nat) (sending : Sending) : PendingCalls :=
  { s with
    written := s.written ++ [(i, sending.serial)]
    sendings := s.sendings.set i { sending with pc := .done } }

/-- The next statement of a sending. -/
def advance (s : PendingCalls) (i : Nat) : PendingCalls :=
  match s.sendings[i]? with
  | none => s
  | some sending =>
      match sending.pc with
      | .generate => s.number i sending .register
      | .register => s.register i sending
      | .renumber => s.number i sending .write
      | .write => s.write i sending
      | .done => s

/-- `PendingCall.Reply = reply` -/
def setReply (s : PendingCalls) (i : Nat) (reply : Protocol.Message) : PendingCalls :=
  match s.replies i with
  | some _ => { s with raised := s.raised ++ [exception (text "Cannot handle reply more than once")] }
  | none => { s with replies := Function.update s.replies i (some reply) }

/-- `HandleMessage` of a message with a reply serial. -/
def handleReply (s : PendingCalls) (msg : Protocol.Message) : PendingCalls :=
  match msg.field FieldCode.replySerial with
  | none => s
  | some value =>
      match castUInt32 value with
      | .error ex => { s with raised := s.raised ++ [ex] }
      | .ok replySerial =>
          match s.pendingCalls replySerial with
          -- replies with no pending call are discarded
          | none => s
          | some i =>
              let removed := Function.update s.pendingCalls replySerial none
              ({ s with pendingCalls := removed } : PendingCalls).setReply i msg

/-- A step. -/
def step (s : PendingCalls) : SendEvent → PendingCalls
  | .sendWithReply =>
      { s with sendings := s.sendings ++ [{ pc := .generate, serial := 0, key := none }] }
  | .send => { s with sendings := s.sendings ++ [{ pc := .renumber, serial := 0, key := none }] }
  | .advance i => s.advance i
  | .handle msg => s.handleReply msg

/-- A run. -/
def run (s : PendingCalls) (es : List SendEvent) : PendingCalls := es.foldl step s

theorem run_append (s : PendingCalls) (es fs : List SendEvent) :
    s.run (es ++ fs) = (s.run es).run fs := List.foldl_append

/-! ## §2. The table of pending calls. -/

/-- The pending calls and their replies as a table. -/
def table (s : PendingCalls) : Table (BitVec 32) Nat Protocol.Message :=
  { outstanding := s.pendingCalls, answers := s.replies }

end PendingCalls

/-- The call that a message answers. -/
def replySerialOf (msg : Protocol.Message) : Option (BitVec 32) :=
  (msg.field FieldCode.replySerial).bind fun value => (castUInt32 value).toOption

namespace PendingCalls

/-- What a step does to the table. -/
def trace (s : PendingCalls) : SendEvent → List (Event (BitVec 32) Nat Protocol.Message)
  | .sendWithReply => []
  | .send => []
  | .advance i =>
      match s.sendings[i]? with
      | none => []
      | some sending => if sending.pc = .register then [.enter sending.serial i] else []
  | .handle msg => (replySerialOf msg).toList.map fun serial => .answer serial msg

/-- What a run does to it. -/
def traces (s : PendingCalls) : List SendEvent → List (Event (BitVec 32) Nat Protocol.Message)
  | [] => []
  | e :: es => s.trace e ++ (s.step e).traces es

theorem traces_append (s : PendingCalls) (es fs : List SendEvent) :
    s.traces (es ++ fs) = s.traces es ++ (s.run es).traces fs := by
  induction es generalizing s with
  | nil => rfl
  | cons e es ih =>
      show s.trace e ++ (s.step e).traces (es ++ fs) = _
      rw [ih, ← List.append_assoc]
      rfl

/-- What the next statement of a sending does. -/
theorem advance_cases (s : PendingCalls) (i : Nat) :
    (s.advance i = s ∧ s.trace (.advance i) = [])
      ∨ ∃ sending, s.sendings[i]? = some sending
        ∧ ((∃ next, (sending.pc = .generate ∧ next = .register
              ∨ sending.pc = .renumber ∧ next = .write)
            ∧ s.advance i = s.number i sending next ∧ s.trace (.advance i) = [])
          ∨ (sending.pc = .register ∧ s.advance i = s.register i sending
            ∧ s.trace (.advance i) = [.enter sending.serial i])
          ∨ sending.pc = .write ∧ s.advance i = s.write i sending
            ∧ s.trace (.advance i) = []) := by
  rw [advance, trace]
  cases hi : s.sendings[i]? with
  | none => exact Or.inl ⟨rfl, rfl⟩
  | some sending =>
      dsimp only
      cases hpc : sending.pc with
      | generate =>
          exact Or.inr ⟨sending, rfl, Or.inl ⟨_, Or.inl ⟨hpc, rfl⟩, rfl, if_neg (by simp)⟩⟩
      | register => exact Or.inr ⟨sending, rfl, Or.inr (Or.inl ⟨hpc, rfl, if_pos rfl⟩)⟩
      | renumber =>
          exact Or.inr ⟨sending, rfl, Or.inl ⟨_, Or.inr ⟨hpc, rfl⟩, rfl, if_neg (by simp)⟩⟩
      | write => exact Or.inr ⟨sending, rfl, Or.inr (Or.inr ⟨hpc, rfl, if_neg (by simp)⟩)⟩
      | done => exact Or.inl ⟨rfl, if_neg (by simp)⟩

/-! ## §3. What holds in every state. -/

/-- A list after a change at one place. -/
theorem getElem?_set_of_some {l : List Sending} {i : Nat} {a : Sending} (h : l[i]? = some a)
    (b : Sending) (j : Nat) : (l.set i b)[j]? = if j = i then some b else l[j]? := by
  obtain ⟨hlt, -⟩ := List.getElem?_eq_some_iff.mp h
  rw [List.getElem?_set]
  by_cases hj : j = i
  · rw [if_pos hj.symm, if_pos hj, if_pos hlt]
  · rw [if_neg (Ne.symm hj), if_neg hj]

/-- The serial of a message behind `number`. -/
def numbered (s : PendingCalls) (sending : Sending) : BitVec 32 :=
  if sending.serial = 0 then s.serial + 1 else sending.serial

section Sendings

variable {s : PendingCalls} {i : Nat} {sending : Sending} (h : s.sendings[i]? = some sending)
include h

theorem sendings_register (j : Nat) :
    (s.register i sending).sendings[j]?
      = if j = i then some { sending with pc := .renumber, key := some sending.serial }
        else s.sendings[j]? := getElem?_set_of_some h _ j

theorem sendings_write (j : Nat) :
    (s.write i sending).sendings[j]?
      = if j = i then some { sending with pc := .done } else s.sendings[j]? :=
  getElem?_set_of_some h _ j

end Sendings

theorem table_number (s : PendingCalls) (i : Nat) (sending : Sending) (next : SendPc) :
    (s.number i sending next).table = s.table
      ∧ (s.number i sending next).raised = s.raised := by
  unfold number
  split_ifs <;> exact ⟨rfl, rfl⟩

/-- The invariant: pending calls belong to sendings that entered them, only
    such have replies, and none waits that has one. -/
structure Sound (s : PendingCalls) : Prop where
  waiting : ∀ k i, s.pendingCalls k = some i →
    ∃ sending, s.sendings[i]? = some sending ∧ sending.key = some k
  answered : ∀ i, s.replies i ≠ none →
    ∃ sending, s.sendings[i]? = some sending ∧ sending.key ≠ none
  entered : ∀ (i : Nat) (sending : Sending), s.sendings[i]? = some sending → sending.key ≠ none →
    sending.pc ≠ .generate ∧ sending.pc ≠ .register
  once : s.table.Sound
  raised : ∀ ex ∈ s.raised, ex = invalidCast

theorem sound_start : start.Sound where
  waiting := fun k i h => by cases h
  answered := fun i h => absurd rfl h
  entered := fun i sending h => by cases h
  once := fun k i h => by cases h
  raised := fun ex h => absurd h List.not_mem_nil

/-- The only exception of a cast. -/
theorem castUInt32_error {v : Value .object} {ex : CSharpException}
    (h : castUInt32 v = .error ex) : ex = invalidCast := by
  unfold castUInt32 at h
  split at h
  · cases h
  · cases h
    rfl

/-- What `HandleMessage` does with the reply serial of a message. -/
theorem handleReply_cases (s : PendingCalls) (msg : Protocol.Message) :
    (replySerialOf msg = none ∧ (s.handleReply msg = s
        ∨ s.handleReply msg = { s with raised := s.raised ++ [invalidCast] }))
      ∨ ∃ serial, replySerialOf msg = some serial
        ∧ (s.pendingCalls serial = none ∧ s.handleReply msg = s
          ∨ ∃ i, s.pendingCalls serial = some i ∧ s.handleReply msg
            = ({ s with pendingCalls := Function.update s.pendingCalls serial none }
                : PendingCalls).setReply i msg) := by
  rw [PendingCalls.handleReply, replySerialOf]
  cases msg.field FieldCode.replySerial with
  | none => exact Or.inl ⟨rfl, Or.inl rfl⟩
  | some value =>
      dsimp only [Option.bind_some]
      cases hcast : castUInt32 value with
      | error ex =>
          rw [castUInt32_error hcast]
          exact Or.inl ⟨rfl, Or.inr rfl⟩
      | ok serial =>
          refine Or.inr ⟨serial, rfl, ?_⟩
          dsimp only
          cases hpending : s.pendingCalls serial with
          | none => exact Or.inl ⟨rfl, rfl⟩
          | some i => exact Or.inr ⟨i, rfl, rfl⟩

/-- What the next statement of a sending makes of it. -/
inductive Advances (s : PendingCalls) (sending : Sending) : Sending → Prop
  | generate (hpc : sending.pc = .generate) :
      Advances s sending { sending with pc := .register, serial := s.numbered sending }
  | register (hpc : sending.pc = .register) :
      Advances s sending { sending with pc := .renumber, key := some sending.serial }
  | renumber (hpc : sending.pc = .renumber) :
      Advances s sending { sending with pc := .write, serial := s.numbered sending }
  | write (hpc : sending.pc = .write) : Advances s sending { sending with pc := .done }

section Sendings

variable {s : PendingCalls} {i : Nat} {sending moved : Sending}

theorem sendings_handleReply (s : PendingCalls) (msg : Protocol.Message) :
    (s.handleReply msg).sendings = s.sendings := by
  rcases s.handleReply_cases msg with ⟨-, hs | hs⟩ | ⟨serial, -, ⟨-, hs⟩ | ⟨i, -, hs⟩⟩
  · rw [hs]
  · rw [hs]
  · rw [hs]
  · rw [hs, setReply]
    split <;> rfl

/-- **What a step does to the sendings**: nothing, or it begins one, or one of
    them takes its next statement. -/
theorem sendings_step (s : PendingCalls) (e : SendEvent) :
    (s.step e).sendings = s.sendings
      ∨ (∃ pc, (pc = .generate ∨ pc = .renumber)
        ∧ (s.step e).sendings = s.sendings ++ [⟨pc, 0, none⟩])
      ∨ ∃ j sending moved, e = .advance j ∧ s.sendings[j]? = some sending
        ∧ s.Advances sending moved ∧ (s.step e).sendings = s.sendings.set j moved := by
  cases e with
  | sendWithReply => exact Or.inr (Or.inl ⟨.generate, Or.inl rfl, rfl⟩)
  | send => exact Or.inr (Or.inl ⟨.renumber, Or.inr rfl, rfl⟩)
  | handle msg => exact Or.inl (s.sendings_handleReply msg)
  | advance j =>
      show (s.advance j).sendings = _ ∨ (∃ pc, _ ∧ (s.advance j).sendings = _)
        ∨ ∃ k sending moved, _ ∧ _ ∧ _ ∧ (s.advance j).sendings = _
      have hnumber : ∀ (sending : Sending) next, (s.number j sending next).sendings
          = s.sendings.set j { sending with pc := next, serial := s.numbered sending } := by
        intro sending next
        unfold number numbered
        split_ifs <;> rfl
      rcases s.advance_cases j with
        ⟨hs, -⟩ | ⟨sending, hj, ⟨next, hpc, hs, -⟩ | ⟨hpc, hs, -⟩ | ⟨hpc, hs, -⟩⟩
      · exact Or.inl (by rw [hs])
      · rw [hs, hnumber]
        rcases hpc with ⟨hpc, rfl⟩ | ⟨hpc, rfl⟩
        · exact Or.inr (Or.inr ⟨j, sending, _, rfl, hj, .generate hpc, rfl⟩)
        · exact Or.inr (Or.inr ⟨j, sending, _, rfl, hj, .renumber hpc, rfl⟩)
      · rw [hs]
        exact Or.inr (Or.inr ⟨j, sending, _, rfl, hj, .register hpc, rfl⟩)
      · rw [hs]
        exact Or.inr (Or.inr ⟨j, sending, _, rfl, hj, .write hpc, rfl⟩)

/-- What a step does to one of them. -/
theorem sending_step (e : SendEvent) (hi : s.sendings[i]? = some sending) :
    (s.step e).sendings[i]? = some sending
      ∨ ∃ moved, e = .advance i ∧ s.Advances sending moved
        ∧ (s.step e).sendings[i]? = some moved := by
  rcases s.sendings_step e with hs | ⟨pc, -, hs⟩ | ⟨j, before, moved, rfl, hj, hadv, hs⟩
  · exact Or.inl (by rw [hs, hi])
  · refine Or.inl ?_
    rw [hs, List.getElem?_append_left (List.getElem?_eq_some_iff.mp hi).1, hi]
  · rw [hs, getElem?_set_of_some hj]
    split_ifs with hij
    · rw [hij, hj, Option.some.injEq] at hi
      rw [hi] at hadv
      exact Or.inr ⟨moved, by rw [hij], hadv, rfl⟩
    · exact Or.inl hi

/-- What one of them was in front of a step. -/
theorem sending_before {e : SendEvent} (hi : (s.step e).sendings[i]? = some moved) :
    s.sendings[i]? = some moved
      ∨ (∃ pc, (pc = .generate ∨ pc = .renumber) ∧ moved = ⟨pc, 0, none⟩)
      ∨ ∃ sending, e = .advance i ∧ s.sendings[i]? = some sending
        ∧ s.Advances sending moved := by
  rcases s.sendings_step e with hs | ⟨pc, hpc, hs⟩ | ⟨j, before, after, rfl, hj, hadv, hs⟩
  · exact Or.inl (by rwa [hs] at hi)
  · rw [hs, List.getElem?_append] at hi
    split_ifs at hi with hlt
    · exact Or.inl hi
    · rw [List.getElem?_singleton] at hi
      split_ifs at hi
      exact Or.inr (Or.inl ⟨pc, hpc, (Option.some.inj hi).symm⟩)
  · rw [hs, getElem?_set_of_some hj] at hi
    split_ifs at hi with hij
    · rw [Option.some.inj hi] at hadv
      exact Or.inr (Or.inr ⟨before, by rw [hij], by rw [hij, hj], hadv⟩)
    · exact Or.inl hi

end Sendings

section Step

variable {s : PendingCalls}

/-- A reply is handled as in the table, and the second one never comes. -/
theorem Sound.handleReply (h : s.Sound) (msg : Protocol.Message) :
    (s.handleReply msg).table = s.table.run (s.trace (.handle msg))
      ∧ (s.handleReply msg).sendings = s.sendings
      ∧ (s.handleReply msg).serial = s.serial ∧ (s.handleReply msg).written = s.written
      ∧ ∀ ex ∈ (s.handleReply msg).raised, ex = invalidCast := by
  have htrace : s.trace (.handle msg)
      = (replySerialOf msg).toList.map fun serial => Event.answer serial msg := rfl
  rw [htrace]
  rcases s.handleReply_cases msg with ⟨hnone, hs | hs⟩ | ⟨serial, hserial, hs⟩
  · rw [hnone, hs]
    exact ⟨rfl, rfl, rfl, rfl, h.raised⟩
  · rw [hnone, hs]
    refine ⟨rfl, rfl, rfl, rfl, ?_⟩
    intro ex hex
    rcases List.mem_append.mp hex with hex | hex
    · exact h.raised ex hex
    · exact List.mem_singleton.mp hex
  · rw [hserial]
    show _ = s.table.step (.answer serial msg) ∧ _
    have hout : s.table.outstanding serial = s.pendingCalls serial := rfl
    rw [Table.step, hout]
    rcases hs with ⟨hpending, hs⟩ | ⟨i, hpending, hs⟩
    · rw [hpending, hs]
      exact ⟨rfl, rfl, rfl, rfl, h.raised⟩
    · -- what is in the table has no reply yet
      have hreply : s.replies i = none := h.once serial i hpending
      have hset : s.handleReply msg = { s with
          pendingCalls := Function.update s.pendingCalls serial none
          replies := Function.update s.replies i (some msg) } := by
        rw [hs, setReply]
        dsimp only
        rw [hreply]
      rw [hpending, hset]
      exact ⟨rfl, rfl, rfl, rfl, h.raised⟩

/-- **Every step does to the pending calls what it does to the table.** -/
theorem Sound.table_step (h : s.Sound) (e : SendEvent) :
    (s.step e).table = s.table.run (s.trace e) := by
  cases e with
  | sendWithReply => rfl
  | send => rfl
  | handle msg => exact (h.handleReply msg).1
  | advance i =>
      show (s.advance i).table = _
      rcases s.advance_cases i with ⟨hs, ht⟩ | ⟨sending, -, ⟨next, -, hs, ht⟩ | ⟨-, hs, ht⟩ | ⟨-, hs, ht⟩⟩
      · rw [hs, ht]
        rfl
      · rw [hs, ht]
        exact (s.table_number i sending next).1
      · rw [hs, ht]
        rfl
      · rw [hs, ht]
        rfl

/-- A pending call stays where it was entered. -/
theorem Sound.key_step (h : s.Sound) (e : SendEvent) {i : Nat} {sending : Sending}
    (hi : s.sendings[i]? = some sending) (hkey : sending.key ≠ none) :
    ∃ sending', (s.step e).sendings[i]? = some sending' ∧ sending'.key = sending.key := by
  rcases sending_step e hi with hi' | ⟨moved, -, hadv, hi'⟩
  · exact ⟨sending, hi', rfl⟩
  · refine ⟨moved, hi', ?_⟩
    cases hadv with
    | generate hpc => rfl
    | register hpc => exact absurd hpc (h.entered i sending hi hkey).2
    | renumber hpc => rfl
    | write hpc => rfl

/-- A step enters one call, answers one, or leaves the table alone. -/
theorem trace_cases (s : PendingCalls) (e : SendEvent) :
    s.trace e = []
      ∨ (∃ i sending, s.sendings[i]? = some sending ∧ sending.pc = .register
          ∧ s.trace e = [.enter sending.serial i] ∧ s.step e = s.register i sending)
      ∨ ∃ serial msg, e = .handle msg ∧ replySerialOf msg = some serial
        ∧ s.trace e = [.answer serial msg] := by
  cases e with
  | sendWithReply => exact Or.inl rfl
  | send => exact Or.inl rfl
  | handle msg =>
      have htrace : s.trace (.handle msg)
          = (replySerialOf msg).toList.map fun serial => Event.answer serial msg := rfl
      rw [htrace]
      cases hserial : replySerialOf msg with
      | none => exact Or.inl rfl
      | some serial => exact Or.inr (Or.inr ⟨serial, msg, rfl, hserial, rfl⟩)
  | advance i =>
      rcases s.advance_cases i with ⟨-, ht⟩ | ⟨sending, hi, ⟨next, -, -, ht⟩ | ⟨hpc, hs, ht⟩ | ⟨-, -, ht⟩⟩
      · exact Or.inl ht
      · exact Or.inl ht
      · exact Or.inr (Or.inl ⟨i, sending, hi, hpc, ht, hs⟩)
      · exact Or.inl ht

/-- A sending that has not entered its call has no reply. -/
theorem Sound.unanswered (h : s.Sound) {i : Nat} {sending : Sending}
    (hi : s.sendings[i]? = some sending) (hpc : sending.pc = .register) : s.replies i = none := by
  by_contra hne
  obtain ⟨sending', hi', hkey⟩ := h.answered i hne
  rw [hi, Option.some.injEq] at hi'
  exact (h.entered i sending' (by rw [← hi', hi]) hkey).2 (by rw [← hi', hpc])

/-- A sending is under one serial. -/
theorem Sound.key_unique (h : s.Sound) {k k' : BitVec 32} {i : Nat}
    (hk : s.pendingCalls k = some i) (hk' : s.pendingCalls k' = some i) : k = k' := by
  obtain ⟨sending, hi, hkey⟩ := h.waiting k i hk
  obtain ⟨sending', hi', hkey'⟩ := h.waiting k' i hk'
  rw [hi, Option.some.injEq] at hi'
  rw [← hi', hkey, Option.some.injEq] at hkey'
  exact hkey'

/-- The table stays sound. -/
theorem Sound.once_step (h : s.Sound) (e : SendEvent) : (s.step e).table.Sound := by
  have hone : ∀ k k' i, s.table.outstanding k = some i → s.table.outstanding k' = some i →
      k = k' := fun k k' i hk hk' => h.key_unique hk hk'
  rw [h.table_step e]
  rcases s.trace_cases e with ht | ⟨i, sending, hi, hpc, ht, -⟩ | ⟨serial, msg, -, -, ht⟩
  · rw [ht]
    exact h.once
  · rw [ht]
    show (s.table.step (.enter sending.serial i)).Sound
    refine h.once.step ?_ hone
    intro k j hj
    rw [Event.enter.injEq] at hj
    rw [← hj.2]
    exact h.unanswered hi hpc
  · rw [ht]
    show (s.table.step (.answer serial msg)).Sound
    exact h.once.step (fun k i hk => by cases hk) hone

/-- Entering moves on. -/
theorem Sound.entered_step (h : s.Sound) (e : SendEvent) (i : Nat) (sending : Sending)
    (hi : (s.step e).sendings[i]? = some sending) (hkey : sending.key ≠ none) :
    sending.pc ≠ .generate ∧ sending.pc ≠ .register := by
  rcases sending_before hi with hi | ⟨pc, -, rfl⟩ | ⟨before, -, hbefore, hadv⟩
  · exact h.entered i sending hi hkey
  · exact absurd rfl hkey
  · cases hadv with
    | generate hpc => exact absurd hpc (h.entered i before hbefore hkey).1
    | register hpc => exact ⟨by simp, by simp⟩
    | renumber hpc => exact ⟨by simp, by simp⟩
    | write hpc => exact ⟨by simp, by simp⟩

/-- **Every step keeps the invariant.** -/
theorem Sound.step (h : s.Sound) (e : SendEvent) : (s.step e).Sound := by
  have hkeep : ∀ k i, s.pendingCalls k = some i →
      ∃ sending, (s.step e).sendings[i]? = some sending ∧ sending.key = some k := by
    intro k i hk
    obtain ⟨sending, hi, hkey⟩ := h.waiting k i hk
    obtain ⟨sending', hi', hkey'⟩ := h.key_step e hi (by rw [hkey]; simp)
    exact ⟨sending', hi', hkey'.trans hkey⟩
  have hreplies : ∀ i, s.replies i ≠ none →
      ∃ sending, (s.step e).sendings[i]? = some sending ∧ sending.key ≠ none := by
    intro i hne
    obtain ⟨sending, hi, hkey⟩ := h.answered i hne
    obtain ⟨sending', hi', hkey'⟩ := h.key_step e hi hkey
    exact ⟨sending', hi', by rwa [hkey']⟩
  have hraised : ∀ ex ∈ (s.step e).raised, ex = invalidCast := by
    cases e with
    | sendWithReply => exact h.raised
    | send => exact h.raised
    | handle msg => exact (h.handleReply msg).2.2.2.2
    | advance i =>
        show ∀ ex ∈ (s.advance i).raised, ex = invalidCast
        rcases s.advance_cases i with ⟨hs, -⟩ | ⟨sending, -, ⟨next, -, hs, -⟩ | ⟨-, hs, -⟩ | ⟨-, hs, -⟩⟩
        · rw [hs]
          exact h.raised
        · rw [hs, (s.table_number i sending next).2]
          exact h.raised
        · rw [hs]
          exact h.raised
        · rw [hs]
          exact h.raised
  have htable := h.table_step e
  refine ⟨?_, ?_, h.entered_step e, h.once_step e, hraised⟩
  · intro k i hk
    have hout : (s.step e).table.outstanding k = some i := hk
    rw [htable] at hout
    rcases s.trace_cases e with ht | ⟨j, sending, hj, -, ht, hs⟩ | ⟨serial, msg, -, -, ht⟩
    · rw [ht] at hout
      exact hkeep k i hout
    · rw [ht] at hout
      replace hout : (s.table.step (.enter sending.serial j)).outstanding k = some i := hout
      rw [Table.outstanding_enter] at hout
      split_ifs at hout with hserial
      · rw [hs, sendings_register hj, ← Option.some.inj hout, if_pos rfl, hserial]
        exact ⟨_, rfl, rfl⟩
      · exact hkeep k i hout
    · rw [ht] at hout
      replace hout : (s.table.step (.answer serial msg)).outstanding k = some i := hout
      rw [Table.outstanding_answer] at hout
      split_ifs at hout
      exact hkeep k i hout
  · intro i hne
    have hans : (s.step e).table.answers i ≠ none := hne
    rw [htable] at hans
    rcases s.trace_cases e with ht | ⟨j, sending, hj, -, ht, hs⟩ | ⟨serial, msg, -, -, ht⟩
    · rw [ht] at hans
      exact hreplies i hans
    · rw [ht] at hans
      exact hreplies i hans
    · rw [ht] at hans
      replace hans : (s.table.step (.answer serial msg)).answers i ≠ none := hans
      rw [Table.answers_answer] at hans
      split_ifs at hans with hout
      · obtain ⟨sending, hi, hkey⟩ := hkeep serial i hout
        exact ⟨sending, hi, by rw [hkey]; simp⟩
      · exact hreplies i hans

theorem sound_run (es : List SendEvent) (h : s.Sound) : (s.run es).Sound := by
  induction es generalizing s with
  | nil => exact h
  | cons e es ih => exact ih (h.step e)

theorem table_run (es : List SendEvent) (h : s.Sound) :
    (s.run es).table = s.table.run (s.traces es) := by
  induction es generalizing s with
  | nil => rfl
  | cons e es ih =>
      show ((s.step e).run es).table = s.table.run (s.trace e ++ (s.step e).traces es)
      rw [ih (h.step e), h.table_step e, Table.run_append]

/-- **No pending call gets a second reply**: in no order of the steps does
    `HandleMessage` throw for that, but only where a reply serial is no
    `uint`. -/
theorem raised_run (es : List SendEvent) :
    (start.run es).raised = List.replicate (start.run es).raised.length invalidCast :=
  List.eq_replicate_of_mem (sound_run es sound_start).raised

end Step

/-! ## §4. Which reply a call gets. -/

section Replies

variable {s : PendingCalls} {i : Nat} {sending : Sending} {k : BitVec 32}

/-- A pending call stays where it was entered. -/
theorem Sound.key_run (h : s.Sound) (es : List SendEvent) (hi : s.sendings[i]? = some sending)
    (hkey : sending.key ≠ none) :
    ∃ sending', (s.run es).sendings[i]? = some sending' ∧ sending'.key = sending.key := by
  induction es generalizing s sending with
  | nil => exact ⟨sending, hi, rfl⟩
  | cons e es ih =>
      obtain ⟨sending₁, hi₁, hkey₁⟩ := h.key_step e hi hkey
      obtain ⟨sending₂, hi₂, hkey₂⟩ := ih (h.step e) hi₁ (by rwa [hkey₁])
      exact ⟨sending₂, hi₂, hkey₂.trans hkey₁⟩

/-- A sending that entered its call does not enter it again. -/
theorem Sound.not_entered (h : s.Sound) (es : List SendEvent)
    (hi : s.sendings[i]? = some sending) (hkey : sending.key ≠ none) :
    Event.enter k i ∉ s.traces es := by
  induction es generalizing s sending with
  | nil => exact List.not_mem_nil
  | cons e es ih =>
      obtain ⟨sending₁, hi₁, hkey₁⟩ := h.key_step e hi hkey
      intro hmem
      rcases List.mem_append.mp hmem with hmem | hmem
      · rcases s.trace_cases e with ht | ⟨j, moved, hj, hpc, ht, -⟩ | ⟨serial, msg, -, -, ht⟩
        · rw [ht] at hmem
          exact List.not_mem_nil hmem
        · rw [ht, List.mem_singleton, Event.enter.injEq] at hmem
          rw [← hmem.2, hi, Option.some.injEq] at hj
          exact (h.entered i sending hi hkey).2 (by rw [hj, hpc])
        · rw [ht, List.mem_singleton] at hmem
          cases hmem
      · exact ih (h.step e) hi₁ (by rwa [hkey₁]) hmem

/-- What was entered has a pending call. -/
theorem Sound.key_of_entered (h : s.Sound) {es : List SendEvent}
    (hmem : Event.enter k i ∈ s.traces es) :
    ∃ sending, (s.run es).sendings[i]? = some sending ∧ sending.key ≠ none := by
  induction es generalizing s with
  | nil => exact absurd hmem List.not_mem_nil
  | cons e es ih =>
      rcases List.mem_append.mp hmem with hmem | hmem
      · rcases s.trace_cases e with ht | ⟨j, moved, hj, -, ht, hs⟩ | ⟨serial, msg, -, -, ht⟩
        · rw [ht] at hmem
          exact absurd hmem List.not_mem_nil
        · rw [ht, List.mem_singleton, Event.enter.injEq] at hmem
          have hnow : (s.step e).sendings[j]?
              = some { moved with pc := .renumber, key := some moved.serial } := by
            rw [hs, sendings_register hj, if_pos rfl]
          obtain ⟨sending', hi', hkey'⟩ := (h.step e).key_run es hnow (by simp)
          rw [hmem.2]
          exact ⟨sending', hi', by rw [hkey']; simp⟩
        · rw [ht, List.mem_singleton] at hmem
          cases hmem
      · exact ih (h.step e) hmem

/-- The step that registers a call. -/
theorem step_register (hi : s.sendings[i]? = some sending) (hpc : sending.pc = .register) :
    s.step (.advance i) = s.register i sending
      ∧ s.trace (.advance i) = [.enter sending.serial i] := by
  refine ⟨?_, ?_⟩
  · show s.advance i = _
    rw [advance, hi]
    dsimp only
    rw [hpc]
  · rw [trace, hi]
    exact if_pos hpc

/-- A sending without a pending call gets no reply. -/
theorem replies_run_none (es : List SendEvent) (hi : (start.run es).sendings[i]? = some sending)
    (hkey : sending.key = none) : (start.run es).replies i = none := by
  by_contra hne
  obtain ⟨sending', hi', hkey'⟩ := (sound_run es sound_start).answered i hne
  rw [hi, Option.some.injEq] at hi'
  exact hkey' (by rw [← hi', hkey])

/-- **Which reply a call gets** that is registered now: the first message that
    names its serial, if no call is registered under the same serial before. -/
theorem replies_run {pre post : List SendEvent}
    (hi : (start.run pre).sendings[i]? = some sending) (hpc : sending.pc = .register) :
    (start.run (pre ++ .advance i :: post)).replies i
      = firstAnswer sending.serial (((start.run pre).register i sending).traces post) := by
  have hpre := sound_run pre sound_start
  have hstep := step_register hi hpc
  have hnow : ((start.run pre).register i sending).sendings[i]?
      = some { sending with pc := .renumber, key := some sending.serial } := by
    rw [sendings_register hi, if_pos rfl]
  have hpost := hpre.step (.advance i)
  rw [hstep.1] at hpost
  have hbefore : ∀ k, Event.enter k i ∉ start.traces pre := by
    intro k hmem
    obtain ⟨sending', hi', hkey⟩ := sound_start.key_of_entered hmem
    rw [hi, Option.some.injEq] at hi'
    exact (hpre.entered i sending' (by rw [← hi', hi]) hkey).2 (by rw [← hi', hpc])
  have hafter : ∀ k, Event.enter k i ∉ ((start.run pre).register i sending).traces post :=
    fun k => hpost.not_entered post hnow (by simp)
  have htable := table_run (pre ++ .advance i :: post) sound_start
  rw [traces_append] at htable
  show (start.run (pre ++ .advance i :: post)).table.answers i = _
  rw [htable]
  show (Table.empty.run (start.traces pre ++ ((start.run pre).trace (.advance i)
    ++ ((start.run pre).step (.advance i)).traces post))).answers i = _
  rw [hstep.1, hstep.2]
  exact answers_run hbefore hafter

end Replies

/-! ## §5. Serials. -/

/-- The invariant while there are fewer than 2^32 messages: the counter counts
    the serials drawn, and none was drawn twice. -/
structure Numbered (s : PendingCalls) : Prop where
  count : s.serial.toNat = s.sendings.countP fun sending => sending.serial != 0
  bound : ∀ (i : Nat) (sending : Sending), s.sendings[i]? = some sending →
    sending.serial.toNat ≤ s.serial.toNat
  distinct : ∀ (i j : Nat) (sending sending' : Sending), s.sendings[i]? = some sending →
    s.sendings[j]? = some sending' → sending.serial = sending'.serial → sending.serial ≠ 0 → i = j
  drawn : ∀ (i : Nat) (sending : Sending), s.sendings[i]? = some sending →
    sending.pc ≠ .generate → sending.pc ≠ .renumber → sending.serial ≠ 0
  kept : ∀ (i : Nat) (sending : Sending) (k : BitVec 32), s.sendings[i]? = some sending →
    sending.key = some k → sending.serial = k ∧ k ≠ 0

theorem numbered_start : start.Numbered where
  count := rfl
  bound := fun i sending h => by cases h
  distinct := fun i j sending sending' h => by cases h
  drawn := fun i sending h => by cases h
  kept := fun i sending k h => by cases h

section Numbers

variable {s : PendingCalls}

/-- A new sending has no serial yet. -/
theorem Numbered.append (h : s.Numbered) {new : Sending} (hserial : new.serial = 0)
    (hkey : new.key = none) (hpc : new.pc = .generate ∨ new.pc = .renumber) :
    Numbered { s with sendings := s.sendings ++ [new] } := by
  have hold : ∀ (i : Nat) (sending : Sending), (s.sendings ++ [new])[i]? = some sending →
      s.sendings[i]? = some sending ∨ sending = new := by
    intro i sending hget
    rw [List.getElem?_append] at hget
    split_ifs at hget with hlt
    · exact Or.inl hget
    · rw [List.getElem?_singleton] at hget
      split_ifs at hget
      exact Or.inr (Option.some.inj hget).symm
  refine ⟨?_, ?_, ?_, ?_, ?_⟩
  · show s.serial.toNat = (s.sendings ++ [new]).countP _
    rw [List.countP_append, ← h.count, List.countP_singleton, hserial]
    rfl
  · intro i sending hi
    rcases hold i sending hi with hi | rfl
    · exact h.bound i sending hi
    · rw [hserial]
      exact Nat.zero_le _
  · intro i j sending sending' hi hj heq hne
    rcases hold i sending hi with hi | rfl
    · rcases hold j sending' hj with hj | rfl
      · exact h.distinct i j sending sending' hi hj heq hne
      · exact absurd (heq.trans hserial) hne
    · exact absurd hserial hne
  · intro i sending hi hgen hren
    rcases hold i sending hi with hi | rfl
    · exact h.drawn i sending hi hgen hren
    · rcases hpc with hpc | hpc
      · exact absurd hpc hgen
      · exact absurd hpc hren
  · intro i sending k hi hk
    rcases hold i sending hi with hi | rfl
    · exact h.kept i sending k hi hk
    · rw [hkey] at hk
      cases hk

/-- A sending moves on: with the serial it has, or with one that is drawn. -/
theorem Numbered.set (h : s.Numbered) {s' : PendingCalls} {i : Nat} {sending moved : Sending}
    (hi : s.sendings[i]? = some sending) (hs' : s'.sendings = s.sendings.set i moved)
    (hne : moved.serial ≠ 0) (hkey : ∀ k, moved.key = some k → moved.serial = k)
    (hcase : moved.serial = sending.serial ∧ s'.serial = s.serial
      ∨ sending.serial = 0 ∧ moved.serial = s'.serial ∧ s'.serial.toNat = s.serial.toNat + 1) :
    s'.Numbered := by
  have hget : ∀ (j : Nat) (other : Sending), s'.sendings[j]? = some other →
      j = i ∧ other = moved ∨ j ≠ i ∧ s.sendings[j]? = some other := by
    intro j other hj
    rw [hs', getElem?_set_of_some hi] at hj
    split_ifs at hj with hij
    · exact Or.inl ⟨hij, (Option.some.inj hj).symm⟩
    · exact Or.inr ⟨hij, hj⟩
  have hle : s.serial.toNat ≤ s'.serial.toNat := by
    rcases hcase with ⟨-, hsame⟩ | ⟨-, -, hmore⟩
    · rw [hsame]
    · omega
  have hmoved : moved.serial.toNat ≤ s'.serial.toNat := by
    rcases hcase with ⟨hold, hsame⟩ | ⟨-, hnew, -⟩
    · rw [hold, hsame]
      exact h.bound i sending hi
    · rw [hnew]
  -- no other sending has the serial
  have hother : ∀ (j : Nat) (other : Sending), j ≠ i → s.sendings[j]? = some other →
      other.serial ≠ moved.serial := by
    intro j other hj hget heq
    rcases hcase with ⟨hold, -⟩ | ⟨-, hnew, hmore⟩
    · exact hj (h.distinct j i other sending hget hi (heq.trans hold) (by rwa [heq]))
    · have hbound := h.bound j other hget
      rw [heq, hnew] at hbound
      omega
  refine ⟨?_, ?_, ?_, ?_, ?_⟩
  · obtain ⟨hlt, hat⟩ := List.getElem?_eq_some_iff.mp hi
    have hcount := h.count
    have hset := List.countP_set (p := fun sending : Sending => sending.serial != 0)
      (a := moved) hlt
    have hnew : (moved.serial != 0) = true := bne_iff_ne.mpr hne
    rw [hat, hnew, if_pos rfl] at hset
    rw [hs', hset]
    rcases hcase with ⟨hold, hsame⟩ | ⟨hzero, -, hmore⟩
    · have hcounted : (sending.serial != 0) = true := by rw [← hold]; exact hnew
      have hpos : 0 < s.sendings.countP fun sending => sending.serial != 0 :=
        List.countP_pos_iff.mpr ⟨sending, List.mem_of_getElem? hi, hcounted⟩
      rw [hcounted, if_pos rfl, hsame]
      omega
    · have hcounted : (sending.serial != 0) = false := by rw [hzero]; rfl
      rw [hcounted, if_neg (by simp)]
      omega
  · intro j other hj
    rcases hget j other hj with ⟨-, rfl⟩ | ⟨-, hj⟩
    · exact hmoved
    · exact le_trans (h.bound j other hj) hle
  · intro j j' other other' hj hj' heq hother0
    rcases hget j other hj with ⟨rfl, rfl⟩ | ⟨hne₁, hj⟩
    · rcases hget j' other' hj' with ⟨rfl, -⟩ | ⟨hne₂, hj'⟩
      · rfl
      · exact absurd heq.symm (hother j' other' hne₂ hj')
    · rcases hget j' other' hj' with ⟨rfl, rfl⟩ | ⟨hne₂, hj'⟩
      · exact absurd heq (hother j other hne₁ hj)
      · exact h.distinct j j' other other' hj hj' heq hother0
  · intro j other hj hgen hren
    rcases hget j other hj with ⟨-, rfl⟩ | ⟨-, hj⟩
    · exact hne
    · exact h.drawn j other hj hgen hren
  · intro j other k hj hk
    rcases hget j other hj with ⟨-, rfl⟩ | ⟨-, hj⟩
    · exact ⟨hkey k hk, by rw [← hkey k hk]; exact hne⟩
    · exact h.kept j other k hj hk

/-- Drawing a serial, while there are fewer than 2^32 messages. -/
theorem Numbered.number (h : s.Numbered) {i : Nat} {sending : Sending} {next : SendPc}
    (hi : s.sendings[i]? = some sending) (hlength : s.sendings.length < 2 ^ 32) :
    (s.number i sending next).Numbered := by
  unfold PendingCalls.number
  split_ifs with hzero
  · -- one sending has no serial, so the counter is below the number of sendings
    have hbelow : (s.sendings.countP fun sending => sending.serial != 0) < s.sendings.length :=
      List.countP_lt_length_iff.mpr ⟨sending, List.mem_of_getElem? hi, by rw [hzero]; rfl⟩
    have hcount := h.count
    have hnext : (s.serial + 1).toNat = s.serial.toNat + 1 := by
      rw [BitVec.toNat_add]
      show (s.serial.toNat + 1) % 2 ^ 32 = _
      omega
    refine h.set hi rfl ?_ ?_ (Or.inr ⟨hzero, rfl, hnext⟩)
    · intro heq
      have hval := congrArg BitVec.toNat heq
      rw [hnext] at hval
      cases hval
    · intro k hk
      have hkept := h.kept i sending k hi hk
      rw [hzero] at hkept
      exact absurd hkept.1.symm hkept.2
  · exact h.set hi rfl hzero (fun k hk => (h.kept i sending k hi hk).1) (Or.inl ⟨rfl, rfl⟩)

/-- **Serials stay distinct** while there are fewer than 2^32 messages. -/
theorem Numbered.step (h : s.Numbered) (hsound : s.Sound) (e : SendEvent)
    (hlength : s.sendings.length < 2 ^ 32) : (s.step e).Numbered := by
  cases e with
  | sendWithReply => exact h.append rfl rfl (Or.inl rfl)
  | send => exact h.append rfl rfl (Or.inr rfl)
  | handle msg =>
      obtain ⟨-, hsendings, hserial, -, -⟩ := hsound.handleReply msg
      show (s.handleReply msg).Numbered
      refine ⟨?_, ?_, ?_, ?_, ?_⟩
      · rw [hsendings, hserial]
        exact h.count
      · rw [hsendings, hserial]
        exact h.bound
      · rw [hsendings]
        exact h.distinct
      · rw [hsendings]
        exact h.drawn
      · rw [hsendings]
        exact h.kept
  | advance i =>
      show (s.advance i).Numbered
      rcases s.advance_cases i with ⟨hs, -⟩ | ⟨sending, hi, ⟨next, -, hs, -⟩ | ⟨hpc, hs, -⟩ | ⟨hpc, hs, -⟩⟩
      · rw [hs]
        exact h
      · rw [hs]
        exact h.number hi hlength
      · rw [hs]
        refine h.set hi rfl ?_ ?_ (Or.inl ⟨rfl, rfl⟩)
        · exact h.drawn i sending hi (by rw [hpc]; simp) (by rw [hpc]; simp)
        · intro k hk
          exact Option.some.inj hk
      · rw [hs]
        refine h.set hi rfl ?_ ?_ (Or.inl ⟨rfl, rfl⟩)
        · exact h.drawn i sending hi (by rw [hpc]; simp) (by rw [hpc]; simp)
        · intro k hk
          exact (h.kept i sending k hi hk).1

theorem length_step (s : PendingCalls) (e : SendEvent) :
    s.sendings.length ≤ (s.step e).sendings.length := by
  rcases s.sendings_step e with hs | ⟨pc, -, hs⟩ | ⟨j, sending, moved, -, -, -, hs⟩
  · rw [hs]
  · rw [hs, List.length_append]
    omega
  · rw [hs, List.length_set]

theorem length_run (s : PendingCalls) (es : List SendEvent) :
    s.sendings.length ≤ (s.run es).sendings.length := by
  induction es generalizing s with
  | nil => exact le_refl _
  | cons e es ih => exact le_trans (s.length_step e) (ih (s.step e))

theorem numbered_run (es : List SendEvent) (h : s.Numbered) (hsound : s.Sound)
    (hlength : (s.run es).sendings.length < 2 ^ 32) : (s.run es).Numbered := by
  induction es generalizing s with
  | nil => exact h
  | cons e es ih =>
      have hnow := s.length_run (e :: es)
      exact ih (h.step hsound e (by omega)) (hsound.step e) hlength

end Numbers

/-! ## §6. Every call gets its own answer. -/

/-- What was written, with the serials, and is done. -/
def Written (s : PendingCalls) : Prop :=
  ∀ i k, (i, k) ∈ s.written →
    ∃ sending, s.sendings[i]? = some sending ∧ sending.pc = .done ∧ sending.serial = k

section Exact

variable {s : PendingCalls} {i : Nat} {sending : Sending} {k : BitVec 32}

/-- A sending that is done does not move. -/
theorem done_step (e : SendEvent) (hi : s.sendings[i]? = some sending) (hpc : sending.pc = .done) :
    (s.step e).sendings[i]? = some sending := by
  rcases sending_step e hi with hi' | ⟨moved, -, hadv, -⟩
  · exact hi'
  · cases hadv with
    | generate h => rw [hpc] at h; cases h
    | register h => rw [hpc] at h; cases h
    | renumber h => rw [hpc] at h; cases h
    | write h => rw [hpc] at h; cases h

theorem done_run (es : List SendEvent) (hi : s.sendings[i]? = some sending)
    (hpc : sending.pc = .done) : (s.run es).sendings[i]? = some sending := by
  induction es generalizing s with
  | nil => exact hi
  | cons e es ih => exact ih (done_step e hi hpc)

/-- **What was written stays as it was written.** -/
theorem Written.step (h : s.Written) (hsound : s.Sound) (e : SendEvent) : (s.step e).Written := by
  have hold : ∀ i k, (i, k) ∈ s.written →
      ∃ sending, (s.step e).sendings[i]? = some sending ∧ sending.pc = .done
        ∧ sending.serial = k := by
    intro i k hmem
    obtain ⟨sending, hi, hpc, hserial⟩ := h i k hmem
    exact ⟨sending, done_step e hi hpc, hpc, hserial⟩
  intro i k hmem
  cases e with
  | sendWithReply => exact hold i k hmem
  | send => exact hold i k hmem
  | handle msg =>
      rw [show (s.step (.handle msg)).written = s.written from (hsound.handleReply msg).2.2.2.1]
        at hmem
      exact hold i k hmem
  | advance j =>
      replace hmem : (i, k) ∈ (s.advance j).written := hmem
      rcases s.advance_cases j with ⟨hs, -⟩ | ⟨moved, hj, ⟨next, -, hs, -⟩ | ⟨-, hs, -⟩ | ⟨-, hs, -⟩⟩
      · rw [hs] at hmem
        exact hold i k hmem
      · have hwritten : (s.number j moved next).written = s.written := by
          unfold number
          split_ifs <;> rfl
        rw [hs, hwritten] at hmem
        exact hold i k hmem
      · rw [hs] at hmem
        exact hold i k hmem
      · rw [hs] at hmem
        rcases List.mem_append.mp hmem with hmem | hmem
        · exact hold i k hmem
        · rw [List.mem_singleton, Prod.mk.injEq] at hmem
          rw [hmem.1, hmem.2]
          refine ⟨{ moved with pc := .done }, ?_, rfl, rfl⟩
          show (s.advance j).sendings[j]? = _
          rw [hs, sendings_write hj, if_pos rfl]

theorem written_run (es : List SendEvent) (h : s.Written) (hsound : s.Sound) :
    (s.run es).Written := by
  induction es generalizing s with
  | nil => exact h
  | cons e es ih => exact ih (h.step hsound e) (hsound.step e)

/-- Where a pending call comes from. -/
theorem key_before {e : SendEvent} (hi : (s.step e).sendings[i]? = some sending)
    (hkey : sending.key = some k) :
    (∃ before, s.sendings[i]? = some before ∧ before.key = some k)
      ∨ e = .advance i ∧ ∃ before, s.sendings[i]? = some before ∧ before.pc = .register
        ∧ before.serial = k := by
  rcases sending_before hi with hi | ⟨pc, -, rfl⟩ | ⟨before, he, hbefore, hadv⟩
  · exact Or.inl ⟨sending, hi, hkey⟩
  · cases hkey
  · cases hadv with
    | generate hpc => exact Or.inl ⟨before, hbefore, hkey⟩
    | register hpc => exact Or.inr ⟨he, before, hbefore, hpc, Option.some.inj hkey⟩
    | renumber hpc => exact Or.inl ⟨before, hbefore, hkey⟩
    | write hpc => exact Or.inl ⟨before, hbefore, hkey⟩

/-- Every pending call was registered at some step of the run. -/
theorem registered_in (es : List SendEvent) (hi : (start.run es).sendings[i]? = some sending)
    (hkey : sending.key = some k) :
    ∃ pre post before, es = pre ++ .advance i :: post
      ∧ (start.run pre).sendings[i]? = some before ∧ before.pc = .register ∧ before.serial = k := by
  induction es using List.reverseRecOn generalizing sending with
  | nil => cases hi
  | append_singleton es e ih =>
      rw [run_append] at hi
      replace hi : ((start.run es).step e).sendings[i]? = some sending := hi
      rcases key_before hi hkey with
        ⟨before, hbefore, hk⟩ | ⟨rfl, before, hbefore, hpc, hserial⟩
      · obtain ⟨pre, post, first, hes, hfirst⟩ := ih hbefore hk
        refine ⟨pre, post ++ [e], first, ?_, hfirst⟩
        rw [hes, List.append_assoc]
        rfl
      · exact ⟨es, [], before, rfl, hbefore, hpc, hserial⟩

/-- The first message that answers a serial. -/
def firstReply (k : BitVec 32) : List SendEvent → Option Protocol.Message
  | [] => none
  | .handle msg :: es => if replySerialOf msg = some k then some msg else firstReply k es
  | _ :: es => firstReply k es

/-- While serials are distinct, nothing else is registered under the serial of
    a pending call. -/
theorem firstAnswer_traces (es : List SendEvent) (hsound : s.Sound) (hnumbered : s.Numbered)
    (hi : s.sendings[i]? = some sending) (hkey : sending.key = some k)
    (hlength : (s.run es).sendings.length < 2 ^ 32) :
    firstAnswer k (s.traces es) = firstReply k es := by
  induction es generalizing s sending with
  | nil => rfl
  | cons e es ih =>
      have hlen := s.length_run (e :: es)
      obtain ⟨sending', hi', hkey'⟩ := hsound.key_step e hi (by rw [hkey]; simp)
      have hrest := ih (hsound.step e) (hnumbered.step hsound e (by omega)) hi'
        (hkey'.trans hkey) hlength
      show firstAnswer k (s.trace e ++ (s.step e).traces es) = _
      cases e with
      | sendWithReply => exact hrest
      | send => exact hrest
      | handle msg =>
          have htrace : s.trace (.handle msg)
              = (replySerialOf msg).toList.map fun serial => Event.answer serial msg := rfl
          rw [htrace, firstReply]
          cases hserial : replySerialOf msg with
          | none => exact hrest
          | some serial =>
              show (if serial = k then some msg
                else firstAnswer k ((s.step (.handle msg)).traces es)) = _
              rw [hrest]
              simp only [Option.some.injEq]
      | advance j =>
          show _ = firstReply k es
          rw [← hrest]
          rcases s.advance_cases j with
            ⟨-, ht⟩ | ⟨moved, hj, ⟨next, -, -, ht⟩ | ⟨hpc, -, ht⟩ | ⟨-, -, ht⟩⟩
          · rw [ht]
            rfl
          · rw [ht]
            rfl
          · -- a sending with the same serial would be the same sending
            have hne : moved.serial ≠ k := by
              intro heq
              obtain ⟨hserial, hzero⟩ := hnumbered.kept i sending k hi hkey
              have hij := hnumbered.distinct i j sending moved hi hj (hserial.trans heq.symm)
                (by rwa [hserial])
              rw [← hij, hi, Option.some.injEq] at hj
              exact (hsound.entered i sending hi (by rw [hkey]; simp)).2 (by rw [hj, hpc])
            rw [ht]
            show (if moved.serial = k then none else _) = _
            rw [if_neg hne]
            rfl
          · rw [ht]
            rfl

theorem firstReply_eq_some {es : List SendEvent} {msg : Protocol.Message}
    (h : firstReply k es = some msg) : .handle msg ∈ es ∧ replySerialOf msg = some k := by
  induction es with
  | nil => cases h
  | cons e es ih =>
      have hskip : firstReply k es = some msg → .handle msg ∈ e :: es ∧ replySerialOf msg = some k :=
        fun hrest => ⟨List.mem_cons_of_mem _ (ih hrest).1, (ih hrest).2⟩
      cases e with
      | sendWithReply => exact hskip h
      | send => exact hskip h
      | advance j => exact hskip h
      | handle first =>
          rw [firstReply] at h
          split_ifs at h with hfirst
          · rw [← Option.some.inj h]
            exact ⟨by simp, hfirst⟩
          · exact hskip h

theorem exists_firstReply {es : List SendEvent} {msg : Protocol.Message}
    (hmem : .handle msg ∈ es) (hserial : replySerialOf msg = some k) :
    ∃ first, firstReply k es = some first := by
  induction es with
  | nil => exact absurd hmem List.not_mem_nil
  | cons e es ih =>
      have hrest : SendEvent.handle msg ≠ e → ∃ first, firstReply k es = some first := by
        intro hne
        rcases List.mem_cons.mp hmem with heq | hmem
        · exact absurd heq hne
        · exact ih hmem
      cases e with
      | sendWithReply => exact hrest (by simp)
      | send => exact hrest (by simp)
      | advance j => exact hrest (by simp)
      | handle first =>
          rw [firstReply]
          split_ifs with hfirst
          · exact ⟨first, rfl⟩
          · refine hrest ?_
            intro heq
            rw [SendEvent.handle.injEq] at heq
            exact hfirst (by rw [← heq, hserial])

/-- The serial that a handled message answers. -/
def handledSerial : SendEvent → Option (BitVec 32)
  | .handle msg => replySerialOf msg
  | _ => none

/-- A peer that answers what was written, each message at most once. -/
structure PeerAnswers (es : List SendEvent) : Prop where
  written : ∀ pre msg post k, es = pre ++ .handle msg :: post → replySerialOf msg = some k →
    ∃ i, (i, k) ∈ (start.run pre).written
  once : (es.filterMap handledSerial).Nodup

/-- Two answers to one serial are the same. -/
theorem PeerAnswers.unique {es : List SendEvent} (h : (es.filterMap handledSerial).Nodup)
    {msg msg' : Protocol.Message} (hmem : .handle msg ∈ es) (hmem' : .handle msg' ∈ es)
    (hserial : replySerialOf msg = some k) (hserial' : replySerialOf msg' = some k) :
    msg = msg' := by
  induction es with
  | nil => exact absurd hmem List.not_mem_nil
  | cons e es ih =>
      have hin : ∀ m : Protocol.Message, .handle m ∈ es → replySerialOf m = some k →
          k ∈ es.filterMap handledSerial := fun m hm hk => List.mem_filterMap.mpr ⟨_, hm, hk⟩
      rw [List.filterMap_cons] at h
      rcases List.mem_cons.mp hmem with rfl | htail
      · rw [show handledSerial (.handle msg) = some k from hserial, List.nodup_cons] at h
        rcases List.mem_cons.mp hmem' with heq | htail'
        · exact (SendEvent.handle.inj heq).symm
        · exact absurd (hin msg' htail' hserial') h.1
      · rcases List.mem_cons.mp hmem' with rfl | htail'
        · rw [show handledSerial (.handle msg') = some k from hserial', List.nodup_cons] at h
          exact absurd (hin msg htail hserial) h.1
        · refine ih ?_ htail htail'
          split at h
          · exact h
          · exact (List.nodup_cons.mp h).2

/-- **Every call gets its own answer and no other**, in any order of the steps
    of any number of threads: with fewer than 2^32 messages, and a peer that
    answers what was written, each message at most once. -/
theorem replies_exact {es : List SendEvent} (hpeer : PeerAnswers es)
    (hlength : (start.run es).sendings.length < 2 ^ 32)
    (hi : (start.run es).sendings[i]? = some sending) (msg : Protocol.Message) :
    (start.run es).replies i = some msg
      ↔ sending.key ≠ none ∧ .handle msg ∈ es ∧ replySerialOf msg = some sending.serial := by
  have hnumbered := numbered_run es numbered_start sound_start hlength
  cases hkey : sending.key with
  | none =>
      rw [replies_run_none es hi hkey]
      simp
  | some k =>
      obtain ⟨pre, post, before, rfl, hbefore, hpc, rfl⟩ := registered_in es hi hkey
      have hserial := (hnumbered.kept i sending _ hi hkey).1
      have hsound := sound_run pre sound_start
      have hlater := hsound.step (.advance i)
      have hrun : start.run (pre ++ .advance i :: post)
          = ((start.run pre).step (.advance i)).run post := run_append _ _ _
      have hlen : (start.run pre).sendings.length < 2 ^ 32 := by
        have hfirst := (start.run pre).length_step (.advance i)
        have hrest := ((start.run pre).step (.advance i)).length_run post
        rw [← hrun] at hrest
        omega
      have hthen := numbered_run pre numbered_start sound_start hlen
      -- the reply is the first behind the registration
      have hreply : (start.run (pre ++ .advance i :: post)).replies i
          = firstReply before.serial post := by
        have hnow := hthen.step hsound (.advance i) hlen
        rw [hrun] at hlength
        rw [replies_run hbefore hpc]
        rw [(step_register hbefore hpc).1] at hlater hlength hnow
        exact firstAnswer_traces post hlater hnow
          (by rw [sendings_register hbefore, if_pos rfl]) rfl hlength
      rw [hreply, hserial]
      constructor
      · intro hfirst
        obtain ⟨hmem, hk⟩ := firstReply_eq_some hfirst
        exact ⟨by simp, List.mem_append_right _ (List.mem_cons_of_mem _ hmem), hk⟩
      · intro h
        obtain ⟨-, hmem, hk⟩ := h
        -- an answer in front of the registration would answer what was not yet written
        have hpost : .handle msg ∈ post := by
          rcases List.mem_append.mp hmem with hfront | hback
          · exfalso
            obtain ⟨a, b, rfl⟩ := List.append_of_mem hfront
            obtain ⟨j, hj⟩ := hpeer.written a msg (b ++ .advance i :: post) before.serial
              (by rw [List.append_assoc]; rfl) hk
            obtain ⟨sent, hsent, hdone, hsame⟩ :=
              written_run a (fun _ _ h => absurd h List.not_mem_nil) sound_start j _ hj
            have hstill := done_run (.handle msg :: b) hsent hdone
            rw [← run_append] at hstill
            have hne := hthen.drawn i before hbefore (by rw [hpc]; simp) (by rw [hpc]; simp)
            have hij := hthen.distinct i j before sent hbefore hstill hsame.symm hne
            rw [← hij, hbefore, Option.some.injEq] at hstill
            rw [← hstill, hpc] at hdone
            cases hdone
          · rcases List.mem_cons.mp hback with heq | hback
            · cases heq
            · exact hback
        obtain ⟨first, hfirst⟩ := exists_firstReply hpost hk
        obtain ⟨hmem', hk'⟩ := firstReply_eq_some hfirst
        rw [hfirst, PeerAnswers.unique hpeer.once hmem
          (List.mem_append_right _ (List.mem_cons_of_mem _ hmem')) hk hk']

/-- The second of two calls is answered before the first is registered. -/
theorem replies_exact_second :
    (start.run [.sendWithReply, .sendWithReply, .advance 0, .advance 1, .advance 1, .advance 1,
        .advance 1, .handle (({ type := MessageType.methodReturn, replySerial := some 2, signature := some [] }
          : MessageContainer).exportToMessage .littleEndian)]).replies 1
      = some (({ type := MessageType.methodReturn, replySerial := some 2, signature := some [] }
          : MessageContainer).exportToMessage .littleEndian) := by
  generalize hm : (({ type := MessageType.methodReturn, replySerial := some 2
                      signature := some [] } : MessageContainer).exportToMessage .littleEndian) = m
  have hserial : replySerialOf m = some 2 := by
    rw [← hm]
    rfl
  have hpeer : PeerAnswers [.sendWithReply, .sendWithReply, .advance 0, .advance 1, .advance 1,
      .advance 1, .advance 1, .handle m] := by
    refine ⟨?_, ?_⟩
    · intro pre msg post k hsplit hk
      rcases pre with _ | ⟨_, _ | ⟨_, _ | ⟨_, _ | ⟨_, _ | ⟨_, _ | ⟨_, _ | ⟨_, _ | ⟨_, _⟩⟩⟩⟩⟩⟩⟩⟩ <;>
        simp at hsplit
      obtain ⟨rfl, rfl, rfl, rfl, rfl, rfl, rfl, rfl, -⟩ := hsplit
      rw [hserial, Option.some.injEq] at hk
      rw [← hk]
      exact ⟨1, by decide⟩
    · show (List.filterMap handledSerial [.handle m]).Nodup
      rw [List.filterMap_cons_some (show handledSerial (.handle m) = some 2 from hserial)]
      exact List.nodup_singleton _
  -- handling a reply moves no sending
  have hsendings : (start.run [.sendWithReply, .sendWithReply, .advance 0, .advance 1, .advance 1,
      .advance 1, .advance 1, .handle m]).sendings = [⟨.register, 1, none⟩, ⟨.done, 2, some 2⟩] :=
    ((sound_run [.sendWithReply, .sendWithReply, .advance 0, .advance 1, .advance 1, .advance 1,
      .advance 1] sound_start).handleReply m).2.1
  have hsecond : (start.run [.sendWithReply, .sendWithReply, .advance 0, .advance 1, .advance 1,
      .advance 1, .advance 1, .handle m]).sendings[1]? = some ⟨.done, 2, some 2⟩ := by
    rw [hsendings]
    rfl
  exact (replies_exact hpeer (by rw [hsendings]; decide) hsecond m).mpr ⟨by simp, by simp, hserial⟩

end Exact

/-! ## §7. The serial after the last. -/

/-- The call of a sending waits under a serial, or will from its next
    statement on. -/
def WaitsUnder (s : PendingCalls) (i : Nat) (k : BitVec 32) : Prop :=
  ∃ sending, s.sendings[i]? = some sending
    ∧ (sending.pc = .register ∧ sending.serial = k ∨ sending.key = some k)

section Wrap

variable {s : PendingCalls} {i : Nat} {sending : Sending} {k : BitVec 32}

/-- **A call waits under the serial that was drawn for it.** -/
theorem Sound.waitsUnder_step (h : s.Sound) (hk : s.WaitsUnder i k) (e : SendEvent) :
    (s.step e).WaitsUnder i k := by
  obtain ⟨sending, hi, hwaits⟩ := hk
  rcases sending_step e hi with hi' | ⟨moved, -, hadv, hi'⟩
  · exact ⟨sending, hi', hwaits⟩
  · refine ⟨moved, hi', Or.inr ?_⟩
    have hkey : sending.pc ≠ .register → sending.key = some k := fun hpc =>
      hwaits.resolve_left fun hregister => hpc hregister.1
    cases hadv with
    | generate hpc => exact hkey (by rw [hpc]; simp)
    | register hpc =>
        rcases hwaits with ⟨-, rfl⟩ | hsome
        · rfl
        · exact absurd hpc (h.entered i sending hi (by rw [hsome]; simp)).2
    | renumber hpc => exact hkey (by rw [hpc]; simp)
    | write hpc => exact hkey (by rw [hpc]; simp)

/-- A call that waits under a serial, and has no reply, gets none from messages
    that do not name the serial. -/
theorem Sound.unanswered_run (h : s.Sound) (hk : s.WaitsUnder i k) (hnone : s.replies i = none)
    {es : List SendEvent} (hes : ∀ msg, .handle msg ∈ es → replySerialOf msg ≠ some k) :
    (s.run es).replies i = none := by
  induction es generalizing s with
  | nil => exact hnone
  | cons e es ih =>
      refine ih (h.step e) (h.waitsUnder_step hk e) ?_
        fun msg hmem => hes msg (List.mem_cons_of_mem _ hmem)
      show (s.step e).table.answers i = none
      rw [h.table_step e]
      rcases s.trace_cases e with ht | ⟨j, moved, -, -, ht, -⟩ | ⟨serial, msg, rfl, hserial, ht⟩
      · rw [ht]
        exact hnone
      · rw [ht]
        exact hnone
      · rw [ht]
        show (s.table.step (.answer serial msg)).answers i = none
        rw [Table.answers_answer, if_neg ?_]
        · exact hnone
        · -- what waits under the serial of the message is another call
          intro hout
          obtain ⟨waiting, hi, hkey⟩ := h.waiting serial i hout
          obtain ⟨sending, hi', hwaits⟩ := hk
          rw [hi, Option.some.injEq] at hi'
          rw [← hi'] at hwaits
          rcases hwaits with ⟨hpc, -⟩ | hsome
          · exact (h.entered i waiting hi (by rw [hkey]; simp)).2 hpc
          · rw [hkey] at hsome
            exact hes msg List.mem_cons_self (hserial.trans hsome)

/-- A sending that has not drawn a serial is as it began. -/
theorem generate_run (es : List SendEvent) (hi : (start.run es).sendings[i]? = some sending)
    (hpc : sending.pc = .generate) : sending = ⟨.generate, 0, none⟩ := by
  induction es using List.reverseRecOn generalizing sending with
  | nil => cases hi
  | append_singleton es e ih =>
      rw [run_append] at hi
      replace hi : ((start.run es).step e).sendings[i]? = some sending := hi
      rcases sending_before hi with hi | ⟨pc, -, rfl⟩ | ⟨before, -, -, hadv⟩
      · exact ih hi hpc
      · rw [← hpc]
      · cases hadv <;> cases hpc

/-- The step that draws a serial. -/
theorem step_generate (hi : s.sendings[i]? = some ⟨.generate, 0, none⟩) :
    s.step (.advance i) = { s with
      serial := s.serial + 1
      sendings := s.sendings.set i ⟨.register, s.serial + 1, none⟩ } := by
  show s.advance i = _
  rw [advance, hi]
  rfl

theorem sendings_generate (hi : s.sendings[i]? = some ⟨.generate, 0, none⟩) :
    (s.step (.advance i)).sendings[i]? = some ⟨.register, s.serial + 1, none⟩ := by
  rw [step_generate hi, getElem?_set_of_some hi, if_pos rfl]

/-- A call that draws a serial has no reply unless a message names it. -/
theorem unanswered_of_drawn {pre es : List SendEvent}
    (hi : (start.run pre).sendings[i]? = some sending) (hpc : sending.pc = .generate)
    (hes : ∀ msg, .handle msg ∈ es → replySerialOf msg ≠ some ((start.run pre).serial + 1)) :
    (start.run (pre ++ .advance i :: es)).replies i = none := by
  have hsound := sound_run pre sound_start
  rw [generate_run pre hi hpc] at hi
  have hnone : (start.run pre).replies i = none := by
    by_contra hne
    obtain ⟨sending', hi', hkey⟩ := hsound.answered i hne
    rw [hi, Option.some.injEq] at hi'
    exact hkey (by rw [← hi'])
  have hreplies : ((start.run pre).step (.advance i)).replies i = none := by
    rw [step_generate hi]
    exact hnone
  rw [run_append]
  exact (hsound.step (.advance i)).unanswered_run
    ⟨_, sendings_generate hi, Or.inl ⟨rfl, rfl⟩⟩ hreplies hes

/-- The counter comes to every value, with a call about to draw the next. -/
theorem serial_reached (n : Nat) :
    ∃ pre, ∃ i : Nat, (start.run pre).sendings[i]? = some ⟨.generate, 0, none⟩
      ∧ (start.run pre).serial = BitVec.ofNat 32 n := by
  induction n with
  | zero => exact ⟨[.sendWithReply], 0, rfl, rfl⟩
  | succ n ih =>
      obtain ⟨pre, i, hi, hserial⟩ := ih
      refine ⟨pre ++ [.advance i, .sendWithReply], (start.run pre).sendings.length, ?_, ?_⟩
      · rw [run_append]
        show (((start.run pre).step (.advance i)).sendings ++ [_])[_]? = _
        rw [step_generate hi, List.getElem?_append_right (by rw [List.length_set]),
            List.length_set, Nat.sub_self]
        rfl
      · rw [run_append]
        show ((start.run pre).step (.advance i)).serial = _
        rw [step_generate hi, BitVec.ofNat_add, ← hserial]
        rfl

/-- So there are calls that no message answers, unless it names the serial 0. -/
theorem call_lost :
    ∃ pre, ∃ i : Nat, ∀ es, (∀ msg, .handle msg ∈ es → replySerialOf msg ≠ some 0) →
      (start.run (pre ++ .advance i :: es)).replies i = none := by
  obtain ⟨pre, i, hi, hserial⟩ := serial_reached 4294967295
  refine ⟨pre, i, fun es hes => unanswered_of_drawn hi rfl ?_⟩
  rw [hserial]
  exact hes

end Wrap

end PendingCalls

end SapDbLib
