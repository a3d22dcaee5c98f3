/-
  SapDbLib.Server.Startup — MAIN, THE CONNECTION AND WHAT ARRIVES MEANWHILE.

  `Program.Main` of the server from `Register` on, as a state machine: one
  event is either an arrival on the transport or one step of the program.
  `RequestName` is a blocking call, and the loop of `PendingCall.Reply`
  handles every message it reads, method calls included, until its own reply
  is there.  Only then are the two fields of the server object set.

    * `Phase` — what each program point says about the fields;
    * `phase_mainStep` — every step keeps it;
    * `served_mainStep` — which step runs a body, and on which fields;
    * `servedConfigured_iff` — **all bodies of a run found their fields set
      exactly when no step of the run served a call too early**.
-/
import SapDbLib.Server.Dispatch
import SapDbLib.Library.Run

namespace SapDbLib

open Library

/-! ## §1. The state. -/

/-- A message as `HandleMessage` classifies it: by its `ReplySerial` first,
    then by its type. -/
inductive Message where
  | methodReturn (replySerial : Nat)
  | errorReply (replySerial : Nat)
  | methodCall (call : MethodCall)
  | signal
  | error
  | invalid

/-- What `ReadMessage` comes back with. -/
inductive Arrival where
  | message (msg : Message)
  /-- The end of the stream: a `null` message. -/
  | endOfStream
  /-- An `IOException`: a `null` message, and the connection counts as lost. -/
  | ioError

/-- The statements of `Main` from `Register` on. -/
inductive MainPc where
  | register
  | requestName
  | awaitReply
  | checkConnected
  | setDestConfig
  | setRfcDestination
  | iterate
  /-- Ended by an unhandled exception. -/
  | terminated
  deriving DecidableEq, Repr

/-- The outcome of a pending call. -/
inductive CallReply where
  | methodReturn
  | error
  deriving DecidableEq, Repr

/-- A body that ran, and the server object as it found it. -/
structure Served where
  method : IfaceServer
  server : SapServerQuery

/-- The server process. -/
structure Program where
  pc : MainPc
  isConnected : Bool
  transport : List Arrival
  pendingCalls : List Nat
  reply : Option CallReply
  conn : Connection
  myserver : SapServerQuery
  console : List Text
  sent : List QDBusMessage
  served : List Served

/-- The two console texts of the connection check. -/
def connectedText : Text := text "D-Bus connected\n"

def disconnectedText : Text := text "D-Bus disconnected"

/-- Before `Register`: the bus is open, nothing is registered. -/
def Program.start (machineId : Option Text) (introspect : Text → Text) : Program :=
  { pc := .register
    isConnected := true
    transport := []
    pendingCalls := []
    reply := none
    conn := { registeredObjects := fun _ => none, machineId := machineId, introspect := introspect }
    myserver := SapServerQuery.new
    console := []
    sent := []
    served := [] }

/-! ## §2. The steps. -/

/-- `HandleMessage`. -/
def Program.handleMessage (p : Program) : Message → Program
  | .methodReturn replySerial =>
      if replySerial ∈ p.pendingCalls then
        { p with pendingCalls := p.pendingCalls.erase replySerial, reply := some .methodReturn }
      else p
  | .errorReply replySerial =>
      if replySerial ∈ p.pendingCalls then
        { p with pendingCalls := p.pendingCalls.erase replySerial, reply := some .error }
      else p
  | .methodCall call =>
      let h := p.conn.handleMethodCall p.myserver call
      { p with
        conn := h.state
        sent := p.sent ++ h.reply.toList
        served := p.served ++ (h.ran.map fun m => { method := m, server := p.myserver }).toList }
  | .signal => p
  | .error => p
  | .invalid => { p with pc := .terminated }

/-- `HandleMessage(ReadMessage())`; an empty transport blocks. -/
def Program.readMessage (p : Program) : Program :=
  match p.transport with
  | [] => p
  | .message msg :: rest => ({ p with transport := rest } : Program).handleMessage msg
  | .endOfStream :: rest => { p with transport := rest }
  | .ioError :: rest => { p with transport := rest, isConnected := false }

section Main

variable (destCfg : DestConfig) (destination : RfcDestination) (requestSerial : Nat)

/-- One step of `Main`. -/
def Program.mainStep (p : Program) : Program :=
  match p.pc with
  | .register => { p with pc := .requestName, conn := p.conn.register servicePath }
  | .requestName => { p with pc := .awaitReply, pendingCalls := requestSerial :: p.pendingCalls }
  | .awaitReply =>
      match p.reply with
      -- `PendingCall.Reply` handles whatever it reads until its own reply is there
      | none => p.readMessage
      | some .methodReturn => { p with pc := .checkConnected }
      | some .error => { p with pc := .terminated }
  | .checkConnected =>
      if p.isConnected then
        { p with pc := .setDestConfig, console := p.console ++ [connectedText] }
      -- without a connection the fields stay `null`, and the loop runs all the same
      else { p with pc := .iterate, console := p.console ++ [disconnectedText] }
  | .setDestConfig =>
      { p with pc := .setRfcDestination, myserver := p.myserver.setDestConfig destCfg }
  | .setRfcDestination =>
      { p with pc := .iterate, myserver := p.myserver.setRfcDestination destination }
  | .iterate => p.readMessage
  | .terminated => p

/-- An event: something arrives, or `Main` takes a step. -/
inductive StartupEvent where
  | arrive (a : Arrival)
  | main

/-- The step of an event. -/
def Program.step (p : Program) : StartupEvent → Program
  | .arrive a => { p with transport := p.transport ++ [a] }
  | .main => p.mainStep destCfg destination requestSerial

/-! ## §3. Program points and fields. -/

/-- Both fields are set. -/
def SapServerQuery.Configured (srv : SapServerQuery) : Prop :=
  srv.m_destconfig.isSome ∧ srv.m_rfcdestination.isSome

/-- The server object once `Main` has set both fields. -/
def configuredServer : SapServerQuery :=
  (SapServerQuery.new.setDestConfig destCfg).setRfcDestination destination

theorem configured_configuredServer : (configuredServer destCfg destination).Configured :=
  ⟨rfl, rfl⟩

theorem not_configured_new : ¬ SapServerQuery.new.Configured := fun h => by cases h.1

/-- What a program point says about the fields and the console. -/
def Program.Phase (p : Program) : Prop :=
  match p.pc with
  | .register | .requestName | .awaitReply | .checkConnected | .setDestConfig =>
      p.myserver = SapServerQuery.new ∧ disconnectedText ∉ p.console
  | .setRfcDestination =>
      p.myserver = SapServerQuery.new.setDestConfig destCfg ∧ disconnectedText ∉ p.console
  | .iterate =>
      (p.myserver = SapServerQuery.new ∧ disconnectedText ∈ p.console)
        ∨ (p.myserver = configuredServer destCfg destination ∧ disconnectedText ∉ p.console)
  | .terminated => True

/-- Handling a message leaves fields and console alone, and the program
    point unless the message is invalid. -/
theorem frame_handleMessage (p : Program) (msg : Message) :
    (p.handleMessage msg).myserver = p.myserver ∧ (p.handleMessage msg).console = p.console
      ∧ ((p.handleMessage msg).pc = p.pc ∨ (p.handleMessage msg).pc = .terminated) := by
  cases msg with
  | methodReturn n | errorReply n =>
      simp only [Program.handleMessage]
      split <;> exact ⟨rfl, rfl, Or.inl rfl⟩
  | invalid => exact ⟨rfl, rfl, Or.inr rfl⟩
  | methodCall call => exact ⟨rfl, rfl, Or.inl rfl⟩
  | signal | error => exact ⟨rfl, rfl, Or.inl rfl⟩

theorem frame_readMessage (p : Program) :
    p.readMessage.myserver = p.myserver ∧ p.readMessage.console = p.console
      ∧ (p.readMessage.pc = p.pc ∨ p.readMessage.pc = .terminated) := by
  unfold Program.readMessage
  split
  next => exact ⟨rfl, rfl, Or.inl rfl⟩
  next msg rest _ => exact frame_handleMessage { p with transport := rest } msg
  next => exact ⟨rfl, rfl, Or.inl rfl⟩
  next => exact ⟨rfl, rfl, Or.inl rfl⟩

/-- So reading a message keeps the phase. -/
theorem Program.Phase.readMessage {p : Program} (h : p.Phase destCfg destination) :
    p.readMessage.Phase destCfg destination := by
  obtain ⟨hserver, hconsole, hpc | hpc⟩ := frame_readMessage p
  · unfold Program.Phase at h ⊢
    rw [hserver, hconsole, hpc]
    exact h
  · unfold Program.Phase
    rw [hpc]
    trivial

/-- **Every step of `Main` keeps the phase.** -/
theorem phase_mainStep {p : Program} (h : p.Phase destCfg destination) :
    (p.mainStep destCfg destination requestSerial).Phase destCfg destination := by
  have hread := Program.Phase.readMessage destCfg destination h
  unfold Program.mainStep
  cases hpc : p.pc with
  | register | requestName => simpa only [Program.Phase, hpc] using h
  | awaitReply =>
      cases hreply : p.reply with
      | none => exact hread
      | some r =>
          cases r with
          | methodReturn => simpa only [Program.Phase, hpc] using h
          | error => trivial
  | checkConnected =>
      simp only [Program.Phase, hpc] at h
      by_cases hconn : p.isConnected = true
      · rw [if_pos hconn]
        -- only the other text was printed
        refine ⟨h.1, ?_⟩
        have hne : disconnectedText ≠ connectedText := by decide
        simp [h.2, hne]
      · rw [if_neg hconn]
        exact Or.inl ⟨h.1, by simp⟩
  | setDestConfig =>
      simp only [Program.Phase, hpc] at h
      exact ⟨by rw [h.1], h.2⟩
  | setRfcDestination =>
      simp only [Program.Phase, hpc] at h
      exact Or.inr ⟨by rw [h.1]; rfl, h.2⟩
  | iterate => exact hread
  | terminated => simp only [Program.Phase, hpc]

theorem phase_step {p : Program} (e : StartupEvent) (h : p.Phase destCfg destination) :
    (p.step destCfg destination requestSerial e).Phase destCfg destination := by
  cases e with
  | arrive a => exact h
  | main => exact phase_mainStep destCfg destination requestSerial h

/-! ## §4. Bodies. -/

/-- The message at the head of the transport is a call that reaches a body. -/
def Program.NextReaches (p : Program) : Prop :=
  ∃ call rest, p.transport = .message (.methodCall call) :: rest ∧ p.conn.Reaches call

/-- `Main` is about to read a message: inside `RequestName`, or in its loop. -/
def Program.Reading (p : Program) : Prop :=
  (p.pc = .awaitReply ∧ p.reply = none) ∨ p.pc = .iterate

/-- Only a call that reaches a body adds one, with the fields as they are. -/
theorem served_handleMessage (p : Program) (msg : Message) :
    (∃ call m, msg = .methodCall call ∧ p.conn.Reaches call
        ∧ (p.handleMessage msg).served = p.served ++ [{ method := m, server := p.myserver }])
      ∨ ((∀ call, msg = .methodCall call → ¬ p.conn.Reaches call)
        ∧ (p.handleMessage msg).served = p.served) := by
  cases msg with
  | methodCall call =>
      have hiff := p.conn.ran_iff p.myserver call
      -- by `ran_iff` the dispatcher has run a body exactly if the call reaches one
      cases hran : (p.conn.handleMethodCall p.myserver call).ran with
      | some m =>
          refine Or.inl ⟨call, m, rfl, hiff.mp (by simp [hran]), ?_⟩
          simp [Program.handleMessage, hran]
      | none =>
          refine Or.inr ⟨?_, by simp [Program.handleMessage, hran]⟩
          intro call' hc
          cases hc
          exact fun hreach => by simp [hran] at hiff; exact hiff hreach
  | methodReturn n | errorReply n =>
      refine Or.inr ⟨by simp, ?_⟩
      simp only [Program.handleMessage]
      split <;> rfl
  | signal | error | invalid => exact Or.inr ⟨by simp, rfl⟩

theorem served_readMessage (p : Program) :
    (p.NextReaches → ∃ m, p.readMessage.served = p.served ++ [{ method := m, server := p.myserver }])
      ∧ (¬ p.NextReaches → p.readMessage.served = p.served) := by
  unfold Program.readMessage Program.NextReaches
  cases htransport : p.transport with
  | nil => simp
  | cons a rest =>
      cases a with
      | endOfStream | ioError => simp
      | message msg =>
          rcases served_handleMessage { p with transport := rest } msg with
            ⟨call, m, rfl, hreach, hserved⟩ | ⟨hnone, hserved⟩
          · exact ⟨fun _ => ⟨m, hserved⟩, fun h => absurd ⟨call, rest, rfl, hreach⟩ h⟩
          · refine ⟨?_, fun _ => hserved⟩
            intro hreaches
            obtain ⟨call, rest', hc, hreach⟩ := hreaches
            cases hc
            exact absurd hreach (hnone call rfl)

/-- **Which step runs a body**: a reading step whose message reaches one, and
    the body finds the fields as they are in that state. -/
theorem served_mainStep (p : Program) :
    (p.Reading ∧ p.NextReaches → ∃ m, (p.mainStep destCfg destination requestSerial).served
        = p.served ++ [{ method := m, server := p.myserver }])
      ∧ (¬ (p.Reading ∧ p.NextReaches) →
        (p.mainStep destCfg destination requestSerial).served = p.served) := by
  obtain ⟨hyes, hno⟩ := served_readMessage p
  unfold Program.mainStep Program.Reading
  cases hpc : p.pc with
  | register | requestName | setDestConfig | setRfcDestination | terminated => simp
  | checkConnected =>
      simp only [reduceCtorEq, false_and, or_self, false_imp_iff, not_false_eq_true, true_and,
        forall_const]
      split <;> rfl
  | awaitReply =>
      cases hreply : p.reply with
      | none => simpa using ⟨hyes, hno⟩
      | some r => cases r <;> simp
  | iterate => simpa using ⟨hyes, hno⟩

/-! ## §5. Whole runs. -/

/-- A call is about to be served too early: `Main` reads it while it waits
    for the reply of `RequestName`, or after the check found the connection
    lost. -/
def Program.TooEarly (p : Program) : Prop :=
  p.NextReaches ∧ ((p.pc = .awaitReply ∧ p.reply = none)
    ∨ (p.pc = .iterate ∧ disconnectedText ∈ p.console))

/-- Every body run so far found both fields set. -/
def Program.ServedConfigured (p : Program) : Prop := ∀ s ∈ p.served, s.server.Configured

variable (machineId : Option Text) (introspect : Text → Text)

theorem phase_start : (Program.start machineId introspect).Phase destCfg destination :=
  ⟨rfl, by simp [Program.start]⟩

/-- A step that is not too early adds no unconfigured body. -/
theorem servedConfigured_step {p : Program} {e : StartupEvent} (hphase : p.Phase destCfg destination)
    (hserved : p.ServedConfigured) (he : ¬ (e = .main ∧ p.TooEarly)) :
    (p.step destCfg destination requestSerial e).ServedConfigured := by
  cases e with
  | arrive a => exact hserved
  | main =>
      obtain ⟨hyes, hno⟩ := served_mainStep destCfg destination requestSerial p
      show (p.mainStep destCfg destination requestSerial).ServedConfigured
      by_cases hruns : p.Reading ∧ p.NextReaches
      · obtain ⟨m, hm⟩ := hyes hruns
        obtain ⟨hreading, hnext⟩ := hruns
        -- the body runs in the loop, after the check found the connection up
        have hconf : p.myserver.Configured := by
          rcases hreading with hwait | hiter
          · exact absurd ⟨rfl, hnext, Or.inl hwait⟩ he
          · simp only [Program.Phase, hiter] at hphase
            rcases hphase with ⟨-, hlost⟩ | ⟨hset, -⟩
            · exact absurd ⟨rfl, hnext, Or.inr ⟨hiter, hlost⟩⟩ he
            · rw [hset]
              exact configured_configuredServer destCfg destination
        intro s hs
        rw [hm, List.mem_append, List.mem_singleton] at hs
        rcases hs with hs | rfl
        · exact hserved s hs
        · exact hconf
      · unfold Program.ServedConfigured
        rw [hno hruns]
        exact hserved

/-- A step that is too early runs a body on unset fields. -/
theorem not_servedConfigured_of_tooEarly {p : Program} (hphase : p.Phase destCfg destination)
    (h : p.TooEarly) :
    ¬ (p.step destCfg destination requestSerial .main).ServedConfigured := by
  obtain ⟨hnext, hpoint⟩ := h
  have hreading : p.Reading := hpoint.imp id And.left
  obtain ⟨m, hm⟩ := (served_mainStep destCfg destination requestSerial p).1 ⟨hreading, hnext⟩
  -- at both program points the phase says that nothing is set yet
  have hunset : p.myserver = SapServerQuery.new := by
    rcases hpoint with ⟨hwait, -⟩ | ⟨hiter, hlost⟩
    · simp only [Program.Phase, hwait] at hphase
      exact hphase.1
    · simp only [Program.Phase, hiter] at hphase
      rcases hphase with ⟨hset, -⟩ | ⟨-, hup⟩
      · exact hset
      · exact absurd hlost hup
  intro hall
  have hconf := hall { method := m, server := p.myserver } (by
    show _ ∈ (p.mainStep destCfg destination requestSerial).served
    rw [hm]
    simp)
  rw [show (Served.mk m p.myserver).server = SapServerQuery.new from hunset] at hconf
  exact not_configured_new hconf

/-- **All bodies of a run found their fields set exactly when no step of the
    run served a call too early.**  One direction is the step lemma along the
    run; for the other, the state after a step that is too early is a state
    of the run. -/
theorem servedConfigured_iff (es : List StartupEvent) :
    (∀ p, Reached (Program.step destCfg destination requestSerial)
        (Program.start machineId introspect) es p → p.ServedConfigured)
      ↔ ∀ p e, StepOf (Program.step destCfg destination requestSerial)
          (Program.start machineId introspect) es p e → ¬ (e = .main ∧ p.TooEarly) := by
  have hphase : ∀ p, Reached (Program.step destCfg destination requestSerial)
      (Program.start machineId introspect) es p → p.Phase destCfg destination :=
    Reached.of_steps (phase_start destCfg destination machineId introspect)
      fun p e _ h => phase_step destCfg destination requestSerial e h
  constructor
  · intro hall p e hstep htoo
    obtain ⟨rfl, hearly⟩ := htoo
    obtain ⟨hbefore, hafter⟩ := hstep.reached
    exact not_servedConfigured_of_tooEarly destCfg destination requestSerial
      (hphase p hbefore) hearly (hall _ hafter)
  · intro hlate
    refine Reached.of_steps (by simp [Program.ServedConfigured, Program.start]) ?_
    intro p e hstep hserved
    exact servedConfigured_step destCfg destination requestSerial
      (hphase p hstep.reached.1) hserved (hlate p e hstep)

end Main

/-! ## §6. A run that serves too early. -/

/-- A destination that answers everything with nothing. -/
def idleDestination : RfcDestination :=
  { createFunction := fun _ => .ok (), call := fun _ => .ok [], ping := .ok () }

/-- A configuration whose manager knows that destination. -/
def idleConfig : DestConfig := { manager := { getDestination := fun _ => .ok idleDestination } }

/-- A ping that arrives between the request of the bus name and its reply. -/
def earlyPing : List StartupEvent :=
  [.main, .main,
   .arrive (.message (.methodCall (TypedCall.mk .pingSapDest ()).remote.message)), .main]

/-- **The body of that ping runs while both fields are `null`.** -/
theorem earlyPing_unconfigured :
    ¬ ∀ (es : List StartupEvent) (p : Program),
      Reached (Program.step idleConfig idleDestination 2) (Program.start none fun _ => []) es p →
        p.ServedConfigured := by
  intro h
  have hall := h earlyPing _ ⟨earlyPing, List.prefix_rfl, rfl⟩
  have hserved : (earlyPing.foldl (Program.step idleConfig idleDestination 2)
      (Program.start none fun _ => [])).served = [⟨.pingSapDest, SapServerQuery.new⟩] := rfl
  exact not_configured_new (hall ⟨.pingSapDest, SapServerQuery.new⟩ (by rw [hserved]; simp))

end SapDbLib
