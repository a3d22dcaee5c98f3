/-
  SapDbLib.Server.Dispatch — FROM A METHOD CALL TO A METHOD BODY.

  The part of dbus-sharp that decides which body runs: the special cases and
  the path lookup of `Connection.HandleMethodCall`, then the member lookup
  with its cache in `ExportObject.HandleMethodCall`.  An exception that
  leaves a body is caught there and becomes an error reply.

  The cache is keyed by the member name alone and keeps failed lookups too.
  `Serves` says that nothing wrong is cached; `serves_after` says that it
  stays so under any number of well-typed calls, and `handleMethodCall_typed`
  is what such a call then gets: **its own body, once, and its outcome**.
-/
import SapDbLib.DBus
import SapDbLib.Server.SapQuery

namespace SapDbLib

open Library

/-! ## §1. Running a body. -/

/-- The bodies of `ifaceServer`, as `SapServerQuery` implements them. -/
def SapServerQuery.run (srv : SapServerQuery) :
    (m : IfaceServer) → m.Args → Except CSharpException Text
  | .getMatNrFromPa, qtAuftrNr => srv.getMatNrFromPa qtAuftrNr
  | .pingSapDest, _ => srv.pingSapDest
  | .getMatKurzText, qtSapNr => srv.getMatKurzText qtSapNr
  | .getValueFromTable, (qtTable, qtColumn, qtDelimiter, qtWhere) =>
      srv.getValueFromTable qtTable qtColumn qtDelimiter qtWhere
  | .getOrderTypeNr, qtSapOrderNr => srv.getOrderTypeNr qtSapOrderNr
  | .getOrderQty, qtSapOrderNr => srv.getOrderQty qtSapOrderNr
  | .getOrderFailQty, qtSapOrderNr => srv.getOrderFailQty qtSapOrderNr
  | .getOrderType, qtSapOrderNr => srv.getOrderType qtSapOrderNr

/-- The message a body's outcome becomes. -/
def replyOf : Except CSharpException Text → QDBusMessage
  | .ok s => .reply [.string s]
  | .error ex => .error (.exception ex)

/-! ## §2. The exported object. -/

/-- `ExportObject`: the methods found so far, by member name; a failed lookup
    is kept as well. -/
structure ExportObject where
  methodInfoCache : Text → Option (Option IfaceServer)

/-- `CreateExportObject`. -/
def ExportObject.new : ExportObject := { methodInfoCache := fun _ => none }

/-- `Mapper.GetMethod`: the first member of that name and signature, in the
    given interface if one is given. -/
def getMethod (call : MethodCall) : Option IfaceServer :=
  IfaceServer.members.find? fun m =>
    (call.interface.isNone || call.interface == some interfaceName)
      && m.name == call.member && m.inSig == call.signature

/-- `CreateUnknownMethodError`. -/
def unknownMethodError (call : MethodCall) : Option QDBusMessage :=
  if call.replyExpected then
    some (.error (.unknownMethod (text "Method \"" ++ (call.member
      ++ (text "\" with signature \"" ++ (call.signature
      ++ (text "\" on interface \"" ++ (call.interface.getD []
      ++ text "\" doesn't exist"))))))))
  else none

/-- What handling a call did: the state left in `α`, the body that ran, the
    message sent back. -/
structure Handled (α : Type) where
  state : α
  ran : Option IfaceServer
  reply : Option QDBusMessage

/-- The cached lookup at the head of `HandleMethodCall`. -/
def ExportObject.lookup (eo : ExportObject) (call : MethodCall) :
    Option IfaceServer × ExportObject :=
  match eo.methodInfoCache call.member with
  -- neither the interface nor the signature of this call is looked at
  | some mi => (mi, eo)
  | none =>
      let mi := getMethod call
      (mi, { methodInfoCache := Function.update eo.methodInfoCache call.member (some mi) })

/-- `ExportObject.HandleMethodCall`: look the method up, read its parameters,
    run the body, answer if an answer is expected. -/
def ExportObject.handleMethodCall (eo : ExportObject) (srv : SapServerQuery)
    (call : MethodCall) : Handled ExportObject :=
  match eo.lookup call with
  | (none, eo) => { state := eo, ran := none, reply := unknownMethodError call }
  | (some mi, eo) =>
      match call.body mi with
      -- the reader of the parameters throws inside the same `try`
      | .error ex =>
          { state := eo, ran := none
            reply := if call.replyExpected then some (.error (.exception ex)) else none }
      | .ok args =>
          { state := eo, ran := some mi
            reply := if call.replyExpected then some (replyOf (srv.run mi args)) else none }

/-! ## §3. The connection. -/

/-- The part of `Connection` that method calls meet. -/
structure Connection where
  registeredObjects : Text → Option ExportObject
  machineId : Option Text
  /-- The XML the introspector writes for a path. -/
  introspect : Text → Text

/-- The object under a path, replaced. -/
def Connection.setObject (conn : Connection) (path : Text) (eo : ExportObject) : Connection :=
  { conn with registeredObjects := Function.update conn.registeredObjects path (some eo) }

@[simp] theorem Connection.setObject_self (conn : Connection) (path : Text) (eo : ExportObject) :
    (conn.setObject path eo).registeredObjects path = some eo :=
  Function.update_self _ _ _

/-- `Register`. -/
def Connection.register (conn : Connection) (path : Text) : Connection :=
  conn.setObject path ExportObject.new

/-- `Connection.HandleMethodCall`: peer and introspection calls are answered
    here, all others by the object registered under the path. -/
def Connection.handleMethodCall (conn : Connection) (srv : SapServerQuery)
    (call : MethodCall) : Handled Connection :=
  if call.interface = some (text "org.freedesktop.DBus.Peer") ∧ call.member = text "Ping" then
    { state := conn, ran := none, reply := some (.reply []) }
  else if call.interface = some (text "org.freedesktop.DBus.Peer")
      ∧ call.member = text "GetMachineId" ∧ conn.machineId.isSome then
    { state := conn, ran := none, reply := some (.reply [.string (conn.machineId.getD [])]) }
  else if call.interface = some (text "org.freedesktop.DBus.Introspectable")
      ∧ call.member = text "Introspect" then
    { state := conn, ran := none, reply := some (.reply [.string (conn.introspect call.path)]) }
  else
    match conn.registeredObjects call.path with
    | some eo =>
        let h := eo.handleMethodCall srv call
        { state := conn.setObject call.path h.state, ran := h.ran, reply := h.reply }
    | none => { state := conn, ran := none, reply := unknownMethodError call }

/-- The calls `Connection.HandleMethodCall` answers itself. -/
def Connection.AnswersItself (conn : Connection) (call : MethodCall) : Prop :=
  (call.interface = some (text "org.freedesktop.DBus.Peer")
      ∧ (call.member = text "Ping" ∨ call.member = text "GetMachineId" ∧ conn.machineId.isSome))
    ∨ call.interface = some (text "org.freedesktop.DBus.Introspectable")
      ∧ call.member = text "Introspect"

/-- The call reaches a body: its path is registered, the lookup finds a
    method, and the parameters can be read. -/
def Connection.Reaches (conn : Connection) (call : MethodCall) : Prop :=
  ¬ conn.AnswersItself call ∧ ∃ eo m args, conn.registeredObjects call.path = some eo
    ∧ (eo.lookup call).1 = some m ∧ call.body m = .ok args

theorem ExportObject.ran_iff (eo : ExportObject) (srv : SapServerQuery) (call : MethodCall) :
    (eo.handleMethodCall srv call).ran.isSome
      ↔ ∃ m args, (eo.lookup call).1 = some m ∧ call.body m = .ok args := by
  unfold ExportObject.handleMethodCall
  obtain ⟨mi, eo'⟩ := eo.lookup call
  cases mi with
  | none => simp
  | some m => cases hbody : call.body m <;> simp [hbody]

/-- **A body runs exactly on the calls that reach one**, whatever the state
    of the server object. -/
theorem Connection.ran_iff (conn : Connection) (srv : SapServerQuery) (call : MethodCall) :
    (conn.handleMethodCall srv call).ran.isSome ↔ conn.Reaches call := by
  unfold Connection.handleMethodCall Connection.Reaches Connection.AnswersItself
  split_ifs with hping hid hintro
  · simp [hping]
  · simp [hid]
  · simp [hintro]
  · -- the call goes to the object under its path
    have hself : ¬ ((call.interface = some (text "org.freedesktop.DBus.Peer")
          ∧ (call.member = text "Ping" ∨ call.member = text "GetMachineId" ∧ conn.machineId.isSome))
        ∨ call.interface = some (text "org.freedesktop.DBus.Introspectable")
          ∧ call.member = text "Introspect") := by
      intro hself
      rcases hself with ⟨hpeer, hmember | hmember⟩ | h
      · exact hping ⟨hpeer, hmember⟩
      · exact hid ⟨hpeer, hmember⟩
      · exact hintro h
    cases hreg : conn.registeredObjects call.path with
    | none => simp
    | some eo =>
        simp only [ExportObject.ran_iff, hself, not_false_eq_true, true_and, Option.some.injEq]
        constructor
        · intro hbody
          obtain ⟨m, args, h⟩ := hbody
          exact ⟨eo, m, args, rfl, h⟩
        · intro hbody
          obtain ⟨eo', m, args, rfl, h⟩ := hbody
          exact ⟨m, args, h⟩

/-! ## §4. Well-typed calls. -/

/-- A well-typed call is found by `GetMethod`. -/
theorem getMethod_typed (c : TypedCall) : getMethod c.remote.message = some c.method := by
  obtain ⟨m, args⟩ := c
  cases m <;> rfl

/-- Nothing wrong is cached for the interface's members. -/
def ExportObject.Sound (eo : ExportObject) : Prop :=
  ∀ m : IfaceServer, eo.methodInfoCache m.name = none ∨ eo.methodInfoCache m.name = some (some m)

theorem ExportObject.sound_new : ExportObject.new.Sound := fun _ => Or.inl rfl

/-- The lookup of a well-typed call finds its method and keeps the cache
    sound. -/
theorem ExportObject.Sound.lookup {eo : ExportObject} (h : eo.Sound) (c : TypedCall) :
    (eo.lookup c.remote.message).1 = some c.method ∧ (eo.lookup c.remote.message).2.Sound := by
  unfold ExportObject.lookup
  have hmember : c.remote.message.member = c.method.name := rfl
  rw [hmember]
  rcases h c.method with hnone | hsome
  · rw [hnone]
    refine ⟨getMethod_typed c, ?_⟩
    intro m
    rw [getMethod_typed]
    -- the one entry that changed is the method's own
    by_cases hm : m.name = c.method.name
    · rw [IfaceServer.name_injective hm]
      exact Or.inr (Function.update_self _ _ _)
    · simp only [Function.update_of_ne hm]
      exact h m
  · rw [hsome]
    exact ⟨rfl, h⟩

/-- The service object is registered, with nothing wrong in its cache. -/
def Connection.Serves (conn : Connection) : Prop :=
  ∃ eo, conn.registeredObjects servicePath = some eo ∧ eo.Sound

theorem Connection.serves_register (conn : Connection) : (conn.register servicePath).Serves :=
  ⟨ExportObject.new, conn.setObject_self _ _, ExportObject.sound_new⟩

/-- The lookup decides what a well-typed call gets. -/
theorem ExportObject.Sound.handleMethodCall {eo : ExportObject} (h : eo.Sound)
    (srv : SapServerQuery) (c : TypedCall) :
    ∃ eo' : ExportObject, eo'.Sound ∧ eo.handleMethodCall srv c.remote.message
      = { state := eo', ran := some c.method
          reply := some (replyOf (srv.run c.method c.args)) } := by
  obtain ⟨hfound, hsound⟩ := h.lookup c
  refine ⟨(eo.lookup c.remote.message).2, hsound, ?_⟩
  have hreply : c.remote.message.replyExpected = true := rfl
  unfold ExportObject.handleMethodCall
  generalize eo.lookup c.remote.message = found at hfound
  obtain ⟨mi, eo'⟩ := found
  simp only at hfound
  subst hfound
  simp only [(TypedCall.body_message c).1, hreply, if_true]

/-- **A well-typed call gets its own body, once, and its outcome.** -/
theorem Connection.Serves.handleMethodCall_typed {conn : Connection} (h : conn.Serves)
    (srv : SapServerQuery) (c : TypedCall) :
    (conn.handleMethodCall srv c.remote.message).reply = some (replyOf (srv.run c.method c.args))
      ∧ (conn.handleMethodCall srv c.remote.message).ran = some c.method
      ∧ (conn.handleMethodCall srv c.remote.message).state.Serves := by
  obtain ⟨eo, hreg, hsound⟩ := h
  obtain ⟨eo', hsound', heo⟩ := hsound.handleMethodCall srv c
  have hinterface : c.remote.message.interface = some interfaceName := rfl
  have hpath : c.remote.message.path = servicePath := rfl
  have hpeer : some interfaceName ≠ some (text "org.freedesktop.DBus.Peer") := by decide
  have hintro : some interfaceName ≠ some (text "org.freedesktop.DBus.Introspectable") := by decide
  -- the special cases belong to other interfaces
  have hhandled : conn.handleMethodCall srv c.remote.message
      = { state := conn.setObject servicePath eo', ran := some c.method
          reply := some (replyOf (srv.run c.method c.args)) } := by
    unfold Connection.handleMethodCall
    simp only [hinterface, hpeer, hintro, false_and, if_false, hpath, hreg, heo]
  rw [hhandled]
  exact ⟨rfl, rfl, eo', conn.setObject_self _ _, hsound'⟩

/-- The connection after a sequence of well-typed calls. -/
def Connection.after (conn : Connection) (srv : SapServerQuery) (past : List TypedCall) :
    Connection :=
  past.foldl (fun conn c => (conn.handleMethodCall srv c.remote.message).state) conn

/-- **Well-typed calls never spoil the cache.** -/
theorem Connection.Serves.serves_after {conn : Connection} (h : conn.Serves)
    (srv : SapServerQuery) (past : List TypedCall) : (conn.after srv past).Serves := by
  induction past generalizing conn with
  | nil => exact h
  | cons c past ih => exact ih (h.handleMethodCall_typed srv c).2.2

end SapDbLib
