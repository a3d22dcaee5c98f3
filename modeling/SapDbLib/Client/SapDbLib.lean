/-
  SapDbLib.Client.SapDbLib — THE CLIENT OBJECT.

  `SAPDBLib` with its two constructors and its operations.  The pointer
  `m_remoteApp` is assigned by the address constructor on a reachable bus
  and by nothing else; using it unassigned is the `Fault` of the model, so
  that "is never used before it is connected" is a property of runs.

  What the bus and the service behind it do at a call is a `Bus` handed to
  that call; nothing is assumed about it.

    * `LibQuery.perform_eq` — the five checked queries are one gate in front
      of one remote call;
    * `step_ok`, `step_fault` — **which calls fault**: those that reach the
      remote object of an unconnected client.
-/
import SapDbLib.DBus
import SapDbLib.Library.Decimal

namespace SapDbLib

open Library

/-! ## §1. The bus as the client meets it. -/

/-- `QDBusInterface`: where its calls go, over which named connection. -/
structure QDBusInterface where
  service : Text
  path : Text
  interface : Text
  connection : Text
  deriving DecidableEq, Repr

/-- The bus and the service behind it, at the time of one call. -/
structure Bus where
  /-- Whether `connectToBus` succeeds for an address and a connection name. -/
  reach : Text → Text → Bool
  /-- Whether an established connection is still up. -/
  alive : Text → Bool
  connectionError : Text
  isValid : QDBusInterface → Bool
  interfaceError : QDBusInterface → Text
  /-- The answer to a call over a connection that is up. -/
  answer : RemoteCall → QDBusMessage

/-- `QDBusInterface::call`: a lost connection answers with an error. -/
def Bus.call (bus : Bus) (remote : QDBusInterface) (rc : RemoteCall) : QDBusMessage :=
  if bus.alive remote.connection then bus.answer rc else .error .noReply

/-! ## §2. The object. -/

/-- A dereference of `m_remoteApp` that no constructor assigned. -/
inductive Fault where
  | uninitialised
  deriving DecidableEq, Repr

/-- `SAPDBLib`; `m_remoteApp` is `none` while no constructor has assigned
    it. -/
structure SAPDBLib where
  m_remoteApp : Option QDBusInterface
  m_busName : Text
  m_lastError : Option Text
  deriving DecidableEq, Repr

/-- The default constructor: it assigns nothing. -/
def SAPDBLib.default : SAPDBLib := { m_remoteApp := none, m_busName := [], m_lastError := none }

/-- The remote object of the service over a connection. -/
def remoteInterface (connection : Text) : QDBusInterface :=
  { service := text "com.swissbit.sap"
    path := servicePath
    interface := interfaceName
    connection := connection }

/-- The address constructor. -/
def SAPDBLib.connect (bus : Bus) (qstrConnectionStr qstrName : Text) : SAPDBLib :=
  if bus.reach qstrConnectionStr qstrName then
    let remote := remoteInterface qstrName
    { m_remoteApp := some remote
      m_busName := qstrName
      m_lastError := if bus.isValid remote then none else some (bus.interfaceError remote) }
  else
    -- the pointer is left as the allocator had it
    { m_remoteApp := none, m_busName := qstrName, m_lastError := some bus.connectionError }

/-- What an operation did: its return value, the out parameter afterwards,
    the calls it sent. -/
structure Answer where
  returned : Bool
  out : Text
  issued : List RemoteCall
  deriving DecidableEq, Repr

/-- An operation that stopped before any call. -/
def Answer.stopped (out : Text) : Answer := { returned := false, out := out, issued := [] }

/-- What a query does with a reply: a valid one goes to the out parameter. -/
def Answer.ofReply (rc : RemoteCall) (out : Text) : Option Text → Answer
  | some value => { returned := true, out := value, issued := [rc] }
  | none => { returned := false, out := out, issued := [rc] }

/-- One remote call whose string reply goes to the out parameter. -/
def SAPDBLib.callQuery (lib : SAPDBLib) (bus : Bus) (rc : RemoteCall) (out : Text) :
    Except Fault Answer :=
  match lib.m_remoteApp with
  | none => .error .uninitialised
  | some remote => .ok (Answer.ofReply rc out (bus.call remote rc).toReply)

/-- `checkInputToDecimal`: the value of `toInt` as a condition; `ok` is set
    and not read. -/
def checkInputToDecimal (qstrToCheck : Text) : Bool := (toInt qstrToCheck).1 != 0

/-- `QString::rightJustified`. -/
def rightJustified (s : Text) (width : Nat) (fill : UInt16) : Text := s.leftpad width fill

/-! ## §3. The operations. -/

/-- `ping`: the reply is logged, not kept. -/
def SAPDBLib.ping (lib : SAPDBLib) (bus : Bus) : Except Fault Answer := do
  let a ← lib.callQuery bus { member := text "pingSapDest", arguments := [] } []
  return { a with out := [] }

/-- `getMKT`. -/
def SAPDBLib.getMKT (lib : SAPDBLib) (bus : Bus) (qstrSapTypeNr qstrMkt : Text) :
    Except Fault Answer :=
  if qstrSapTypeNr.length = 6 then
    if checkInputToDecimal qstrSapTypeNr then
      let temp := rightJustified qstrSapTypeNr 18 zero
      lib.callQuery bus { member := text "getMatKurzText", arguments := [.string temp] } qstrMkt
    else .ok (.stopped qstrMkt)
  else .ok (.stopped qstrMkt)

/-- The body that the four order queries share. -/
def SAPDBLib.orderQuery (lib : SAPDBLib) (bus : Bus) (member : String)
    (qstrSapOrderNr out : Text) : Except Fault Answer :=
  if qstrSapOrderNr.length = 8 then
    if checkInputToDecimal qstrSapOrderNr then
      lib.callQuery bus { member := text member, arguments := [.string qstrSapOrderNr] } out
    else .ok (.stopped out)
  else .ok (.stopped out)

/-- `getOrderTypeNr`. -/
def SAPDBLib.getOrderTypeNr (lib : SAPDBLib) (bus : Bus) (qstrSapOrderNr qstrSapTypeNr : Text) :
    Except Fault Answer :=
  lib.orderQuery bus "getOrderTypeNr" qstrSapOrderNr qstrSapTypeNr

/-- `getOrderQty`. -/
def SAPDBLib.getOrderQty (lib : SAPDBLib) (bus : Bus) (qstrSapOrderNr qstrOrderQty : Text) :
    Except Fault Answer :=
  lib.orderQuery bus "getOrderQty" qstrSapOrderNr qstrOrderQty

/-- `getOrderFailQty`. -/
def SAPDBLib.getOrderFailQty (lib : SAPDBLib) (bus : Bus)
    (qstrSapOrderNr qstrOrderFailQty : Text) : Except Fault Answer :=
  lib.orderQuery bus "getOrderFailQty" qstrSapOrderNr qstrOrderFailQty

/-- `getOrderType`. -/
def SAPDBLib.getOrderType (lib : SAPDBLib) (bus : Bus) (qstrSapOrderNr qstrOrderType : Text) :
    Except Fault Answer :=
  lib.orderQuery bus "getOrderType" qstrSapOrderNr qstrOrderType

/-- `getValueFromTable`: no input check. -/
def SAPDBLib.getValueFromTable (lib : SAPDBLib) (bus : Bus) (qstrTable qstrDelimiter : Text)
    (qstrColumn qstrWhere : List Text) (qstrResult : Text) : Except Fault Answer :=
  lib.callQuery bus
    { member := text "getValueFromTable"
      arguments := [.string qstrTable, .strings qstrColumn, .string qstrDelimiter,
        .strings qstrWhere] } qstrResult

/-- `isConnected`. -/
def SAPDBLib.isConnected (lib : SAPDBLib) (bus : Bus) : Except Fault Answer :=
  match lib.m_remoteApp with
  | none => .error .uninitialised
  | some remote => .ok { returned := bus.isValid remote, out := [], issued := [] }

/-- `isInterfaceConnected`. -/
def SAPDBLib.isInterfaceConnected (lib : SAPDBLib) (bus : Bus) : Except Fault Answer :=
  match lib.m_remoteApp with
  | none => .error .uninitialised
  | some remote => .ok { returned := bus.isValid remote, out := [], issued := [] }

/-! ## §4. The checked queries. -/

/-- The five queries that check their input. -/
inductive LibQuery where
  | getMKT
  | getOrderTypeNr
  | getOrderQty
  | getOrderFailQty
  | getOrderType
  deriving DecidableEq, Repr

/-- The length the input must have. -/
def LibQuery.width : LibQuery → Nat
  | .getMKT => 6
  | _ => 8

/-- The server method that is called. -/
def LibQuery.method : LibQuery → IfaceServer
  | .getMKT => .getMatKurzText
  | .getOrderTypeNr => .getOrderTypeNr
  | .getOrderQty => .getOrderQty
  | .getOrderFailQty => .getOrderFailQty
  | .getOrderType => .getOrderType

/-- The argument the server gets. -/
def LibQuery.argument : LibQuery → Text → Text
  | .getMKT, s => s.leftpad 18 zero
  | _, s => s

/-- The operation. -/
def LibQuery.perform : LibQuery → SAPDBLib → Bus → Text → Text → Except Fault Answer
  | .getMKT => SAPDBLib.getMKT
  | .getOrderTypeNr => SAPDBLib.getOrderTypeNr
  | .getOrderQty => SAPDBLib.getOrderQty
  | .getOrderFailQty => SAPDBLib.getOrderFailQty
  | .getOrderType => SAPDBLib.getOrderType

/-- The input check lets the text through. -/
def LibQuery.Accepts (q : LibQuery) (s : Text) : Prop :=
  s.length = q.width ∧ checkInputToDecimal s = true

instance (q : LibQuery) (s : Text) : Decidable (q.Accepts s) :=
  inferInstanceAs (Decidable (_ ∧ _))

/-- The remote call of a query. -/
def LibQuery.remoteCall (q : LibQuery) (s : Text) : RemoteCall :=
  { member := q.method.name, arguments := [.string (q.argument s)] }

/-- **A checked query is its gate and its remote call.** -/
theorem LibQuery.perform_eq (q : LibQuery) (lib : SAPDBLib) (bus : Bus) (s out : Text) :
    q.perform lib bus s out
      = if q.Accepts s then lib.callQuery bus (q.remoteCall s) out else .ok (.stopped out) := by
  have hgate : ∀ (n : Nat) (r : Except Fault Answer),
      (if s.length = n then if checkInputToDecimal s = true then r else .ok (.stopped out)
        else .ok (.stopped out))
        = if s.length = n ∧ checkInputToDecimal s = true then r else .ok (.stopped out) := by
    intro n r
    split_ifs <;> simp_all
  cases q <;> exact hgate _ _

/-- The same call as a well-typed one. -/
def LibQuery.typedCall : LibQuery → Text → TypedCall
  | .getMKT, s => ⟨.getMatKurzText, s.leftpad 18 zero⟩
  | .getOrderTypeNr, s => ⟨.getOrderTypeNr, s⟩
  | .getOrderQty, s => ⟨.getOrderQty, s⟩
  | .getOrderFailQty, s => ⟨.getOrderFailQty, s⟩
  | .getOrderType, s => ⟨.getOrderType, s⟩

theorem LibQuery.remote_typedCall (q : LibQuery) (s : Text) :
    (q.typedCall s).remote = q.remoteCall s := by
  cases q <;> rfl

/-! ## §5. Calls on the object. -/

/-- The nine operations with their arguments; a query comes with the present
    value of its out parameter. -/
inductive LibCall where
  | ping
  | query (q : LibQuery) (input out : Text)
  | getValueFromTable (table delimiter : Text) (columns conditions : List Text) (out : Text)
  | isConnected
  | isInterfaceConnected
  deriving DecidableEq, Repr

/-- The out parameter before the call. -/
def LibCall.out : LibCall → Text
  | .query _ _ out => out
  | .getValueFromTable _ _ _ _ out => out
  | _ => []

/-- The operations that ask the server. -/
def LibCall.isQuery : LibCall → Bool
  | .isConnected => false
  | .isInterfaceConnected => false
  | _ => true

/-- One operation, with the bus as it is at that moment; the object keeps its
    state. -/
def SAPDBLib.step (lib : SAPDBLib) : LibCall × Bus → Except Fault (Answer × SAPDBLib)
  | (.ping, bus) => (lib.ping bus).map (·, lib)
  | (.query q input out, bus) => (q.perform lib bus input out).map (·, lib)
  | (.getValueFromTable table delimiter columns conditions out, bus) =>
      (lib.getValueFromTable bus table delimiter columns conditions out).map (·, lib)
  | (.isConnected, bus) => (lib.isConnected bus).map (·, lib)
  | (.isInterfaceConnected, bus) => (lib.isInterfaceConnected bus).map (·, lib)

/-- The call ends at the input check. -/
def LibCall.StopsAtGate : LibCall → Prop
  | .query q input _ => ¬ q.Accepts input
  | _ => False

/-- No bus connection: the object has none, or it is down. -/
def Disconnected (lib : SAPDBLib) (bus : Bus) : Prop :=
  ∀ remote, lib.m_remoteApp = some remote → bus.alive remote.connection = false

/-- What the client promises of an answered call: without a bus connection a
    query returns false and leaves its out parameter alone. -/
def Kept (lib : SAPDBLib) (e : LibCall × Bus) (a : Answer) : Prop :=
  e.1.isQuery = true → Disconnected lib e.2 → a.returned = false ∧ a.out = e.1.out

theorem callQuery_of_some {lib : SAPDBLib} {remote : QDBusInterface}
    (h : lib.m_remoteApp = some remote) (bus : Bus) (rc : RemoteCall) (out : Text) :
    lib.callQuery bus rc out = .ok (Answer.ofReply rc out (bus.call remote rc).toReply) := by
  unfold SAPDBLib.callQuery
  rw [h]

/-- Over a lost connection a remote call returns false and leaves the out
    parameter alone. -/
theorem callQuery_ok {lib : SAPDBLib} {remote : QDBusInterface}
    (h : lib.m_remoteApp = some remote) (bus : Bus) (rc : RemoteCall) (out : Text) :
    ∃ a, lib.callQuery bus rc out = .ok a
      ∧ (Disconnected lib bus → a.returned = false ∧ a.out = out) := by
  refine ⟨_, callQuery_of_some h bus rc out, fun hdown => ?_⟩
  -- the error of a lost connection is no valid string reply
  rw [Bus.call, hdown remote h]
  exact ⟨rfl, rfl⟩

/-- **A connected object answers every call.** -/
theorem step_ok {lib : SAPDBLib} (h : lib.m_remoteApp.isSome) (e : LibCall × Bus) :
    ∃ a, lib.step e = .ok (a, lib) ∧ Kept lib e a := by
  obtain ⟨remote, hremote⟩ := Option.isSome_iff_exists.mp h
  obtain ⟨call, bus⟩ := e
  cases call with
  | ping =>
      obtain ⟨a, ha, hdown⟩ :=
        callQuery_ok hremote bus { member := text "pingSapDest", arguments := [] } []
      refine ⟨{ a with out := [] }, ?_, fun _ hd => ⟨(hdown hd).1, rfl⟩⟩
      simp only [SAPDBLib.step, SAPDBLib.ping, ha]
      rfl
  | query q input out =>
      obtain ⟨a, ha, hdown⟩ := callQuery_ok hremote bus (q.remoteCall input) out
      simp only [SAPDBLib.step, LibQuery.perform_eq]
      -- through the gate, or stopped by it
      split
      · exact ⟨a, by rw [ha]; rfl, fun _ hd => hdown hd⟩
      · exact ⟨.stopped out, rfl, fun _ _ => ⟨rfl, rfl⟩⟩
  | getValueFromTable table delimiter columns conditions out =>
      obtain ⟨a, ha, hdown⟩ := callQuery_ok hremote bus
        { member := text "getValueFromTable"
          arguments := [.string table, .strings columns, .string delimiter,
            .strings conditions] } out
      refine ⟨a, ?_, fun _ hd => hdown hd⟩
      simp only [SAPDBLib.step, SAPDBLib.getValueFromTable, ha]
      rfl
  | isConnected =>
      refine ⟨{ returned := bus.isValid remote, out := [], issued := [] }, ?_,
        fun hq => by cases hq⟩
      simp only [SAPDBLib.step, SAPDBLib.isConnected, hremote]
      rfl
  | isInterfaceConnected =>
      refine ⟨{ returned := bus.isValid remote, out := [], issued := [] }, ?_,
        fun hq => by cases hq⟩
      simp only [SAPDBLib.step, SAPDBLib.isInterfaceConnected, hremote]
      rfl

/-- A call that ends at the input check needs no connection. -/
theorem step_stopped {lib : SAPDBLib} {e : LibCall × Bus} (h : e.1.StopsAtGate) :
    ∃ a, lib.step e = .ok (a, lib) ∧ Kept lib e a := by
  obtain ⟨call, bus⟩ := e
  cases call with
  | query q input out =>
      refine ⟨.stopped out, ?_, fun _ _ => ⟨rfl, rfl⟩⟩
      simp only [SAPDBLib.step, LibQuery.perform_eq]
      rw [if_neg h]
      rfl
  | ping | getValueFromTable | isConnected | isInterfaceConnected => exact absurd h id

/-- **Every other call of an unconnected object faults.** -/
theorem step_fault {lib : SAPDBLib} (hlib : lib.m_remoteApp = none) {e : LibCall × Bus}
    (h : ¬ e.1.StopsAtGate) : lib.step e = .error .uninitialised := by
  obtain ⟨call, bus⟩ := e
  have hcall : ∀ rc out, lib.callQuery bus rc out = .error .uninitialised := by
    intro rc out
    unfold SAPDBLib.callQuery
    rw [hlib]
  cases call with
  | query q input out =>
      simp only [SAPDBLib.step, LibQuery.perform_eq]
      rw [if_pos (not_not.mp h), hcall]
      rfl
  | ping =>
      simp only [SAPDBLib.step, SAPDBLib.ping, hcall]
      rfl
  | getValueFromTable table delimiter columns conditions out =>
      simp only [SAPDBLib.step, SAPDBLib.getValueFromTable, hcall]
      rfl
  | isConnected =>
      simp only [SAPDBLib.step, SAPDBLib.isConnected, hlib]
      rfl
  | isInterfaceConnected =>
      simp only [SAPDBLib.step, SAPDBLib.isInterfaceConnected, hlib]
      rfl

end SapDbLib
