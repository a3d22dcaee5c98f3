/-
  SapDbLib.DBus — THE SERVICE INTERFACE AND ITS MESSAGES.

  What both ends of the bus share: the eight methods of `ifaceServer`
  (`my.server.interface`) with their parameter types, method calls, and
  replies.  A message body is kept as what a reader generated for a method's
  parameter types gets out of it (`MethodCall.body`), so that a call whose
  signature does not belong to its member is a value of the model too.

  `TypedCall` is a call whose arguments belong to its method: what a proxy of
  the interface can send.  `TypedCall.body_message` says that the right
  reader gets the arguments back.
-/
import SapDbLib.Rfc

namespace SapDbLib

open Library

/-! ## §1. The interface. -/

/-- The methods of `ifaceServer`, in declaration order. -/
inductive IfaceServer where
  | getMatNrFromPa
  | pingSapDest
  | getMatKurzText
  | getValueFromTable
  | getOrderTypeNr
  | getOrderQty
  | getOrderFailQty
  | getOrderType
  deriving DecidableEq, Repr

namespace IfaceServer

/-- The members in the order `GetPublicMembers` walks them. -/
def members : List IfaceServer :=
  [getMatNrFromPa, pingSapDest, getMatKurzText, getValueFromTable,
   getOrderTypeNr, getOrderQty, getOrderFailQty, getOrderType]

/-- The member name on the bus. -/
def name : IfaceServer → Text
  | getMatNrFromPa => text "getMatNrFromPa"
  | pingSapDest => text "pingSapDest"
  | getMatKurzText => text "getMatKurzText"
  | getValueFromTable => text "getValueFromTable"
  | getOrderTypeNr => text "getOrderTypeNr"
  | getOrderQty => text "getOrderQty"
  | getOrderFailQty => text "getOrderFailQty"
  | getOrderType => text "getOrderType"

/-- The parameters. -/
def Args : IfaceServer → Type
  | getMatNrFromPa => Text
  | pingSapDest => Unit
  | getMatKurzText => Text
  | getValueFromTable => Text × List Text × Text × List Text
  | getOrderTypeNr => Text
  | getOrderQty => Text
  | getOrderFailQty => Text
  | getOrderType => Text

/-- The D-Bus signature of the parameters. -/
def inSig : IfaceServer → Text
  | pingSapDest => text ""
  | getValueFromTable => text "sassas"
  | _ => text "s"

theorem mem_members (m : IfaceServer) : m ∈ members := by
  cases m <;> decide

theorem name_injective {m m' : IfaceServer} (h : m.name = m'.name) : m = m' := by
  have hall : ∀ m ∈ members, ∀ m' ∈ members, m.name = m'.name → m = m' := by decide
  exact hall m (mem_members m) m' (mem_members m') h

end IfaceServer

/-- `my.server.interface`. -/
def interfaceName : Text := text "my.server.interface"

/-- The object path of the service. -/
def servicePath : Text := text "/com/swissbit/sap"

/-! ## §2. Values, calls and replies. -/

/-- A D-Bus value of the types the service uses. -/
inductive Variant where
  | string (s : Text)
  | strings (ss : List Text)
  deriving DecidableEq, Repr

/-- The signature of a value. -/
def Variant.signature : Variant → Text
  | .string _ => text "s"
  | .strings _ => text "as"

/-- A method call as the server receives it. -/
structure MethodCall where
  path : Text
  interface : Option Text
  member : Text
  signature : Text
  replyExpected : Bool
  /-- What the reader generated for a method gets out of the body. -/
  body : (m : IfaceServer) → Except CSharpException m.Args

/-- Why a call was answered with an error. -/
inductive ErrorReply where
  | unknownMethod (message : Text)
  | exception (ex : CSharpException)
  /-- No answer at all. -/
  | noReply
  deriving DecidableEq, Repr

/-- The answer to a call. -/
inductive QDBusMessage where
  | reply (arguments : List Variant)
  | error (cause : ErrorReply)
  deriving DecidableEq, Repr

/-- `QDBusReply<QString>`: valid on a reply whose first argument is a string,
    and then its value. -/
def QDBusMessage.toReply : QDBusMessage → Option Text
  | .reply (.string s :: _) => some s
  | _ => none

/-! ## §3. Calls through a proxy. -/

/-- `QDBusInterface::call`: a member and its arguments. -/
structure RemoteCall where
  member : Text
  arguments : List Variant
  deriving DecidableEq, Repr

/-- Reading the parameters of a method off a list of values. -/
def readArgs : (m : IfaceServer) → List Variant → Except CSharpException m.Args
  | .getMatNrFromPa, .string s :: _ => .ok s
  | .pingSapDest, _ => .ok ()
  | .getMatKurzText, .string s :: _ => .ok s
  | .getValueFromTable, .string t :: .strings c :: .string d :: .strings w :: _ =>
      .ok (t, c, d, w)
  | .getOrderTypeNr, .string s :: _ => .ok s
  | .getOrderQty, .string s :: _ => .ok s
  | .getOrderFailQty, .string s :: _ => .ok s
  | .getOrderType, .string s :: _ => .ok s
  | _, _ => .error (.other (text "System.Exception") (text ""))

/-- The message of a call at the service object. -/
def RemoteCall.message (rc : RemoteCall) : MethodCall :=
  { path := servicePath
    interface := some interfaceName
    member := rc.member
    signature := rc.arguments.flatMap Variant.signature
    replyExpected := true
    body := fun m => readArgs m rc.arguments }

/-- A call whose arguments belong to its method. -/
structure TypedCall where
  method : IfaceServer
  args : method.Args

/-- The values of a method's arguments. -/
def IfaceServer.variants : (m : IfaceServer) → m.Args → List Variant
  | .getMatNrFromPa, s => [.string s]
  | .pingSapDest, _ => []
  | .getMatKurzText, s => [.string s]
  | .getValueFromTable, (t, c, d, w) => [.string t, .strings c, .string d, .strings w]
  | .getOrderTypeNr, s => [.string s]
  | .getOrderQty, s => [.string s]
  | .getOrderFailQty, s => [.string s]
  | .getOrderType, s => [.string s]

/-- The call as a proxy sends it. -/
def TypedCall.remote (c : TypedCall) : RemoteCall :=
  { member := c.method.name, arguments := c.method.variants c.args }

/-- **The right reader gets the arguments back**, and the signature is the
    method's. -/
theorem TypedCall.body_message (c : TypedCall) :
    c.remote.message.body c.method = .ok c.args
      ∧ c.remote.message.signature = c.method.inSig := by
  obtain ⟨m, args⟩ := c
  cases m <;> exact ⟨rfl, rfl⟩

end SapDbLib
