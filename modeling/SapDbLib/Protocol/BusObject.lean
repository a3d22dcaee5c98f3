/-
  SapDbLib.Protocol.BusObject — CALLS THROUGH A PROXY.

  `BusObject.SendMethodCall`, which the methods of a proxy end in: the
  message that is sent, and what becomes of the message that comes back.

    * `BusObject.carries_callMessage` — the message sent has the contents of
      the call;
    * `receiveReply_return`, `receiveReply_error` — a return value is read,
      and an error becomes an exception.
-/
import SapDbLib.Protocol.MessageContainer

namespace SapDbLib

open Library ProtocolInformation MessageReader

/-! ## §1. The call. -/

/-- `BusObject`: an object of another process. -/
structure BusObject where
  busName : Option Text
  objectPath : Option ObjectPath

/-- The contents of a call. -/
def BusObject.methodCall (o : BusObject) (iface member : Text) (inSig : Bytes) :
    MessageContainer :=
  { path := o.objectPath
    interface := some iface
    member := some member
    destination := o.busName
    signature := some inSig }

/-- `SendMethodCall`, up to the message that `SendWithReply` sends under a
    serial. -/
def BusObject.callMessage (native : ByteOrder) (o : BusObject) (iface member : Text)
    (inSig body : Bytes) (serial : BitVec 32) : Except CSharpException Protocol.Message := do
  if o.busName.getD [] = [] then
    throw (.other (text "System.ArgumentNullException") (text "bus_name"))
  if o.objectPath.isNone then
    throw (.other (text "System.ArgumentNullException") (text "object_path"))
  let callMsg := ((o.methodCall iface member inSig).message native).attachBodyTo body
  let callMsg := (callMsg.setReplyExpected true).setSignature (some inSig)
  return (callMsg.setReplyExpected true).setSerial serial

/-! ## §2. The reply. -/

/-- A message type as a text. -/
def messageTypeText (type : MessageType) : Text :=
  if type = 0 then text "Invalid"
  else if type = MessageType.methodCall then text "MethodCall"
  else if type = MessageType.methodReturn then text "MethodReturn"
  else if type = MessageType.error then text "Error"
  else if type = MessageType.signal then text "Signal"
  else decimal type.toNat

/-- What `SendMethodCall` and its caller make of the message that comes back:
    the text it returns, or an exception. -/
def receiveReply (native : ByteOrder) (retMsg : Protocol.Message) : Except ReadFault Text :=
  let e : Endian := { native := native, endianness := retMsg.header.endianness }
  let data := retMsg.body.getD []
  if retMsg.header.messageType = MessageType.methodReturn then
    (fun r => r.1) <$> readString e data 0
  else if retMsg.header.messageType = MessageType.error then
    match fromMessage retMsg with
    | .error ex => .error (.exception ex)
    | .ok error =>
        if (error.signature.getD []).head? = some DType.string.code then
          match readString e data 0 with
          | .error fault => .error fault
          | .ok (errMsg, _) =>
              .error (.exception (exception (error.errorName.getD [] ++ text ": " ++ errMsg)))
        else .error (.exception (exception (error.errorName.getD [] ++ text ": ")))
  else
    .error (.exception (exception (text "Got unexpected message of type "
      ++ messageTypeText retMsg.header.messageType
      ++ text " while waiting for a MethodReturn or Error")))

/-! ## §3. What is sent and received. -/

section Calls

variable {w r : ByteOrder} {o : BusObject} {iface member : Text} {inSig body : Bytes}
  {serial : BitVec 32} {m : Protocol.Message}

/-- **The message sent has the contents of the call**, and expects a reply. -/
theorem BusObject.carries_callMessage
    (h : o.callMessage w iface member inSig body serial = .ok m) :
    m.Carries w { o.methodCall iface member inSig with serial := some serial } body
      ∧ m.replyExpected = true := by
  unfold BusObject.callMessage at h
  by_cases hname : o.busName.getD [] = []
  · rw [if_pos hname] at h
    cases h
  rw [if_neg hname] at h
  by_cases hpath : o.objectPath.isNone = true
  · rw [if_pos hpath] at h
    cases h
  rw [if_neg hpath] at h
  cases h
  have hcarries := carries_exportToMessage w (o.methodCall iface member inSig) body
  refine ⟨(((hcarries.setReplyExpected true).setSignature (some inSig)).setReplyExpected
    true).setSerial serial, ?_⟩
  -- the flag is cleared, whatever it was
  have hflags := (header_exportToMessage w (o.methodCall iface member inSig)).2.2.1
  show (((o.methodCall iface member inSig).exportToMessage w).header.flags
    &&& ~~~HeaderFlag.noReplyExpected &&& ~~~HeaderFlag.noReplyExpected
    &&& HeaderFlag.noReplyExpected == HeaderFlag.none) = true
  have htype : (o.methodCall iface member inSig).type = MessageType.methodCall := rfl
  rw [hflags, if_pos htype]
  decide

/-- A body that is a text is read in the order it was written in. -/
theorem Protocol.Message.Carries.readBody (w : ByteOrder) {c : MessageContainer} {s : Text}
    (hm : m.Carries r c (encodeText r s 0)) (hs : WellFormed s)
    (hsize : (encodeText r s 0).length ≤ maxStreamLength) :
    ∃ pos, readString { native := w, endianness := m.header.endianness } (m.body.getD []) 0
      = .ok (s, pos) := by
  have horder : Endian.order { native := w, endianness := m.header.endianness } = r := by
    show wireOrder w m.header.endianness = r
    rw [hm.endianness, wireOrder_nativeEndianness]
  have hat : HasAt (encodeText r s 0) 0
      (encodeText (Endian.order { native := w, endianness := m.header.endianness }) s 0) := by
    rw [horder]
    exact List.prefix_rfl
  rw [hm.body]
  exact ⟨_, readString_at hsize hs hat⟩

/-- A text that is returned. -/
theorem receiveReply_return {c : MessageContainer} {s : Text}
    (hm : m.Carries r c (encodeText r s 0)) (htype : c.type = MessageType.methodReturn)
    (hs : WellFormed s) (hsize : (encodeText r s 0).length ≤ maxStreamLength) :
    receiveReply w m = .ok s := by
  obtain ⟨pos, hread⟩ := hm.readBody w hs hsize
  unfold receiveReply
  dsimp only
  rw [hm.type, if_pos htype, hread]
  rfl

/-- An error whose text is in the order of the machine it comes from. -/
theorem receiveReply_error {c : MessageContainer} {name s : Text}
    (hm : m.Carries r c (encodeText r s 0)) (htype : c.type = MessageType.error)
    (hname : c.errorName = some name) (hsignature : c.signature = some (basicSig .string))
    (hs : WellFormed s) (hsize : (encodeText r s 0).length ≤ maxStreamLength) :
    receiveReply w m = .error (.exception (exception (name ++ text ": " ++ s))) := by
  obtain ⟨pos, hread⟩ := hm.readBody w hs hsize
  have hne : ¬ c.type = MessageType.methodReturn := by
    rw [htype]
    decide
  unfold receiveReply
  dsimp only
  rw [hm.type, if_neg hne, if_pos htype, hm.fromMessage]
  dsimp only
  rw [hsignature, hname, if_pos (by rfl), hread]
  rfl

/-- A message of the type of an error becomes an exception. -/
theorem receiveReply_raises (htype : m.header.messageType = MessageType.error) :
    ∃ ex, receiveReply w m = .error (.exception ex) := by
  have hne : ¬ m.header.messageType = MessageType.methodReturn := by
    rw [htype]
    decide
  unfold receiveReply
  dsimp only
  rw [if_neg hne, if_pos htype]
  split
  · exact ⟨_, rfl⟩
  · split_ifs
    · split
      · rename_i fault hread
        obtain ⟨ex, rfl⟩ := readString_raises.exception hread
        exact ⟨ex, rfl⟩
      · exact ⟨_, rfl⟩
    · exact ⟨_, rfl⟩

end Calls

end SapDbLib
