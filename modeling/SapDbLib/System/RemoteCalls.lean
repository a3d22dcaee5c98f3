/-
  SapDbLib.System.RemoteCalls — A CALL OVER THE WIRE, THERE AND BACK.

  A proxy of the service's interface in one process, the service object in
  another, and between them nothing but bytes: the machines may differ in
  their byte order, and the bytes may arrive in any pieces.

    * `call_arrives`, `reply_arrives` — a call arrives as that call, and the
      reply to it under its serial;
    * `call_over_the_wire` — **a call runs its own body with its own
      arguments, and what that returns is what the caller gets**; an exception
      reaches the caller as one.
-/
import SapDbLib.Protocol.BusObject
import SapDbLib.Protocol.PendingCalls
import SapDbLib.Server.Agreement
import SapDbLib.Server.MethodCalls

namespace SapDbLib

open Library ProtocolInformation MessageReader

/-! ## §1. Calls like those of a proxy. -/

/-- The call is what dispatch takes for a call of that method with those
    arguments. -/
structure MethodCall.IsCallOf (call : MethodCall) (c : TypedCall) : Prop where
  path : call.path = servicePath
  interface : call.interface = some interfaceName
  member : call.member = c.method.name
  signature : call.signature = c.method.inSig
  replyExpected : call.replyExpected = true
  body : call.body c.method = .ok c.args

theorem MethodCall.IsCallOf.lookup {call : MethodCall} {c : TypedCall} (h : call.IsCallOf c)
    (eo : ExportObject) : eo.lookup call = eo.lookup c.remote.message := by
  have hmember : c.remote.message.member = c.method.name := rfl
  have hget : getMethod call = getMethod c.remote.message := by
    have hinterface : c.remote.message.interface = some interfaceName := rfl
    unfold getMethod
    rw [h.interface, h.member, h.signature, hmember, hinterface, (TypedCall.body_message c).2]
  unfold ExportObject.lookup
  rw [hget, h.member, hmember]

theorem ExportObject.Sound.handleMethodCall_isCallOf {eo : ExportObject} (hsound : eo.Sound)
    (srv : SapServerQuery) {call : MethodCall} {c : TypedCall} (h : call.IsCallOf c) :
    eo.handleMethodCall srv call = eo.handleMethodCall srv c.remote.message := by
  have hfound := (hsound.lookup c).1
  have hreply : c.remote.message.replyExpected = true := rfl
  unfold ExportObject.handleMethodCall
  rw [h.lookup]
  generalize eo.lookup c.remote.message = looked at hfound
  obtain ⟨found, eo'⟩ := looked
  simp only at hfound
  subst hfound
  simp only [(TypedCall.body_message c).1, h.body, h.replyExpected, hreply]

/-- **Such a call gets the method's body, once, and its outcome.** -/
theorem Connection.Serves.handleMethodCall_isCallOf {conn : Connection} (hserves : conn.Serves)
    (srv : SapServerQuery) {call : MethodCall} {c : TypedCall} (h : call.IsCallOf c) :
    (conn.handleMethodCall srv call).reply = some (replyOf (srv.run c.method c.args))
      ∧ (conn.handleMethodCall srv call).ran = some c.method
      ∧ (conn.handleMethodCall srv call).state.Serves := by
  have hsame : conn.handleMethodCall srv call = conn.handleMethodCall srv c.remote.message := by
    obtain ⟨eo, hreg, hsound⟩ := hserves
    have hpath : c.remote.message.path = servicePath := rfl
    have hinterface : c.remote.message.interface = some interfaceName := rfl
    have hpeer : some interfaceName ≠ some (text "org.freedesktop.DBus.Peer") := by decide
    have hintro : some interfaceName ≠ some (text "org.freedesktop.DBus.Introspectable") := by
      decide
    unfold Connection.handleMethodCall
    simp only [h.interface, hinterface, hpeer, hintro, false_and, if_false, h.path, hpath, hreg,
      hsound.handleMethodCall_isCallOf srv h]
  rw [hsame]
  exact hserves.handleMethodCall_typed srv c

/-! ## §2. Arguments in a body. -/

/-- The texts among the arguments have no lone surrogates. -/
def TypedCall.TextsWellFormed (c : TypedCall) : Prop :=
  ∀ v ∈ c.method.variants c.args, match v with
    | .string s => WellFormed s
    | .strings ss => ∀ s ∈ ss, WellFormed s

section Arguments

variable {sameKey : {k : ClrType} → Value k → Value k → Bool} {e : Endian} {data : Bytes}

theorem readable_ofTexts {ss : List Text} (h : ∀ s ∈ ss, WellFormed s) :
    (Value.ofTexts ss).Readable sameKey e := by
  refine ⟨trivial, ?_⟩
  induction ss with
  | nil => trivial
  | cons s ss ih =>
      exact ⟨h s List.mem_cons_self, ih fun s' hs' => h s' (List.mem_cons_of_mem _ hs')⟩

/-- Arguments with such texts are read back. -/
theorem TypedCall.TextsWellFormed.readable {c : TypedCall} (h : c.TextsWellFormed) :
    (c.method.fields c.args).Readable sameKey e := by
  obtain ⟨m, args⟩ := c
  cases m
  case pingSapDest => trivial
  case getValueFromTable =>
    obtain ⟨qtTable, qtColumn, qtDelimiter, qtWhere⟩ := args
    have htexts : WellFormed qtTable ∧ (∀ s ∈ qtColumn, WellFormed s) ∧ WellFormed qtDelimiter
        ∧ ∀ s ∈ qtWhere, WellFormed s := by
      simpa [TypedCall.TextsWellFormed, IfaceServer.variants] using h
    exact ⟨htexts.1, readable_ofTexts htexts.2.1, htexts.2.2.1, readable_ofTexts htexts.2.2.2,
      trivial⟩
  all_goals exact ⟨h (.string args) (List.mem_singleton.mpr rfl), trivial⟩

/-- **A body that holds the arguments gives them to the method.** -/
theorem readArguments_at {c : TypedCall} (htexts : c.TextsWellFormed)
    (hdata : data = (c.method.fields c.args).encode e.order 0)
    (hok : (c.method.fields c.args).WithinLimits e.order 0) (hsize : data.length ≤ maxStreamLength) :
    readArguments sameKey e data c.method = .ok c.args := by
  have hat : HasAt data 0 ((c.method.fields c.args).encode e.order 0) := by
    rw [hdata]
    exact List.prefix_rfl
  have hfields : ClrType.allHaveFields c.method.parameterTypes = true := by
    cases c.method <;> rfl
  have hreadable : (c.method.fields c.args).Readable sameKey e := htexts.readable
  have hread := readParameters_at hsize _ hfields hat hok hreadable
  unfold readArguments
  rw [hread]
  exact congrArg Except.ok (c.method.args_fields c.args)

end Arguments

/-! ## §3. There. -/

/-- A method of a proxy, up to the bytes that are written: its arguments, the
    message, the frame. -/
def BusObject.call (native : ByteOrder) (o : BusObject) (c : TypedCall) (serial : BitVec 32) :
    Except CSharpException Bytes := do
  let (_, writer) ← (c.method.fields c.args).write (Endian.own native) ⟨[], 0⟩
  let callMsg ← o.callMessage native interfaceName c.method.name c.method.signature writer.buffer
    serial
  writeMessage native callMsg

section Wire

variable {sameKey : {k : ClrType} → Value k → Value k → Bool} {w r : ByteOrder}
  {describe : CSharpException → Text × Text} {o : BusObject} {path : ObjectPath} {c : TypedCall}
  {serial : BitVec 32} {frame rest : Bytes} {s : NetworkStream}

/-- The contents in which a call arrives. -/
structure MessageContainer.ArrivedAs (contents : MessageContainer)
    (sameKey : {k : ClrType} → Value k → Value k → Bool) (w r : ByteOrder) (path : ObjectPath)
    (c : TypedCall) (serial : BitVec 32) : Prop where
  path_eq : contents.path = some path
  member_eq : contents.member = some c.method.name
  sender_eq : contents.sender = none
  serial_eq : (contents.message r).header.serial = serial
  endianness_eq : (contents.message r).header.endianness = nativeEndianness w
  signature_eq : contents.signature = some c.method.signature
  isCallOf : (contents.methodCall sameKey r path c.method.name c.method.signature).IsCallOf c

/-- **A call arrives as that call**, and not as a reply to one; the bytes
    behind it are left. -/
theorem call_arrives (hcall : o.call w c serial = .ok frame) (hpath : o.objectPath = some path)
    (hservice : path.value = servicePath) (hname : ∀ name ∈ o.busName, WellFormed name)
    (htexts : c.TextsWellFormed) (hsize : frame.length ≤ 16 + maxMessageLength)
    (hs : s.bytes = frame ++ rest) :
    ∃ msg s' contents, readMessage sameKey r s = .ok ⟨some msg, false, s'⟩ ∧ s'.bytes = rest
      ∧ msg.header.messageType = MessageType.methodCall ∧ msg.field FieldCode.replySerial = none
      ∧ fromMessage msg = .ok contents ∧ contents.ArrivedAs sameKey w r path c serial := by
  obtain ⟨⟨u, writer⟩, hwrite, hcall⟩ := bind_eq_ok.mp hcall
  obtain ⟨callMsg, hmessage, hframe⟩ := bind_eq_ok.mp hcall
  obtain ⟨hcarries, hexpected⟩ := BusObject.carries_callMessage hmessage
  -- the body holds the arguments
  obtain ⟨hok, hroom, hwriter⟩ := ((c.method.fields c.args).emits (Endian.own w) (Or.inl
    (Endian.isNative_own w)) ⟨[], 0⟩ writer ⟨rfl, by decide⟩).mp hwrite
  have hbody : writer.buffer = (c.method.fields c.args).encode w 0 := by
    rw [hwriter, Endian.order_own]
    rfl
  rw [Endian.order_own] at hok hroom
  -- its texts are well formed
  have hcontents : MessageContainer.TextsWellFormed { o.methodCall interfaceName c.method.name
      c.method.signature with serial := some serial } := by
    intro field hfield t ht
    have hcases : field = some interfaceName ∨ field = some c.method.name ∨ field = o.busName
        ∨ field = none := by simpa [BusObject.methodCall] using hfield
    rcases hcases with rfl | rfl | rfl | rfl
    · cases ht
      decide
    · cases ht
      cases c.method <;> decide
    · exact hname t ht
    · cases ht
  obtain ⟨s', hread, hrest, -, harrived⟩ := hcarries.delivered hcontents hframe hsize hs
  refine ⟨callMsg.received, s', _, hread, hrest, harrived.type, harrived.fields _,
    harrived.fromMessage, ?_⟩
  refine ⟨hpath, rfl, rfl, harrived.serial, harrived.endianness, rfl, ?_⟩
  refine ⟨hservice, rfl, rfl, (IfaceServer.inSig_eq c.method).symm, hexpected, ?_⟩
  -- the reader's order is the writer's
  have horder : Endian.order { native := r, endianness := callMsg.received.header.endianness }
      = w := by
    show wireOrder r callMsg.received.header.endianness = w
    rw [harrived.endianness, wireOrder_nativeEndianness]
  show readArguments sameKey { native := r, endianness := callMsg.received.header.endianness }
    (callMsg.received.body.getD []) c.method = .ok c.args
  rw [harrived.body, hbody]
  refine readArguments_at htexts ?_ ?_ ?_
  · rw [horder]
  · rwa [horder]
  · have hlength : 0 + ((c.method.fields c.args).encode w 0).length ≤ maxStreamLength := hroom
    omega

/-! ## §4. And back. -/

/-- The texts of an outcome can be sent: they have no lone surrogates, and
    the body is not too long for a stream. -/
def Sendable (describe : CSharpException → Text × Text) (w r : ByteOrder) :
    Except CSharpException Text → Prop
  | .ok t => WellFormed t ∧ (encodeText r t 0).length ≤ maxStreamLength
  | .error ex => WellFormed (describe ex).1 ∧ WellFormed (describe ex).2
      ∧ (encodeText w (describe ex).2 0).length ≤ maxStreamLength

/-- What the caller makes of the reply to a call with that outcome: a text is
    returned, an exception is raised, and its name and message are the
    server's if the machines have one byte order. -/
def Returned (describe : CSharpException → Text × Text) (w r : ByteOrder)
    (received : Except ReadFault Text) : Except CSharpException Text → Prop
  | .ok t => received = .ok t
  | .error ex => (∃ raised, received = .error (.exception raised))
      ∧ (w = r → received = .error (.exception
        (exception ((describe ex).1 ++ text ": " ++ (describe ex).2))))

/-- **A reply arrives under the serial of its call** with the outcome of the
    body. -/
theorem reply_arrives {contents : MessageContainer}
    (harrived : contents.ArrivedAs sameKey w r path c serial)
    {outcome : Except CSharpException Text} (hsendable : Sendable describe w r outcome)
    {sent : Except CSharpException (Option Protocol.Message)}
    (hsends : contents.Sends r describe sent (some (replyOf outcome))) :
    ∃ reply, sent = .ok (some reply) ∧ ∀ serial' frame' rest' (s : NetworkStream),
      writeMessage r (reply.setSerial serial') = .ok frame' →
      frame'.length ≤ 16 + maxMessageLength → s.bytes = frame' ++ rest' →
      ∃ back s', readMessage sameKey w s = .ok ⟨some back, false, s'⟩ ∧ s'.bytes = rest'
        ∧ replySerialOf back = some serial
        ∧ Returned describe w r (receiveReply w back) outcome := by
  have horder : wireOrder r (contents.message r).header.endianness = w := by
    rw [harrived.endianness_eq, wireOrder_nativeEndianness]
  obtain ⟨d, body, hcontents, hsent⟩ := hsends
  -- the contents of the reply, and what the receiver makes of them
  have hreply : body.length ≤ maxStreamLength ∧ d.TextsWellFormed
      ∧ d.replySerial = some serial
      ∧ ∀ back : Protocol.Message, ∀ n, back.Carries r { d with serial := n } body →
        Returned describe w r (receiveReply w back) outcome := by
    cases outcome with
    | ok t =>
        obtain ⟨ht, hsize⟩ := hsendable
        cases hcontents
        refine ⟨hsize, ?_, congrArg some harrived.serial_eq, ?_⟩
        · intro field hfield t' ht'
          have hnone : field = none := by
            simpa [MessageContainer.methodReturn, harrived.sender_eq] using hfield
          rw [hnone] at ht'
          cases ht'
        · intro back n hcarries
          exact receiveReply_return hcarries rfl ht hsize
    | error ex =>
        obtain ⟨hname, ht, hsize⟩ := hsendable
        cases hcontents
        rw [horder]
        refine ⟨hsize, ?_, congrArg some harrived.serial_eq, ?_⟩
        · intro field hfield t' ht'
          have hcases : field = none ∨ field = some (describe ex).1 := by
            simpa [MessageContainer.errorReply, harrived.sender_eq] using hfield
          rcases hcases with rfl | rfl
          · cases ht'
          · cases ht'
            exact hname
        · intro back n hcarries
          refine ⟨receiveReply_raises hcarries.type, ?_⟩
          intro hsame
          rw [hsame] at hcarries hsize ⊢
          exact receiveReply_error hcarries rfl rfl rfl ht hsize
  obtain ⟨hsize, htexts, hserial, hreturned⟩ := hreply
  obtain ⟨reply, hreply, hcarries⟩ := hsent hsize
  refine ⟨reply, hreply, ?_⟩
  intro serial' frame' rest' s hwrite hframe hs
  obtain ⟨s', hread, hrest, -, hback⟩ :=
    (hcarries.setSerial serial').delivered htexts hwrite hframe hs
  refine ⟨_, s', hread, hrest, ?_, hreturned _ _ hback⟩
  have hfield : MessageContainer.field { d with serial := some serial' } FieldCode.replySerial
      = some (boxUInt32 serial) := by
    show d.replySerial.map boxUInt32 = _
    rw [hserial]
    rfl
  unfold replySerialOf
  rw [hback.fields, hfield]
  rfl

/-- **A call over the wire**: the call of a proxy runs its own body with its
    own arguments on the object of the service, which goes on serving; and
    the reply, sent under any serial and received, gives the caller what the
    body returned, under the serial of the call.  The message of the call is
    no reply, so that it is the service that handles it. -/
theorem call_over_the_wire {conn : Connection} (hconn : conn.Serves) (srv : SapServerQuery)
    (hcall : o.call w c serial = .ok frame) (hpath : o.objectPath = some path)
    (hservice : path.value = servicePath) (hname : ∀ name ∈ o.busName, WellFormed name)
    (htexts : c.TextsWellFormed) (hsize : frame.length ≤ 16 + maxMessageLength)
    (hs : s.bytes = frame ++ rest) (houtcome : Sendable describe w r (srv.run c.method c.args)) :
    ∃ msg s' contents reply, readMessage sameKey r s = .ok ⟨some msg, false, s'⟩
      ∧ s'.bytes = rest ∧ msg.header.messageType = MessageType.methodCall
      ∧ msg.field FieldCode.replySerial = none ∧ fromMessage msg = .ok contents
      ∧ (conn.handleCall sameKey r describe srv contents).ran = some c.method
      ∧ (conn.handleCall sameKey r describe srv contents).state.Serves
      ∧ (conn.handleCall sameKey r describe srv contents).reply = .ok (some reply)
      ∧ ∀ serial' frame' rest' (t : NetworkStream),
        writeMessage r (reply.setSerial serial') = .ok frame' →
        frame'.length ≤ 16 + maxMessageLength → t.bytes = frame' ++ rest' →
        ∃ back t', readMessage sameKey w t = .ok ⟨some back, false, t'⟩ ∧ t'.bytes = rest'
          ∧ replySerialOf back = some serial
          ∧ Returned describe w r (receiveReply w back) (srv.run c.method c.args) := by
  obtain ⟨msg, s', contents, hread, hrest, htype, hreplySerial, hcontents, harrived⟩ :=
    @call_arrives sameKey w r o path c serial frame rest s hcall hpath hservice hname htexts hsize hs
  obtain ⟨hstate, hran, hsends⟩ := @Connection.handleCall_refines sameKey r describe contents conn
    srv path c.method.name c.method.signature harrived.path_eq harrived.member_eq
    harrived.signature_eq
  obtain ⟨hreply, hbody, hserves⟩ := hconn.handleMethodCall_isCallOf srv harrived.isCallOf
  rw [hreply] at hsends
  obtain ⟨reply, hsent, hback⟩ := reply_arrives harrived houtcome hsends
  refine ⟨msg, s', contents, reply, hread, hrest, htype, hreplySerial, hcontents, ?_, ?_, hsent,
    hback⟩
  · rw [hran, hbody]
  · rw [hstate]
    exact hserves

end Wire

theorem servicePath_valid : validatePath servicePath = .ok () := by decide

/-- The service as a proxy knows it. -/
def serviceObject : BusObject := ⟨some (text "a"), some ⟨servicePath, servicePath_valid⟩⟩

/-- A connection with nothing but the service. -/
def serviceConnection : Connection :=
  Connection.register
    { registeredObjects := fun _ => none, machineId := none, introspect := fun _ => [] } servicePath

/-- The call `getOrderQty ("60098052")`. -/
def orderQtyCall : TypedCall := ⟨.getOrderQty, text "60098052"⟩

/-- The bytes of this call behind the first, from a little-endian machine. -/
def orderQtyBytes : Bytes :=
  [1, 0, 1, 13, 0, 0, 0, 5, 0, 0, 0, 111, 0, 0, 0, 1, 1, 111, 0, 17, 0, 0, 0, 47, 99, 111, 109, 47,
   115, 119, 105, 115, 115, 98, 105, 116, 47, 115, 97, 112, 0, 0, 0, 0, 0, 0, 0, 2, 1, 115, 0,
   19, 0, 0, 0, 109, 121, 46, 115, 101, 114, 118, 101, 114, 46, 105, 110, 116, 101, 114, 102, 97,
   99, 101, 0, 0, 0, 0, 0, 3, 1, 115, 0, 11, 0, 0, 0, 103, 101, 116, 79, 114, 100, 101, 114, 81,
   116, 121, 0, 0, 0, 0, 0, 6, 1, 115, 0, 1, 0, 0, 0, 97, 0, 0, 0, 0, 0, 0, 0, 8, 1, 103, 0, 1,
   115, 0, 0, 8, 0, 0, 0, 54, 48, 48, 57, 56, 48, 53, 50, 0]

/-- The quantity of an order, asked for by a little-endian machine of a
    big-endian one. -/
theorem call_over_the_wire_orderQty :
    ∃ msg s' contents reply,
      readMessage (fun _ _ => false) .bigEndian ⟨[(108, orderQtyBytes)], true⟩
        = .ok ⟨some msg, false, s'⟩
      ∧ s'.bytes = [] ∧ msg.header.messageType = MessageType.methodCall
      ∧ msg.field FieldCode.replySerial = none ∧ fromMessage msg = .ok contents
      ∧ (serviceConnection.handleCall (fun _ _ => false) .bigEndian (fun _ => ([], []))
          oneOrderServer contents).ran = some .getOrderQty
      ∧ (serviceConnection.handleCall (fun _ _ => false) .bigEndian (fun _ => ([], []))
          oneOrderServer contents).state.Serves
      ∧ (serviceConnection.handleCall (fun _ _ => false) .bigEndian (fun _ => ([], []))
          oneOrderServer contents).reply = .ok (some reply)
      ∧ ∀ serial' frame' rest' (t : NetworkStream),
        writeMessage .bigEndian (reply.setSerial serial') = .ok frame' →
        frame'.length ≤ 16 + maxMessageLength → t.bytes = frame' ++ rest' →
        ∃ back t', readMessage (fun _ _ => false) .littleEndian t = .ok ⟨some back, false, t'⟩
          ∧ t'.bytes = rest' ∧ replySerialOf back = some 5
          ∧ Returned (fun _ => ([], [])) .littleEndian .bigEndian (receiveReply .littleEndian back)
            (.ok (text "      46.000")) := by
  have hcall : serviceObject.call .littleEndian orderQtyCall 5
      = .ok (108 :: orderQtyBytes) := by decide +kernel
  have hbytes : NetworkStream.bytes ⟨[(108, orderQtyBytes)], true⟩
      = (108 :: orderQtyBytes) ++ [] := rfl
  have hsize : (108 :: orderQtyBytes).length ≤ 16 + maxMessageLength := by decide +kernel
  have hname : ∀ name ∈ serviceObject.busName, WellFormed name := by
    intro name hname
    cases hname
    decide
  have htexts : orderQtyCall.TextsWellFormed := by
    intro v hv
    rw [List.mem_singleton.mp hv]
    show WellFormed (text "60098052")
    decide
  have hrun : oneOrderServer.run orderQtyCall.method orderQtyCall.args = .ok (text "      46.000") := by
    decide +kernel
  have houtcome : Sendable (fun _ => ([], [])) .littleEndian .bigEndian
      (.ok (text "      46.000")) := ⟨by decide +kernel, by decide +kernel⟩
  have hserves : serviceConnection.Serves := Connection.serves_register _
  have hwire := @call_over_the_wire (fun _ _ => false) .littleEndian .bigEndian
    (fun _ => ([], [])) serviceObject ⟨servicePath, servicePath_valid⟩ orderQtyCall 5
    (108 :: orderQtyBytes) [] ⟨[(108, orderQtyBytes)], true⟩ serviceConnection hserves
    oneOrderServer hcall rfl rfl hname htexts hsize hbytes
  rw [hrun] at hwire
  exact hwire houtcome

end SapDbLib
