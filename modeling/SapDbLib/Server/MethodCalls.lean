/-
  SapDbLib.Server.MethodCalls — METHOD CALLS AS THEY COME OVER THE WIRE.

  `Connection.HandleMethodCall` and `ExportObject.HandleMethodCall` on the
  message itself: the parameters are read from its body by the caller that
  was generated for the method, and what goes out is a message again.

    * `Connection.handleCall_refines` — **it does what dispatch does on the
      call that the message stands for**, and sends its answer;
    * `Connection.replies_in_order` — of any number of calls, those that are
      owed a reply get **one each, in the order of the calls**, under their
      own serials.
-/
import SapDbLib.Protocol.MessageContainer
import SapDbLib.Server.Dispatch

namespace SapDbLib

open Library ProtocolInformation MessageReader

/-! ## §1. Parameters. -/

/-- The text of a value. -/
def Value.text : Value .string → Text
  | .string s => s

/-- The texts of an array. -/
def Value.texts : Value (.array .string) → List Text
  | .array vs => vs.toList.map Value.text

/-- An array of texts. -/
def Value.ofTexts (ss : List Text) : Value (.array .string) :=
  .array (Values.ofList (ss.map .string))

/-- The first field. -/
def Fields.head {t : ClrType} {ts : List ClrType} : Fields (t :: ts) → Value t
  | .cons v _ => v

/-- The fields behind it. -/
def Fields.tail {t : ClrType} {ts : List ClrType} : Fields (t :: ts) → Fields ts
  | .cons _ fs => fs

theorem Value.texts_ofTexts (ss : List Text) : (Value.ofTexts ss).texts = ss := by
  show (Values.ofList (ss.map .string)).toList.map Value.text = ss
  rw [Values.toList_ofList, List.map_map]
  exact List.map_id ss

namespace IfaceServer

/-- The types of the parameters. -/
def parameterTypes : IfaceServer → List ClrType
  | getMatNrFromPa => [.string]
  | pingSapDest => []
  | getMatKurzText => [.string]
  | getValueFromTable => [.string, .array .string, .string, .array .string]
  | getOrderTypeNr => [.string]
  | getOrderQty => [.string]
  | getOrderFailQty => [.string]
  | getOrderType => [.string]

/-- The signature of the parameters, as bytes. -/
def signature (m : IfaceServer) : Bytes := ClrType.codes m.parameterTypes

/-- The arguments one after the other. -/
def fields : (m : IfaceServer) → m.Args → Fields m.parameterTypes
  | getMatNrFromPa, s => .cons (.string s) .nil
  | pingSapDest, _ => .nil
  | getMatKurzText, s => .cons (.string s) .nil
  | getValueFromTable, (qtTable, qtColumn, qtDelimiter, qtWhere) =>
      .cons (.string qtTable) (.cons (Value.ofTexts qtColumn)
        (.cons (.string qtDelimiter) (.cons (Value.ofTexts qtWhere) .nil)))
  | getOrderTypeNr, s => .cons (.string s) .nil
  | getOrderQty, s => .cons (.string s) .nil
  | getOrderFailQty, s => .cons (.string s) .nil
  | getOrderType, s => .cons (.string s) .nil

/-- The arguments that were read. -/
def args : (m : IfaceServer) → Fields m.parameterTypes → m.Args
  | getMatNrFromPa, fs => fs.head.text
  | pingSapDest, _ => ()
  | getMatKurzText, fs => fs.head.text
  | getValueFromTable, fs =>
      (fs.head.text, fs.tail.head.texts, fs.tail.tail.head.text, fs.tail.tail.tail.head.texts)
  | getOrderTypeNr, fs => fs.head.text
  | getOrderQty, fs => fs.head.text
  | getOrderFailQty, fs => fs.head.text
  | getOrderType, fs => fs.head.text

theorem args_fields (m : IfaceServer) (a : m.Args) : m.args (m.fields a) = a := by
  cases m
  case getValueFromTable =>
    obtain ⟨qtTable, qtColumn, qtDelimiter, qtWhere⟩ := a
    show (qtTable, (Value.ofTexts qtColumn).texts, qtDelimiter, (Value.ofTexts qtWhere).texts) = _
    rw [Value.texts_ofTexts, Value.texts_ofTexts]
  all_goals rfl

/-- `GetSig` of the parameters. -/
theorem getSigs_parameterTypes (m : IfaceServer) :
    getSigs m.parameterTypes = .ok m.signature := by
  refine getSigs_of_signable m.parameterTypes ?_
  cases m <;> decide

theorem inSig_eq (m : IfaceServer) : m.inSig = asciiText m.signature := by
  cases m <;> decide

/-- The signature of a call is that of a method if its text is. -/
theorem asciiText_eq_inSig {m : IfaceServer} {sig : Bytes} :
    asciiText sig = m.inSig ↔ sig = m.signature := by
  constructor
  · intro h
    rw [inSig_eq] at h
    -- all other bytes come out as a question mark, which no signature has
    have hbytes : 63 ∉ asciiText m.signature := by
      cases m <;> decide
    have hback : ∀ data : Bytes, 63 ∉ asciiText data →
        (asciiText data).map UInt16.toUInt8 = data := by
      intro data hdata
      induction data with
      | nil => rfl
      | cons b data ih =>
          have hcons : asciiText (b :: data)
              = (if b.toNat < 128 then b.toUInt16 else 63) :: asciiText data := rfl
          rw [hcons, List.mem_cons, not_or] at hdata
          obtain ⟨hhead, htail⟩ := hdata
          have hb : b.toNat < 128 := by
            by_contra hb
            exact hhead (if_neg hb).symm
          rw [hcons, List.map_cons, if_pos hb, ih htail, UInt8.toUInt8_toUInt16]
    rw [← hback m.signature hbytes, ← h]
    exact (hback sig (by rwa [h])).symm
  · intro h
    rw [h, inSig_eq]

end IfaceServer

/-! ## §2. Reading the parameters. -/

section Reading

variable {sameKey : {k : ClrType} → Value k → Value k → Bool} {e : Endian} {data : Bytes}

variable (sameKey e data) in
/-- The reads that `GenCaller` generates for the parameters. -/
def readParameters : (ts : List ClrType) → Reader (Fields ts)
  | [] => return .nil
  | t :: ts => do
      let v ← MessageReader.read sameKey e data t
      let fs ← readParameters ts
      return .cons v fs

/-- Arguments are read from their encoding. -/
theorem readParameters_at (hdata : data.length ≤ maxStreamLength) : {ts : List ClrType} →
    (fs : Fields ts) → ClrType.allHaveFields ts = true → {pos : Nat} →
    HasAt data pos (fs.encode e.order pos) → fs.WithinLimits e.order pos →
    fs.Readable sameKey e →
    Runs (readParameters sameKey e data ts) pos fs (pos + (fs.encode e.order pos).length)
  | _, .nil, _, pos, _, _, _ => runs_pure.mpr ⟨rfl, rfl⟩
  | t :: ts, .cons v fs, hts, pos, hat, hok, hread => by
      obtain ⟨ht, hts⟩ : t.hasFields = true ∧ ClrType.allHaveFields ts = true := by
        simpa [ClrType.allHaveFields] using hts
      rw [Fields.encode] at hat ⊢
      obtain ⟨hv, hfs⟩ := hasAt_append.mp hat
      have hfirst := read_of_runs ht (v.reads hdata hv hok.1 hread.1 (Nat.le_refl _))
      have hrest := readParameters_at hdata fs hts hfs hok.2 hread.2
      rw [readParameters, List.length_append, ← Nat.add_assoc]
      exact hfirst.bind (hrest.bind (runs_pure.mpr ⟨rfl, rfl⟩))

/-- Reading copies no memory. -/
def CopiesNothing {α : Type} (x : Reader α) : Prop := ∀ pos, Avoids .overrun x pos

section CopiesNothing

variable {α β : Type} {x : Reader α} {f : α → Reader β}

theorem copiesNothing_pure (a : α) : CopiesNothing (pure a : Reader α) := fun _ => avoids_pure a

theorem copiesNothing_throwEx {ex : CSharpException} :
    CopiesNothing (throwEx ex : Reader α) := fun _ => avoids_throw ReadFault.noConfusion

theorem CopiesNothing.bind (hx : CopiesNothing x) (hf : ∀ a, CopiesNothing (f a)) :
    CopiesNothing (x >>= f) := fun pos => avoids_bind (hx pos) fun a pos' _ => hf a pos'

theorem copiesNothing_get_bind {g : Nat → Reader β} (h : ∀ pos, CopiesNothing (g pos)) :
    CopiesNothing (do let pos ← get; g pos) := fun pos => avoids_get_bind (h pos pos)

theorem copiesNothing_set_bind {t : Nat} {y : Reader β} (h : CopiesNothing y) :
    CopiesNothing (do set t; y) := fun _ => avoids_set_bind (h t)

theorem CopiesNothing.ite {c : Prop} [Decidable c] {y : Reader α} (hx : CopiesNothing x)
    (hy : CopiesNothing y) : CopiesNothing (if c then x else y) := by
  by_cases hc : c
  · rwa [if_pos hc]
  · rwa [if_neg hc]

end CopiesNothing

theorem readPad_copiesNothing {alignment : Nat} : CopiesNothing (readPad data alignment) := by
  refine copiesNothing_get_bind fun pos => ?_
  induction padded pos alignment - pos with
  | zero => exact copiesNothing_pure _
  | succ n ih =>
      refine copiesNothing_get_bind fun p => ?_
      cases data[p]? with
      | none => exact copiesNothing_throwEx
      | some b => exact copiesNothing_throwEx.ite (copiesNothing_set_bind ih)

theorem readNull_copiesNothing : CopiesNothing (readNull data) := by
  refine copiesNothing_get_bind fun pos => ?_
  cases data[pos]? with
  | none => exact copiesNothing_throwEx
  | some b => exact copiesNothing_throwEx.ite fun _ => avoids_set

theorem unmarshal_copiesNothing {size : Nat} : CopiesNothing (unmarshal e data size) :=
  readPad_copiesNothing.bind fun _ => copiesNothing_get_bind fun _ =>
    copiesNothing_throwEx.ite (copiesNothing_set_bind (copiesNothing_pure _))

theorem readString_copiesNothing : CopiesNothing (readString e data) :=
  unmarshal_copiesNothing.bind fun _ => copiesNothing_get_bind fun _ =>
    copiesNothing_throwEx.ite
      (copiesNothing_set_bind (readNull_copiesNothing.bind fun _ => copiesNothing_pure _))

theorem readText_copiesNothing (n : Nat) :
    CopiesNothing (readValue sameKey e data n .string) := by
  cases n with
  | zero => exact fun _ => avoids_throw ReadFault.noConfusion
  | succ n =>
      rw [readValue]
      exact readString_copiesNothing.bind fun _ => copiesNothing_pure _

theorem readTexts_copiesNothing (n : Nat) :
    CopiesNothing (readValue sameKey e data n (.array .string)) := by
  have helements : ∀ n endPos, CopiesNothing (readElements sameKey e data n .string endPos) := by
    intro n endPos
    induction n with
    | zero => exact fun _ => avoids_throw ReadFault.noConfusion
    | succ n ih =>
        rw [readElements]
        exact copiesNothing_get_bind fun _ => ((readText_copiesNothing n).bind fun _ =>
          ih.bind fun _ => copiesNothing_pure _).ite (copiesNothing_pure _)
  cases n with
  | zero => exact fun _ => avoids_throw ReadFault.noConfusion
  | succ n =>
      have hlength : CopiesNothing (readArrayLength e data .string) :=
        (copiesNothing_pure _).bind fun _ => unmarshal_copiesNothing.bind fun _ =>
          copiesNothing_throwEx.ite (readPad_copiesNothing.bind fun _ => copiesNothing_pure _)
      rw [readValue_array rfl ClrType.noConfusion]
      exact hlength.bind fun _ => copiesNothing_get_bind fun _ =>
        (helements n _).bind fun _ =>
          CopiesNothing.bind
            (copiesNothing_get_bind fun _ => copiesNothing_throwEx.ite (copiesNothing_pure _))
            fun _ => copiesNothing_pure _

/-- The parameters of the interface are texts and arrays of texts, and reading
    these ends in a result or an exception. -/
theorem readParameters_throws {m : IfaceServer} {fault : ReadFault}
    (h : readParameters sameKey e data m.parameterTypes 0 = .error fault) :
    ∃ ex, fault = .exception ex := by
  have hread : ∀ ts : List ClrType, (∀ t ∈ ts, t = .string ∨ t = .array .string) →
      ∀ pos, Avoids .overrun (readParameters sameKey e data ts) pos
        ∧ Avoids .unfinished (readParameters sameKey e data ts) pos := by
    intro ts hts
    induction ts with
    | nil => exact fun pos => ⟨avoids_pure _, avoids_pure _⟩
    | cons t ts ih =>
        intro pos
        have htail := ih fun t' ht' => hts t' (List.mem_cons_of_mem _ ht')
        have hfirst : CopiesNothing (MessageReader.read sameKey e data t)
            ∧ t.hasFields = true := by
          rcases hts t List.mem_cons_self with rfl | rfl
          · exact ⟨readText_copiesNothing _, rfl⟩
          · exact ⟨readTexts_copiesNothing _, rfl⟩
        exact ⟨avoids_bind (hfirst.1 pos) fun _ pos' _ =>
            avoids_bind (htail pos').1 fun _ _ _ => avoids_pure _,
          avoids_bind (read_finishes hfirst.2 pos) fun _ pos' _ =>
            avoids_bind (htail pos').2 fun _ _ _ => avoids_pure _⟩
  have hm : ∀ t ∈ m.parameterTypes, t = .string ∨ t = .array .string := by
    cases m <;> simp [IfaceServer.parameterTypes]
  obtain ⟨hoverrun, hunfinished⟩ := hread _ hm 0
  cases fault with
  | exception ex => exact ⟨ex, rfl⟩
  | overrun => exact absurd h hoverrun
  | unfinished => exact absurd h hunfinished

/-- A fault as the exception it is.  No other comes up (`readParameters_throws`). -/
def ReadFault.toException : ReadFault → CSharpException
  | .exception ex => ex
  | .overrun | .unfinished => .other (text "System.AccessViolationException") []

variable (sameKey e data) in
/-- The arguments of a method, read from a body. -/
def readArguments (m : IfaceServer) : Except CSharpException m.Args :=
  match readParameters sameKey e data m.parameterTypes 0 with
  | .ok (fs, _) => .ok (m.args fs)
  | .error fault => .error fault.toException

end Reading

/-! ## §3. Messages that answer. -/

/-- `message.Header[FieldCode.Destination] = method_call.Sender`, if there is
    one. -/
def Protocol.Message.addressTo (m : Protocol.Message) : Option Text → Protocol.Message
  | none => m
  | some sender => m.setField FieldCode.destination (some (boxString sender))

/-- The contents of a `MethodReturn` for a call. -/
def MessageContainer.methodReturn (native : ByteOrder) (c : MessageContainer) : MessageContainer :=
  { type := MessageType.methodReturn, replySerial := some (c.message native).header.serial }

/-- `ConstructReply` without a value, or with a text. -/
def constructReply (native : ByteOrder) (c : MessageContainer) (value : Option Text) :
    Except CSharpException Protocol.Message := do
  let replyMsg := (c.methodReturn native).exportToMessage native
  match value with
  | none => return (replyMsg.addressTo c.sender).setSignature (some [])
  | some s =>
      let (_, stream) ← MessageWriter.writeString (Endian.own native) s ⟨[], 0⟩
      return ((replyMsg.attachBodyTo stream.buffer).addressTo c.sender).setSignature
        (some (basicSig .string))

/-! ## §4. Handling. -/

/-- What handling the message of a call did: the state left in `α`, the body
    that ran, and the message sent back, if no exception gets out. -/
structure Answered (α : Type) where
  state : α
  ran : Option IfaceServer
  reply : Except CSharpException (Option Protocol.Message)

/-- A dictionary that is asked for null. -/
def argumentNullException : CSharpException := .other (text "System.ArgumentNullException") []

section Handling

/- `describe` gives an exception's interface name, the full name of its type,
   and its message. -/
variable (sameKey : {k : ClrType} → Value k → Value k → Bool) (native : ByteOrder)
  (describe : CSharpException → Text × Text)

/-- `Mapper.GetMethod` on a message. -/
def MessageContainer.getMethod (c : MessageContainer) (member : Text) : Option IfaceServer :=
  IfaceServer.members.find? fun m =>
    (c.interface.isNone || c.interface == some interfaceName)
      && m.name == member && some m.signature == c.signature

/-- The cached lookup at the head of `HandleMethodCall`. -/
def ExportObject.lookupMessage (eo : ExportObject) (c : MessageContainer) (member : Text) :
    Option IfaceServer × ExportObject :=
  match eo.methodInfoCache member with
  | some mi => (mi, eo)
  | none =>
      let mi := c.getMethod member
      (mi, { methodInfoCache := Function.update eo.methodInfoCache member (some mi) })

/-- What the generated caller reads: the arguments of the method. -/
def MessageContainer.arguments (c : MessageContainer) (m : IfaceServer) :
    Except CSharpException m.Args :=
  let msg := c.message native
  readArguments sameKey { native := native, endianness := msg.header.endianness }
    (msg.body.getD []) m

/-- What the generated caller does: it reads the arguments, runs the body and
    writes the result.  What of the result is written before an exception is
    lost with it. -/
def MessageContainer.callBody (c : MessageContainer) (srv : SapServerQuery) (m : IfaceServer) :
    Except CSharpException Bytes := do
  let args ← c.arguments sameKey native m
  let s ← srv.run m args
  let (_, retWriter) ← MessageWriter.writeString (Endian.own native) s ⟨[], 0⟩
  return retWriter.buffer

/-- The message that answers what the generated caller did. -/
def MessageContainer.answer (c : MessageContainer) :
    Except CSharpException Bytes → Except CSharpException Protocol.Message
  | .ok body =>
      return ((((c.methodReturn native).exportToMessage native).attachBodyTo body).setSignature
        (some (basicSig .string))).addressTo c.sender
  | .error raisedException => do
      let (errorName, errorMessage) := describe raisedException
      let replyMsg ← c.createError native errorName errorMessage
      return replyMsg.addressTo c.sender

/-- `ExportObject.HandleMethodCall` of a message. -/
def ExportObject.handleCall (eo : ExportObject) (srv : SapServerQuery) (c : MessageContainer) :
    Answered ExportObject :=
  match c.member with
  | none => { state := eo, ran := none, reply := .error argumentNullException }
  | some member =>
      match eo.lookupMessage c member with
      | (none, eo) => { state := eo, ran := none, reply := createUnknownMethodError native c }
      | (some mi, eo) =>
          { state := eo
            ran := (c.arguments sameKey native mi).toOption.map fun _ => mi
            reply :=
              if (c.message native).replyExpected then
                some <$> c.answer native describe (c.callBody sameKey native srv mi)
              else .ok none }

/-- `Connection.HandleMethodCall` of a message. -/
def Connection.handleCall (conn : Connection) (srv : SapServerQuery) (c : MessageContainer) :
    Answered Connection :=
  if c.interface = some (text "org.freedesktop.DBus.Peer") ∧ c.member = some (text "Ping") then
    { state := conn, ran := none, reply := some <$> constructReply native c none }
  else if c.interface = some (text "org.freedesktop.DBus.Peer")
      ∧ c.member = some (text "GetMachineId") ∧ conn.machineId.isSome then
    { state := conn, ran := none, reply := some <$> constructReply native c conn.machineId }
  else if c.interface = some (text "org.freedesktop.DBus.Introspectable")
      ∧ c.member = some (text "Introspect") then
    { state := conn, ran := none
      reply := do
        let path ← deref c.path
        let reply ← constructReply native c (some (conn.introspect path.value))
        return some reply }
  else
    match c.path with
    | none => { state := conn, ran := none, reply := .error argumentNullException }
    | some path =>
        match conn.registeredObjects path.value with
        | some eo =>
            let h := eo.handleCall sameKey native describe srv c
            { state := conn.setObject path.value h.state, ran := h.ran, reply := h.reply }
        | none => { state := conn, ran := none, reply := createUnknownMethodError native c }

end Handling

/-! ## §5. What dispatch says of it. -/

section Refinement

variable (sameKey : {k : ClrType} → Value k → Value k → Bool) (native : ByteOrder)
  (describe : CSharpException → Text × Text) (c : MessageContainer)

/-- The call that a message stands for. -/
def MessageContainer.methodCall (path : ObjectPath) (member : Text) (sig : Bytes) : MethodCall :=
  { path := path.value
    interface := c.interface
    member := member
    signature := asciiText sig
    replyExpected := (c.message native).replyExpected
    body := c.arguments sameKey native }

/-- The contents of an error for a call. -/
def MessageContainer.errorReply (errorName : Text) : MessageContainer :=
  { type := MessageType.error
    errorName := some errorName
    replySerial := some (c.message native).header.serial
    signature := some (basicSig .string)
    destination := c.sender }

/-- The contents and the body of the message that an answer is sent in. -/
def MessageContainer.replyContents : QDBusMessage → Option (MessageContainer × Bytes)
  | .reply [] =>
      some ({ c.methodReturn native with destination := c.sender, signature := some [] }, [])
  | .reply [.string s] =>
      some ({ c.methodReturn native with
          destination := c.sender, signature := some (basicSig .string) },
        encodeText native s 0)
  -- the text of an error is written in the order of the call
  | .error (.unknownMethod message) =>
      some (c.errorReply native (text "org.freedesktop.DBus.Error.UnknownMethod"),
        encodeText (wireOrder native (c.message native).header.endianness) message 0)
  | .error (.exception ex) =>
      some (c.errorReply native (describe ex).1,
        encodeText (wireOrder native (c.message native).header.endianness) (describe ex).2 0)
  | _ => none

/-- The message sent back says what dispatch answers, if its body is not too
    long for a stream. -/
def MessageContainer.Sends (reply : Except CSharpException (Option Protocol.Message)) :
    Option QDBusMessage → Prop
  | none => reply = .ok none
  | some answer => ∃ contents body, c.replyContents native describe answer = some (contents, body)
      ∧ (body.length ≤ maxStreamLength →
        ∃ m, reply = .ok (some m) ∧ m.Carries native contents body)

variable {sameKey native describe c}

theorem Protocol.Message.Carries.addressTo {m : Protocol.Message} {contents : MessageContainer}
    {body : Bytes} {sender : Option Text} (h : m.Carries native contents body)
    (hdestination : contents.destination = none ∨ contents.destination = sender) :
    (m.addressTo sender).Carries native { contents with destination := sender } body := by
  cases sender with
  | none =>
      have hnone : contents.destination = none := by simpa using hdestination
      have hsame : { contents with destination := none } = contents := by rw [← hnone]
      rw [hsame]
      exact h
  | some sender => exact h.setDestination sender

/-- Writing a text into an empty stream. -/
theorem writeString_empty {e : Endian} {s : Text}
    (hsize : (encodeText e.order s 0).length ≤ maxStreamLength) :
    MessageWriter.writeString e s ⟨[], 0⟩
      = .ok ((), (⟨[], 0⟩ : MemoryStream).append (encodeText e.order s 0)) :=
  (emits_writeString e s ⟨[], 0⟩ _ ⟨rfl, by decide⟩).mpr
    ⟨trivial, by rwa [Nat.zero_add], rfl⟩

theorem createError_sends {errorName s : Text}
    (hsize : (encodeText (wireOrder native (c.message native).header.endianness) s 0).length
      ≤ maxStreamLength) :
    ∃ m, c.createError native errorName s = .ok m ∧ m.Carries native (c.errorReply native errorName)
      (encodeText (wireOrder native (c.message native).header.endianness) s 0) := by
  have hwrite := writeString_empty (e := { native := native
                                           endianness := (c.message native).header.endianness })
    (s := s) hsize
  exact ⟨_, bind_eq_ok.mpr ⟨_, hwrite, rfl⟩, carries_exportToMessage native _ _⟩

theorem createUnknownMethodError_sends {path : ObjectPath} {member : Text} {sig : Bytes}
    (hmember : c.member = some member) (hsig : c.signature = some sig) :
    c.Sends native describe (createUnknownMethodError native c)
      (unknownMethodError (c.methodCall sameKey native path member sig)) := by
  unfold createUnknownMethodError unknownMethodError
  show c.Sends native describe _ (if (c.message native).replyExpected = true then _ else _)
  by_cases hreply : (c.message native).replyExpected = true
  · rw [if_pos hreply, if_pos hreply]
    refine ⟨_, _, rfl, fun hsize => ?_⟩
    obtain ⟨m, hm, hcarries⟩ := createError_sends hsize
    refine ⟨m, ?_, hcarries⟩
    refine bind_eq_ok.mpr ⟨m, ?_, rfl⟩
    rw [← hm, hmember, hsig]
    simp only [Option.getD_some, List.append_assoc]
    rfl
  · rw [if_neg hreply, if_neg hreply]
    rfl

/-- What a body does is sent back. -/
theorem answer_sends (srv : SapServerQuery) (m : IfaceServer) :
    c.Sends native describe (some <$> c.answer native describe (c.callBody sameKey native srv m))
      (some (match c.arguments sameKey native m with
        | .error ex => .error (.exception ex)
        | .ok args => replyOf (srv.run m args))) := by
  have herror : ∀ ex, c.callBody sameKey native srv m = .error ex →
      c.Sends native describe
        (some <$> c.answer native describe (c.callBody sameKey native srv m))
        (some (.error (.exception ex))) := by
    intro ex hbody
    rw [hbody]
    refine ⟨_, _, rfl, fun hsize => ?_⟩
    obtain ⟨reply, hreply, hcarries⟩ := @createError_sends native c (describe ex).1 _ hsize
    refine ⟨reply.addressTo c.sender, ?_, hcarries.addressTo (Or.inr rfl)⟩
    show some <$> (c.createError native (describe ex).1 (describe ex).2 >>= fun replyMsg =>
      pure (replyMsg.addressTo c.sender)) = _
    rw [hreply]
    rfl
  cases hargs : c.arguments sameKey native m with
  | error ex =>
      refine herror ex ?_
      rw [MessageContainer.callBody, hargs]
      rfl
  | ok args =>
      show c.Sends native describe _ (some (replyOf (srv.run m args)))
      cases hrun : srv.run m args with
      | error ex =>
          refine herror ex ?_
          rw [MessageContainer.callBody, hargs]
          show (srv.run m args >>= _) = _
          rw [hrun]
          rfl
      | ok s =>
          refine ⟨_, _, rfl, fun hsize => ?_⟩
          have hwrite := writeString_empty (e := Endian.own native) (s := s)
            (by rwa [Endian.order_own])
          rw [Endian.order_own] at hwrite
          have hbody : c.callBody sameKey native srv m = .ok (encodeText native s 0) :=
            bind_eq_ok.mpr ⟨args, hargs, bind_eq_ok.mpr ⟨s, hrun,
              bind_eq_ok.mpr ⟨_, hwrite, rfl⟩⟩⟩
          rw [hbody]
          refine ⟨_, rfl, ?_⟩
          exact ((carries_exportToMessage native (c.methodReturn native) _).setSignature
            (some (basicSig .string))).addressTo (Or.inl rfl)

theorem getMethod_methodCall {path : ObjectPath} {member : Text} {sig : Bytes}
    (hsig : c.signature = some sig) :
    getMethod (c.methodCall sameKey native path member sig) = c.getMethod member := by
  unfold getMethod MessageContainer.getMethod
  have hsignature : ∀ m : IfaceServer,
      (m.inSig == asciiText sig) = (some m.signature == c.signature) := by
    intro m
    rw [hsig, Bool.eq_iff_iff, beq_iff_eq, beq_iff_eq, Option.some.injEq, eq_comm,
        IfaceServer.asciiText_eq_inSig, eq_comm]
  congr 1
  funext m
  exact congrArg (_ && ·) (hsignature m)

theorem lookup_methodCall (eo : ExportObject) {path : ObjectPath} {member : Text} {sig : Bytes}
    (hsig : c.signature = some sig) :
    eo.lookup (c.methodCall sameKey native path member sig) = eo.lookupMessage c member := by
  unfold ExportObject.lookup ExportObject.lookupMessage
  rw [getMethod_methodCall hsig]
  rfl

/-- The object does what dispatch does. -/
theorem ExportObject.handleCall_refines (eo : ExportObject) (srv : SapServerQuery)
    {path : ObjectPath} {member : Text} {sig : Bytes} (hmember : c.member = some member)
    (hsig : c.signature = some sig) :
    (eo.handleCall sameKey native describe srv c).state
        = (eo.handleMethodCall srv (c.methodCall sameKey native path member sig)).state
      ∧ (eo.handleCall sameKey native describe srv c).ran
        = (eo.handleMethodCall srv (c.methodCall sameKey native path member sig)).ran
      ∧ c.Sends native describe (eo.handleCall sameKey native describe srv c).reply
        (eo.handleMethodCall srv (c.methodCall sameKey native path member sig)).reply := by
  unfold ExportObject.handleCall ExportObject.handleMethodCall
  rw [hmember, lookup_methodCall eo hsig]
  dsimp only
  obtain ⟨found, eo'⟩ := eo.lookupMessage c member
  cases found with
  | none => exact ⟨rfl, rfl, createUnknownMethodError_sends hmember hsig⟩
  | some m =>
      have hsends := @answer_sends sameKey native describe c srv m
      have hbody : (c.methodCall sameKey native path member sig).body m
          = c.arguments sameKey native m := rfl
      have hexpected : (c.methodCall sameKey native path member sig).replyExpected
          = (c.message native).replyExpected := rfl
      dsimp only
      rw [hbody, hexpected]
      cases hargs : c.arguments sameKey native m with
      | error ex =>
          rw [hargs] at hsends
          refine ⟨rfl, rfl, ?_⟩
          dsimp only
          split_ifs
          · exact hsends
          · rfl
      | ok args =>
          rw [hargs] at hsends
          refine ⟨rfl, rfl, ?_⟩
          dsimp only
          split_ifs
          · exact hsends
          · rfl

theorem constructReply_none_sends :
    c.Sends native describe (some <$> constructReply native c none) (some (.reply [])) :=
  ⟨_, _, rfl, fun _ => ⟨_, rfl,
    ((carries_export native (c.methodReturn native)).addressTo (Or.inl rfl)).setSignature (some [])⟩⟩

theorem constructReply_text_sends {s : Text} :
    c.Sends native describe (some <$> constructReply native c (some s))
      (some (.reply [.string s])) := by
  refine ⟨_, _, rfl, fun hsize => ?_⟩
  have hwrite := writeString_empty (e := Endian.own native) (s := s) (by rwa [Endian.order_own])
  rw [Endian.order_own] at hwrite
  have hreply : ∃ m, constructReply native c (some s) = .ok m
      ∧ m.Carries native { c.methodReturn native with destination := c.sender
                                                      signature := some (basicSig .string) }
        (encodeText native s 0) :=
    ⟨_, bind_eq_ok.mpr ⟨_, hwrite, rfl⟩,
      ((carries_exportToMessage native (c.methodReturn native) _).addressTo
        (Or.inl rfl)).setSignature (some (basicSig .string))⟩
  obtain ⟨m, hm, hcarries⟩ := hreply
  refine ⟨m, ?_, hcarries⟩
  rw [hm]
  rfl

/-- **The message of a call is handled as dispatch handles the call**: the
    same body runs, the same state is left, and the answer is sent. -/
theorem Connection.handleCall_refines (conn : Connection) (srv : SapServerQuery)
    {path : ObjectPath} {member : Text} {sig : Bytes} (hpath : c.path = some path)
    (hmember : c.member = some member) (hsig : c.signature = some sig) :
    (conn.handleCall sameKey native describe srv c).state
        = (conn.handleMethodCall srv (c.methodCall sameKey native path member sig)).state
      ∧ (conn.handleCall sameKey native describe srv c).ran
        = (conn.handleMethodCall srv (c.methodCall sameKey native path member sig)).ran
      ∧ c.Sends native describe (conn.handleCall sameKey native describe srv c).reply
        (conn.handleMethodCall srv (c.methodCall sameKey native path member sig)).reply := by
  have hcall : (c.methodCall sameKey native path member sig).interface = c.interface
      ∧ (c.methodCall sameKey native path member sig).member = member
      ∧ (c.methodCall sameKey native path member sig).path = path.value := ⟨rfl, rfl, rfl⟩
  unfold Connection.handleCall Connection.handleMethodCall
  rw [hcall.1, hcall.2.1, hcall.2.2, hmember, hpath]
  simp only [Option.some.injEq]
  split_ifs with hping hid hintro
  · exact ⟨rfl, rfl, constructReply_none_sends⟩
  · obtain ⟨machineId, hmachine⟩ := Option.isSome_iff_exists.mp hid.2.2
    rw [hmachine]
    exact ⟨rfl, rfl, constructReply_text_sends⟩
  · exact ⟨rfl, rfl, constructReply_text_sends⟩
  · -- the call goes to the object under its path
    cases conn.registeredObjects path.value with
    | none => exact ⟨rfl, rfl, createUnknownMethodError_sends hmember hsig⟩
    | some eo =>
        obtain ⟨hstate, hran, hsends⟩ := @ExportObject.handleCall_refines sameKey native describe c
          eo srv path member sig hmember hsig
        dsimp only
        rw [hstate, hran]
        exact ⟨rfl, rfl, hsends⟩

end Refinement

/-! ## §6. One reply for each call. -/

section Replies

variable (sameKey : {k : ClrType} → Value k → Value k → Bool) (native : ByteOrder)
  (describe : CSharpException → Text × Text) (srv : SapServerQuery)

/-- The call is owed a reply: it expects one, or the connection answers it
    itself, and then it is not asked whether it does. -/
def Connection.owesReply (conn : Connection) (c : MessageContainer) : Bool :=
  (c.message native).replyExpected
    || (c.interface == some (text "org.freedesktop.DBus.Peer")
      && (c.member == some (text "Ping")
        || c.member == some (text "GetMachineId") && conn.machineId.isSome))
    || (c.interface == some (text "org.freedesktop.DBus.Introspectable")
      && c.member == some (text "Introspect"))

/-- The message is a reply to the call: it names its serial and goes to its
    sender. -/
def IsReplyTo (m : Protocol.Message) (c : MessageContainer) : Prop :=
  ∃ contents body, m.Carries native contents body
    ∧ contents.replySerial = some (c.message native).header.serial
    ∧ contents.destination = c.sender
    ∧ (contents.type = MessageType.methodReturn ∨ contents.type = MessageType.error)

/-- Calls that are handled one after the other: the messages sent, and the
    exception that ends it. -/
def Connection.serve : Connection → List MessageContainer →
    List Protocol.Message × Option CSharpException
  | _, [] => ([], none)
  | conn, c :: cs =>
      let handled := conn.handleCall sameKey native describe srv c
      match handled.reply with
      | .error ex => ([], some ex)
      | .ok reply =>
          let (replies, ex) := handled.state.serve cs
          (reply.toList ++ replies, ex)

variable {sameKey native describe srv} {c : MessageContainer}

theorem carries_createError {errorName s : Text} {m : Protocol.Message}
    (h : c.createError native errorName s = .ok m) :
    ∃ body, m.Carries native (c.errorReply native errorName) body := by
  obtain ⟨r, -, h⟩ := bind_eq_ok.mp h
  cases h
  exact ⟨_, carries_exportToMessage native (c.errorReply native errorName) _⟩

theorem isReplyTo_constructReply {value : Option Text} {m : Protocol.Message}
    (h : constructReply native c value = .ok m) : IsReplyTo native m c := by
  cases value with
  | none =>
      cases h
      exact ⟨_, _, ((carries_export native (c.methodReturn native)).addressTo
        (Or.inl rfl)).setSignature (some []), rfl, rfl, Or.inl rfl⟩
  | some s =>
      obtain ⟨r, -, h⟩ := bind_eq_ok.mp h
      cases h
      exact ⟨_, _, ((carries_exportToMessage native (c.methodReturn native) _).addressTo
        (Or.inl rfl)).setSignature (some (basicSig .string)), rfl, rfl, Or.inl rfl⟩

theorem isReplyTo_answer {outcome : Except CSharpException Bytes} {m : Protocol.Message}
    (h : c.answer native describe outcome = .ok m) : IsReplyTo native m c := by
  cases outcome with
  | ok body =>
      cases h
      exact ⟨_, _, ((carries_exportToMessage native (c.methodReturn native) body).setSignature
        (some (basicSig .string))).addressTo (Or.inl rfl), rfl, rfl, Or.inl rfl⟩
  | error ex =>
      obtain ⟨reply, hreply, h⟩ := bind_eq_ok.mp h
      cases h
      obtain ⟨body, hcarries⟩ := carries_createError hreply
      exact ⟨_, _, hcarries.addressTo (Or.inr rfl), rfl, rfl, Or.inr rfl⟩

/-- What an exception does not stop is sent once. -/
theorem sent_once {x : Except CSharpException Protocol.Message}
    {reply : Option Protocol.Message} (h : some <$> x = .ok reply) :
    ∃ m, reply = some m ∧ x = .ok m := by
  cases x with
  | error ex => cases h
  | ok m =>
      cases h
      exact ⟨m, rfl, rfl⟩

/-- The reply that is owed. -/
theorem replied {owed : Prop} {m : Protocol.Message} (howed : owed) (hm : IsReplyTo native m c) :
    (owed ↔ (some m).isSome) ∧ ∀ m' ∈ some m, IsReplyTo native m' c := by
  refine ⟨⟨fun _ => rfl, fun _ => howed⟩, ?_⟩
  intro m' hm'
  cases hm'
  exact hm

/-- Nothing is owed, and nothing sent. -/
theorem not_replied {owed : Prop} (howed : ¬ owed) :
    (owed ↔ (none : Option Protocol.Message).isSome)
      ∧ ∀ m ∈ (none : Option Protocol.Message), IsReplyTo native m c :=
  ⟨⟨fun h => absurd h howed, fun h => absurd h Bool.noConfusion⟩,
    fun m hm => absurd hm (Option.not_mem_none m)⟩

theorem sent_unknownMethod {reply : Option Protocol.Message}
    (h : createUnknownMethodError native c = .ok reply) :
    ((c.message native).replyExpected = true ↔ reply.isSome)
      ∧ ∀ m ∈ reply, IsReplyTo native m c := by
  unfold createUnknownMethodError at h
  dsimp only at h
  by_cases hexpected : (c.message native).replyExpected = true
  · rw [if_pos hexpected] at h
    obtain ⟨m, hm, h⟩ := bind_eq_ok.mp h
    cases h
    obtain ⟨body, hcarries⟩ := carries_createError hm
    exact replied hexpected ⟨_, _, hcarries, rfl, rfl, Or.inr rfl⟩
  · rw [if_neg hexpected] at h
    cases h
    exact not_replied hexpected

theorem ExportObject.sent_handleCall {eo : ExportObject} {reply : Option Protocol.Message}
    (h : (eo.handleCall sameKey native describe srv c).reply = .ok reply) :
    ((c.message native).replyExpected = true ↔ reply.isSome)
      ∧ ∀ m ∈ reply, IsReplyTo native m c := by
  unfold ExportObject.handleCall at h
  cases hmember : c.member with
  | none =>
      rw [hmember] at h
      cases h
  | some member =>
      rw [hmember] at h
      dsimp only at h
      generalize eo.lookupMessage c member = looked at h
      obtain ⟨found, eo'⟩ := looked
      cases found with
      | none => exact sent_unknownMethod h
      | some mi =>
          dsimp only at h
          by_cases hexpected : (c.message native).replyExpected = true
          · rw [if_pos hexpected] at h
            obtain ⟨m, rfl, hm⟩ := sent_once h
            exact replied hexpected (isReplyTo_answer hm)
          · rw [if_neg hexpected] at h
            cases h
            exact not_replied hexpected

/-- **A call gets a reply if it is owed one**, and no other message. -/
theorem Connection.sent_handleCall {conn : Connection} {reply : Option Protocol.Message}
    (h : (conn.handleCall sameKey native describe srv c).reply = .ok reply) :
    (conn.owesReply native c = true ↔ reply.isSome) ∧ ∀ m ∈ reply, IsReplyTo native m c := by
  have hsent : ∀ {x : Except CSharpException Protocol.Message}, some <$> x = .ok reply →
      conn.owesReply native c = true → (∀ m, x = .ok m → IsReplyTo native m c) →
      (conn.owesReply native c = true ↔ reply.isSome) ∧ ∀ m ∈ reply, IsReplyTo native m c := by
    intro x hx howed hreply
    obtain ⟨m, rfl, hm⟩ := sent_once hx
    exact replied howed (hreply m hm)
  unfold Connection.handleCall at h
  by_cases hping : c.interface = some (text "org.freedesktop.DBus.Peer")
      ∧ c.member = some (text "Ping")
  · rw [if_pos hping] at h
    exact hsent h (by simp [Connection.owesReply, hping]) fun m hm => isReplyTo_constructReply hm
  rw [if_neg hping] at h
  by_cases hid : c.interface = some (text "org.freedesktop.DBus.Peer")
      ∧ c.member = some (text "GetMachineId") ∧ conn.machineId.isSome
  · rw [if_pos hid] at h
    exact hsent h (by simp [Connection.owesReply, hid]) fun m hm => isReplyTo_constructReply hm
  rw [if_neg hid] at h
  by_cases hintro : c.interface = some (text "org.freedesktop.DBus.Introspectable")
      ∧ c.member = some (text "Introspect")
  · rw [if_pos hintro] at h
    obtain ⟨path, -, h⟩ := bind_eq_ok.mp h
    obtain ⟨m, hm, h⟩ := bind_eq_ok.mp h
    cases h
    exact replied (by simp [Connection.owesReply, hintro]) (isReplyTo_constructReply hm)
  rw [if_neg hintro] at h
  -- what is left is owed a reply if it expects one
  have howed : conn.owesReply native c = (c.message native).replyExpected := by
    have hpeer : (c.interface == some (text "org.freedesktop.DBus.Peer")
        && (c.member == some (text "Ping")
          || c.member == some (text "GetMachineId") && conn.machineId.isSome)) = false := by
      rw [Bool.eq_false_iff]
      intro hboth
      simp only [Bool.and_eq_true, Bool.or_eq_true, beq_iff_eq] at hboth
      obtain ⟨hinterface, hmember | hmember⟩ := hboth
      · exact hping ⟨hinterface, hmember⟩
      · exact hid ⟨hinterface, hmember.1, hmember.2⟩
    have hintrospect : (c.interface == some (text "org.freedesktop.DBus.Introspectable")
        && c.member == some (text "Introspect")) = false := by
      rw [Bool.eq_false_iff]
      intro hboth
      simp only [Bool.and_eq_true, beq_iff_eq] at hboth
      exact hintro hboth
    unfold Connection.owesReply
    rw [hpeer, hintrospect, Bool.or_false, Bool.or_false]
  rw [howed]
  cases hpath : c.path with
  | none =>
      rw [hpath] at h
      cases h
  | some path =>
      rw [hpath] at h
      dsimp only at h
      cases hobject : conn.registeredObjects path.value with
      | none =>
          rw [hobject] at h
          exact sent_unknownMethod h
      | some eo =>
          rw [hobject] at h
          exact ExportObject.sent_handleCall h

/-- Whether a call is owed a reply does not change. -/
theorem Connection.owesReply_handleCall (conn : Connection) (c c' : MessageContainer) :
    (conn.handleCall sameKey native describe srv c).state.owesReply native c'
      = conn.owesReply native c' := by
  have hmachine : (conn.handleCall sameKey native describe srv c).state.machineId
      = conn.machineId := by
    unfold Connection.handleCall
    split_ifs
    · rfl
    · rfl
    · rfl
    · cases c.path with
      | none => rfl
      | some path =>
          dsimp only
          cases conn.registeredObjects path.value <;> rfl
  unfold Connection.owesReply
  rw [hmachine]

/-- **Replies are sent in the order of the calls**, to those that are owed one
    and one to each, as far as the calls are handled: to the last of them, or
    to the one that an exception gets out of. -/
theorem Connection.replies_in_order (conn : Connection) (cs : List MessageContainer) :
    ∃ handled rest, cs = handled ++ rest
      ∧ List.Forall₂ (IsReplyTo native) (conn.serve sameKey native describe srv cs).1
        (handled.filter (conn.owesReply native))
      ∧ ((conn.serve sameKey native describe srv cs).2 = none ↔ rest = []) := by
  induction cs generalizing conn with
  | nil => exact ⟨[], [], rfl, List.Forall₂.nil, fun _ => rfl, fun _ => rfl⟩
  | cons c cs ih =>
      unfold Connection.serve
      dsimp only
      cases hreply : (conn.handleCall sameKey native describe srv c).reply with
      | error ex => exact ⟨[], c :: cs, rfl, List.Forall₂.nil,
          ⟨fun h => absurd h (Option.some_ne_none ex), fun h => absurd h (List.cons_ne_nil c cs)⟩⟩
      | ok reply =>
          obtain ⟨hsome, hm⟩ := Connection.sent_handleCall hreply
          obtain ⟨handled, rest, hcs, hreplies, hend⟩ :=
            ih (conn.handleCall sameKey native describe srv c).state
          have howes : (conn.handleCall sameKey native describe srv c).state.owesReply native
              = conn.owesReply native := funext fun c' => conn.owesReply_handleCall c c'
          rw [howes] at hreplies
          refine ⟨c :: handled, rest, by rw [hcs, List.cons_append], ?_, hend⟩
          rw [List.filter_cons]
          cases reply with
          | none =>
              have hnot : ¬ conn.owesReply native c = true := fun h =>
                absurd (hsome.mp h) Bool.noConfusion
              rw [if_neg hnot]
              exact hreplies
          | some m =>
              rw [if_pos (hsome.mpr rfl)]
              exact List.Forall₂.cons (hm m rfl) hreplies

end Replies

end SapDbLib
