/-
  SapDbLib.Protocol.MessageContainer — MESSAGES AND THEIR CONTENTS.

  `MessageContainer` stands between a message and the parts of the program
  that make or handle one: `ExportToMessage` fills the header from it,
  `FromMessage` takes the header apart again, with a cast for each field.

    * `fromMessage_eq_ok` — what `FromMessage` gets out of a message;
    * `contents_delivered` — **what is put into a container, sent and
      received** is in the container of the receiver;
    * `error_text_read_iff` — when the receiver of `CreateError` reads its
      text: the body is written in the order of the call, under a header that
      names the order of the machine.
-/
import SapDbLib.Protocol.Transport

namespace SapDbLib

open Library ProtocolInformation MessageReader

/-! ## §1. `Message`. -/

theorem isObject_string : ClrType.string.isObject = false := rfl

theorem isObject_objectPath : ClrType.objectPath.isObject = false := rfl

theorem isObject_primitive (p : Primitive) : (ClrType.primitive p).isObject = false := rfl

theorem isObject_signature : ClrType.signature.isObject = false := rfl

/-- A boxed text. -/
def boxString (s : Text) : Value .object := .object (.string s) isObject_string

/-- A boxed object path. -/
def boxObjectPath (path : ObjectPath) : Value .object :=
  .object (.objectPath path) isObject_objectPath

/-- A boxed `uint`. -/
def boxUInt32 (bits : BitVec 32) : Value .object :=
  .object (.primitive (p := .uint32) bits) (isObject_primitive .uint32)

/-- A boxed signature. -/
def boxSignature (sig : Option Bytes) : Value .object :=
  .object (.signature sig) isObject_signature

namespace Protocol.Message

/-- `Message ()` -/
def new (native : ByteOrder) : Protocol.Message :=
  { header := { endianness := nativeEndianness native
                messageType := MessageType.methodCall
                flags := HeaderFlag.noReplyExpected
                majorVersion := 1
                length := 0
                serial := 0
                fields := HeaderFields.empty }
    body := none }

/-- `message.Header[code]` -/
def field (m : Protocol.Message) (code : FieldCode) : Option (Value .object) :=
  m.header.fields.get code

/-- `message.Header[code] = value` -/
def setField (m : Protocol.Message) (code : FieldCode) (value : Option (Value .object)) :
    Protocol.Message :=
  { m with header := { m.header with fields := m.header.fields.setOrRemove code value } }

/-- `message.Signature` -/
def signature (m : Protocol.Message) : Except CSharpException (Option Bytes) :=
  match m.field FieldCode.signature with
  | none => .ok (some [])
  | some value => castSignature value

/-- `message.Signature = value`: the empty signature is left out, one without
    data is not. -/
def setSignature (m : Protocol.Message) (sig : Option Bytes) : Protocol.Message :=
  m.setField FieldCode.signature (if sig = some [] then none else some (boxSignature sig))

/-- `message.ReplyExpected` -/
def replyExpected (m : Protocol.Message) : Bool :=
  m.header.flags &&& HeaderFlag.noReplyExpected == HeaderFlag.none

/-- `message.ReplyExpected = value` -/
def setReplyExpected (m : Protocol.Message) (value : Bool) : Protocol.Message :=
  { m with header := { m.header with
      flags := if value then m.header.flags &&& ~~~HeaderFlag.noReplyExpected
        else m.header.flags ||| HeaderFlag.noReplyExpected } }

/-- `message.Header.Serial = serial` -/
def setSerial (m : Protocol.Message) (serial : BitVec 32) : Protocol.Message :=
  { m with header := { m.header with serial := serial } }

/-- `AttachBodyTo`. -/
def attachBodyTo (m : Protocol.Message) (body : Bytes) : Protocol.Message :=
  { header := { m.header with length := BitVec.ofNat 32 body.length }, body := some body }

end Protocol.Message

/-! ## §2. `MessageContainer`. -/

/-- `MessageContainer` -/
structure MessageContainer where
  /-- The message it was made from. -/
  resultMessage : Option Protocol.Message := none
  type : MessageType := MessageType.methodCall
  path : Option ObjectPath := none
  interface : Option Text := none
  member : Option Text := none
  destination : Option Text := none
  sender : Option Text := none
  replySerial : Option (BitVec 32) := none
  serial : Option (BitVec 32) := none
  /-- `default (Signature)` has no data. -/
  signature : Option Bytes := none
  errorName : Option Text := none

namespace MessageContainer

/-- `ExportToMessage` up to the flags: only a method call expects a reply. -/
def ofType (native : ByteOrder) (type : MessageType) : Protocol.Message :=
  let message := Protocol.Message.new native
  let message : Protocol.Message := { message with
    header := { message.header with messageType := type } }
  if type = MessageType.methodCall then message.setReplyExpected true
  else { message with header := { message.header with
    flags := HeaderFlag.noReplyExpected ||| HeaderFlag.noAutoStart } }

/-- `ExportToMessage`: the sender is not exported. -/
def exportToMessage (native : ByteOrder) (c : MessageContainer) : Protocol.Message :=
  let message := ofType native c.type
  let message := message.setField FieldCode.path (c.path.map boxObjectPath)
  let message := message.setField FieldCode.interface (c.interface.map boxString)
  let message := message.setField FieldCode.member (c.member.map boxString)
  let message := message.setField FieldCode.destination (c.destination.map boxString)
  let message := message.setField FieldCode.errorName (c.errorName.map boxString)
  let message := message.setSignature c.signature
  let message := match c.replySerial with
    | some serial => message.setField FieldCode.replySerial (some (boxUInt32 serial))
    | none => message
  match c.serial with
  | some serial => message.setSerial serial
  | none => message

/-- `Message` -/
def message (native : ByteOrder) (c : MessageContainer) : Protocol.Message :=
  c.resultMessage.getD (c.exportToMessage native)

end MessageContainer

/-- A cast to a type that has null. -/
def castOption {α : Type} (cast : Value .object → Except CSharpException α) :
    Option (Value .object) → Except CSharpException (Option α)
  | none => .ok none
  | some value => some <$> cast value

/-- `FromMessage`. -/
def fromMessage (m : Protocol.Message) : Except CSharpException MessageContainer := do
  let path ← castOption castObjectPath (m.field FieldCode.path)
  let interface ← castOption castString (m.field FieldCode.interface)
  let member ← castOption castString (m.field FieldCode.member)
  let destination ← castOption castString (m.field FieldCode.destination)
  let sender ← castOption castString (m.field FieldCode.sender)
  let errorName ← castOption castString (m.field FieldCode.errorName)
  let replySerial ← castOption castUInt32 (m.field FieldCode.replySerial)
  let signature ← m.signature
  return { resultMessage := some m
           type := m.header.messageType
           path := path
           interface := interface
           member := member
           destination := destination
           sender := sender
           replySerial := replySerial
           serial := some m.header.serial
           signature := signature
           errorName := errorName }

/-! ## §3. What `FromMessage` gets. -/

theorem castString_eq_ok {v : Value .object} {s : Text} :
    castString v = .ok s ↔ v = boxString s := by
  constructor
  · intro h
    cases v with
    | object v _ => cases v <;> cases h; rfl
  · intro h
    rw [h]
    rfl

theorem castObjectPath_eq_ok {v : Value .object} {path : ObjectPath} :
    castObjectPath v = .ok path ↔ v = boxObjectPath path := by
  constructor
  · intro h
    cases v with
    | object v _ => cases v <;> cases h; rfl
  · intro h
    rw [h]
    rfl

theorem castUInt32_eq_ok {v : Value .object} {bits : BitVec 32} :
    castUInt32 v = .ok bits ↔ v = boxUInt32 bits := by
  constructor
  · intro h
    cases v with
    | object v _ =>
        cases v with
        | @primitive p _ => cases p <;> cases h; rfl
        | _ => cases h
  · intro h
    rw [h]
    rfl

theorem castSignature_eq_ok {v : Value .object} {sig : Option Bytes} :
    castSignature v = .ok sig ↔ v = boxSignature sig := by
  constructor
  · intro h
    cases v with
    | object v _ => cases v <;> cases h; rfl
  · intro h
    rw [h]
    rfl

/-- A cast that undoes boxing undoes it where there may be null. -/
theorem castOption_eq_ok {α : Type} {cast : Value .object → Except CSharpException α}
    {box : α → Value .object} (hcast : ∀ v a, cast v = .ok a ↔ v = box a)
    {o : Option (Value .object)} {a : Option α} :
    castOption cast o = .ok a ↔ o = a.map box := by
  cases o with
  | none => cases a <;> simp [castOption]
  | some v =>
      have hsome : castOption cast (some v) = some <$> cast v := rfl
      rw [hsome]
      cases hv : cast v with
      | error e =>
          have hnone : ∀ a', v ≠ box a' := by
            intro a' heq
            rw [(hcast v a').mpr heq] at hv
            cases hv
          constructor
          · intro h
            cases h
          · intro h
            cases a with
            | none => cases h
            | some a => exact absurd (Option.some.inj h) (hnone a)
      | ok b =>
          have hb := (hcast v b).mp hv
          constructor
          · intro h
            cases h
            rw [hb]
            rfl
          · intro h
            cases a with
            | none => cases h
            | some a =>
                have ha := (hcast v a).mpr (Option.some.inj h)
                rw [hv, Except.ok.injEq] at ha
                rw [ha]
                rfl

theorem signature_eq_ok {m : Protocol.Message} {sig : Option Bytes} :
    m.signature = .ok sig ↔ m.field FieldCode.signature = some (boxSignature sig)
      ∨ m.field FieldCode.signature = none ∧ sig = some [] := by
  unfold Protocol.Message.signature
  cases h : m.field FieldCode.signature with
  | none => simp [eq_comm]
  | some v =>
      dsimp only
      rw [castSignature_eq_ok]
      simp

/-- **What `FromMessage` gets out of a message**: all known fields are as the
    contents say, with the types they have there. -/
theorem fromMessage_eq_ok {m : Protocol.Message} {c : MessageContainer} :
    fromMessage m = .ok c ↔
      m.field FieldCode.path = c.path.map boxObjectPath
        ∧ m.field FieldCode.interface = c.interface.map boxString
        ∧ m.field FieldCode.member = c.member.map boxString
        ∧ m.field FieldCode.destination = c.destination.map boxString
        ∧ m.field FieldCode.sender = c.sender.map boxString
        ∧ m.field FieldCode.errorName = c.errorName.map boxString
        ∧ m.field FieldCode.replySerial = c.replySerial.map boxUInt32
        ∧ (m.field FieldCode.signature = some (boxSignature c.signature)
          ∨ m.field FieldCode.signature = none ∧ c.signature = some [])
        ∧ c.type = m.header.messageType ∧ c.serial = some m.header.serial
        ∧ c.resultMessage = some m := by
  have hpath := @castOption_eq_ok _ castObjectPath boxObjectPath
    fun v path => castObjectPath_eq_ok
  have hstring := @castOption_eq_ok _ castString boxString fun v s => castString_eq_ok
  have huint := @castOption_eq_ok _ castUInt32 boxUInt32 fun v bits => castUInt32_eq_ok
  unfold fromMessage
  simp only [bind_eq_ok, hpath, hstring, huint, signature_eq_ok]
  constructor
  · intro h
    obtain ⟨path, h₁, interface, h₂, member, h₃, destination, h₄, sender, h₅, errorName, h₆,
      replySerial, h₇, signature, h₈, hc⟩ := h
    cases hc
    exact ⟨h₁, h₂, h₃, h₄, h₅, h₆, h₇, h₈, rfl, rfl, rfl⟩
  · intro h
    obtain ⟨h₁, h₂, h₃, h₄, h₅, h₆, h₇, h₈, htype, hserial, hmessage⟩ := h
    refine ⟨_, h₁, _, h₂, _, h₃, _, h₄, _, h₅, _, h₆, _, h₇, _, h₈, ?_⟩
    rw [← htype, ← hserial, ← hmessage]
    rfl

/-! ## §4. What `ExportToMessage` sets. -/

namespace HeaderFields

theorem lookup_cons_ite (c d : FieldCode) (v : Value .object) (es : List FieldEntry) :
    ((d, v) :: es).lookup c = if c = d then some v else es.lookup c := by
  rw [List.lookup_cons]
  by_cases h : c = d
  · rw [beq_iff_eq.mpr h, if_pos h]
  · rw [beq_eq_false_iff_ne.mpr h, if_neg h]

theorem lookup_setEntry (code c : FieldCode) (value : Value .object) (es : List FieldEntry) :
    (setEntry code value es).lookup c = if c = code then some value else es.lookup c := by
  induction es with
  | nil => exact lookup_cons_ite c code value []
  | cons entry es ih =>
      obtain ⟨d, v⟩ := entry
      rw [setEntry]
      by_cases hd : d = code
      · rw [if_pos hd, lookup_cons_ite, lookup_cons_ite, hd]
        split_ifs <;> rfl
      · rw [if_neg hd, lookup_cons_ite, lookup_cons_ite, ih]
        by_cases hc : c = d
        · have hne : ¬ c = code := fun h => hd (hc.symm.trans h)
          rw [if_pos hc, if_neg hne, if_pos hc]
        · rw [if_neg hc, if_neg hc]

theorem lookup_filter_ne (code c : FieldCode) (es : List FieldEntry) :
    (es.filter fun entry => entry.1 != code).lookup c
      = if c = code then none else es.lookup c := by
  induction es with
  | nil => split_ifs <;> rfl
  | cons entry es ih =>
      obtain ⟨d, v⟩ := entry
      rw [List.filter_cons, lookup_cons_ite]
      by_cases hd : d = code
      · rw [if_neg (by simp [hd]), ih, hd]
        split_ifs <;> rfl
      · rw [if_pos (by simpa using hd), lookup_cons_ite, ih]
        by_cases hc : c = d
        · have hne : ¬ c = code := fun h => hd (hc.symm.trans h)
          rw [if_pos hc, if_neg hne, if_pos hc]
        · rw [if_neg hc, if_neg hc]

/-- `header[code] = value`, read back. -/
theorem get_setOrRemove (f : HeaderFields) (code c : FieldCode) (value : Option (Value .object)) :
    (f.setOrRemove code value).get c = if c = code then value else f.get c := by
  cases value with
  | none => exact lookup_filter_ne code c f.entries
  | some value => exact lookup_setEntry code c value f.entries

/-- The entries are what can be looked up. -/
theorem get_of_mem {f : HeaderFields} {entry : FieldEntry} (h : entry ∈ f.entries) :
    f.get entry.1 = some entry.2 := by
  obtain ⟨es, hnodup⟩ := f
  show es.lookup entry.1 = some entry.2
  induction es with
  | nil => exact absurd h List.not_mem_nil
  | cons first es ih =>
      obtain ⟨d, v⟩ := first
      rw [List.map_cons, List.nodup_cons] at hnodup
      rw [lookup_cons_ite]
      rcases List.mem_cons.mp h with rfl | hmem
      · exact if_pos rfl
      · have hne : entry.1 ≠ d := by
          intro heq
          have hmap : entry.1 ∈ es.map Prod.fst := List.mem_map_of_mem hmem
          exact hnodup.1 (heq ▸ hmap)
        rw [if_neg hne]
        exact ih hnodup.2 hmem

/-- What can be looked up is an entry. -/
theorem mem_of_get {f : HeaderFields} {code : FieldCode} {value : Value .object}
    (h : f.get code = some value) : (code, value) ∈ f.entries := by
  obtain ⟨es, hnodup⟩ := f
  have hlookup : es.lookup code = some value := h
  show (code, value) ∈ es
  clear h hnodup
  induction es with
  | nil => cases hlookup
  | cons first es ih =>
      obtain ⟨d, v⟩ := first
      rw [lookup_cons_ite] at hlookup
      split_ifs at hlookup with hd
      · cases hlookup
        rw [hd]
        exact List.mem_cons_self
      · exact List.mem_cons_of_mem _ (ih hlookup)

end HeaderFields

@[simp] theorem Protocol.Message.field_setField (m : Protocol.Message) (code c : FieldCode)
    (value : Option (Value .object)) :
    (m.setField code value).field c = if c = code then value else m.field c :=
  m.header.fields.get_setOrRemove code c value

@[simp] theorem Protocol.Message.field_setSignature (m : Protocol.Message) (sig : Option Bytes)
    (c : FieldCode) : (m.setSignature sig).field c = if c = FieldCode.signature then
      (if sig = some [] then none else some (boxSignature sig)) else m.field c :=
  m.field_setField FieldCode.signature c _

/-- The field of a container under a code. -/
def MessageContainer.field (c : MessageContainer) (code : FieldCode) : Option (Value .object) :=
  if code = FieldCode.path then c.path.map boxObjectPath
  else if code = FieldCode.interface then c.interface.map boxString
  else if code = FieldCode.member then c.member.map boxString
  else if code = FieldCode.destination then c.destination.map boxString
  else if code = FieldCode.errorName then c.errorName.map boxString
  else if code = FieldCode.signature then
    (if c.signature = some [] then none else some (boxSignature c.signature))
  else if code = FieldCode.replySerial then c.replySerial.map boxUInt32
  else none

section Export

variable (native : ByteOrder) (c : MessageContainer)

/-- **The fields of the message are those of the container.** -/
theorem field_exportToMessage (code : FieldCode) :
    (c.exportToMessage native).field code = c.field code := by
  have hserial : ∀ (m : Protocol.Message) (serial : BitVec 32),
      (m.setSerial serial).field code = m.field code := fun _ _ => rfl
  have hbase : (MessageContainer.ofType native c.type).field code = none := by
    unfold MessageContainer.ofType
    split_ifs <;> rfl
  unfold MessageContainer.exportToMessage MessageContainer.field
  cases c.serial <;> cases c.replySerial <;>
  · simp only [hserial, hbase, Protocol.Message.field_setField,
      Protocol.Message.field_setSignature, Option.map_none, Option.map_some]
    grind [FieldCode.path, FieldCode.interface, FieldCode.member, FieldCode.destination,
      FieldCode.errorName, FieldCode.signature, FieldCode.replySerial]

theorem header_ofType (type : MessageType) :
    (MessageContainer.ofType native type).header
      = { (Protocol.Message.new native).header with
          messageType := type
          flags := if type = MessageType.methodCall then HeaderFlag.none
            else HeaderFlag.noReplyExpected ||| HeaderFlag.noAutoStart } := by
  have hflags : HeaderFlag.noReplyExpected &&& ~~~HeaderFlag.noReplyExpected = HeaderFlag.none := by
    decide
  unfold MessageContainer.ofType
  split_ifs
  · rw [← hflags]
    rfl
  · rfl

/-- The rest of the header. -/
theorem header_exportToMessage :
    (c.exportToMessage native).header.endianness = nativeEndianness native
      ∧ (c.exportToMessage native).header.messageType = c.type
      ∧ (c.exportToMessage native).header.flags
        = (if c.type = MessageType.methodCall then HeaderFlag.none
          else HeaderFlag.noReplyExpected ||| HeaderFlag.noAutoStart)
      ∧ (c.exportToMessage native).header.majorVersion = 1
      ∧ (c.exportToMessage native).header.serial = c.serial.getD 0 := by
  have hfield : ∀ (m : Protocol.Message) code value, (m.setField code value).header
      = { m.header with fields := m.header.fields.setOrRemove code value } := fun _ _ _ => rfl
  have hserial : ∀ (m : Protocol.Message) serial,
      (m.setSerial serial).header = { m.header with serial := serial } := fun _ _ => rfl
  unfold MessageContainer.exportToMessage
  cases c.serial <;> cases c.replySerial <;>
    simp only [hfield, hserial, Protocol.Message.setSignature, header_ofType, Option.getD_some,
      Option.getD_none, and_self, Protocol.Message.new]

/-- Only a method call expects a reply. -/
theorem replyExpected_exportToMessage :
    (c.exportToMessage native).replyExpected = true ↔ c.type = MessageType.methodCall := by
  unfold Protocol.Message.replyExpected
  rw [(header_exportToMessage native c).2.2.1]
  by_cases h : c.type = MessageType.methodCall
  · rw [if_pos h]
    exact ⟨fun _ => h, fun _ => by decide⟩
  · rw [if_neg h]
    exact ⟨fun hreply => absurd hreply (by decide), fun h' => absurd h' h⟩

end Export

/-! ## §5. Sending and receiving. -/

/-- The texts of a container have no lone surrogates. -/
def MessageContainer.TextsWellFormed (c : MessageContainer) : Prop :=
  ∀ o ∈ [c.interface, c.member, c.destination, c.errorName], ∀ s ∈ o, WellFormed s

/-- Their fields can be read. -/
theorem MessageContainer.TextsWellFormed.readable {c : MessageContainer} (h : c.TextsWellFormed)
    {sameKey : {k : ClrType} → Value k → Value k → Bool} {e : Endian} {code : FieldCode}
    {v : Value .object} (hfield : c.field code = some v) : v.Readable sameKey e := by
  have hstring : ∀ o ∈ [c.interface, c.member, c.destination, c.errorName],
      o.map boxString = some v → v.Readable sameKey e := by
    intro o ho hv
    obtain ⟨s, hs, rfl⟩ := Option.map_eq_some_iff.mp hv
    exact ⟨rfl, h o ho s hs⟩
  unfold MessageContainer.field at hfield
  split_ifs at hfield
  · obtain ⟨path, -, rfl⟩ := Option.map_eq_some_iff.mp hfield
    exact ⟨rfl, trivial⟩
  · exact hstring _ (by simp) hfield
  · exact hstring _ (by simp) hfield
  · exact hstring _ (by simp) hfield
  · exact hstring _ (by simp) hfield
  · cases hfield
    exact ⟨rfl, trivial⟩
  · obtain ⟨serial, -, rfl⟩ := Option.map_eq_some_iff.mp hfield
    exact ⟨rfl, trivial⟩

/-- The message has the contents of a container, that body, and the order of
    the machine. -/
structure Protocol.Message.Carries (m : Protocol.Message) (w : ByteOrder) (c : MessageContainer)
    (body : Bytes) : Prop where
  endianness : m.header.endianness = nativeEndianness w
  version : m.header.majorVersion = 1
  type : m.header.messageType = c.type
  serial : m.header.serial = c.serial.getD 0
  length : m.header.length = BitVec.ofNat 32 body.length
  body : m.body.getD [] = body
  fields : ∀ code, m.field code = c.field code

section Changes

variable {w : ByteOrder} {c : MessageContainer} {body : Bytes} {m : Protocol.Message}

/-- A field set on the message is a field of the contents, if it is that field
    which the contents differ in. -/
theorem Protocol.Message.Carries.setField {c' : MessageContainer} {code : FieldCode}
    {value : Option (Value .object)} (h : m.Carries w c body) (htype : c'.type = c.type)
    (hserial : c'.serial = c.serial)
    (hfield : ∀ d, c'.field d = if d = code then value else c.field d) :
    (m.setField code value).Carries w c' body := by
  refine ⟨h.endianness, h.version, ?_, ?_, h.length, h.body, ?_⟩
  · rw [htype]
    exact h.type
  · rw [hserial]
    exact h.serial
  · intro d
    rw [Protocol.Message.field_setField, hfield, h.fields]

theorem Protocol.Message.Carries.setSignature (sig : Option Bytes) (h : m.Carries w c body) :
    (m.setSignature sig).Carries w { c with signature := sig } body := by
  refine h.setField rfl rfl fun d => ?_
  unfold MessageContainer.field
  dsimp only
  grind [FieldCode.path, FieldCode.interface, FieldCode.member, FieldCode.destination,
    FieldCode.errorName, FieldCode.signature, FieldCode.replySerial]

theorem Protocol.Message.Carries.setDestination (destination : Text) (h : m.Carries w c body) :
    (m.setField FieldCode.destination (some (boxString destination))).Carries w
      { c with destination := some destination } body := by
  refine h.setField rfl rfl fun d => ?_
  unfold MessageContainer.field
  dsimp only
  grind [FieldCode.path, FieldCode.interface, FieldCode.member, FieldCode.destination,
    FieldCode.errorName, FieldCode.signature, FieldCode.replySerial]

theorem Protocol.Message.Carries.setSerial (serial : BitVec 32) (h : m.Carries w c body) :
    (m.setSerial serial).Carries w { c with serial := some serial } body :=
  ⟨h.endianness, h.version, h.type, rfl, h.length, h.body, h.fields⟩

theorem Protocol.Message.Carries.attachBodyTo (body' : Bytes) (h : m.Carries w c body) :
    (m.attachBodyTo body').Carries w c body' :=
  ⟨h.endianness, h.version, h.type, h.serial, rfl, rfl, h.fields⟩

theorem Protocol.Message.Carries.setReplyExpected (value : Bool) (h : m.Carries w c body) :
    (m.setReplyExpected value).Carries w c body :=
  ⟨h.endianness, h.version, h.type, h.serial, h.length, h.body, h.fields⟩

/-- What `ExportToMessage` makes has no body. -/
theorem carries_export (w : ByteOrder) (c : MessageContainer) :
    (c.exportToMessage w).Carries w c [] := by
  have hlength : (c.exportToMessage w).header.length = 0
      ∧ (c.exportToMessage w).body.getD [] = [] := by
    have hfield : ∀ (m : Protocol.Message) code value,
        (m.setField code value).header.length = m.header.length
          ∧ (m.setField code value).body = m.body := fun _ _ _ => ⟨rfl, rfl⟩
    have hserial : ∀ (m : Protocol.Message) serial,
        (m.setSerial serial).header.length = m.header.length
          ∧ (m.setSerial serial).body = m.body := fun _ _ => ⟨rfl, rfl⟩
    have hbase : (MessageContainer.ofType w c.type).header.length = 0
        ∧ (MessageContainer.ofType w c.type).body.getD [] = [] := by
      unfold MessageContainer.ofType
      split_ifs <;> exact ⟨rfl, rfl⟩
    unfold MessageContainer.exportToMessage
    cases c.serial <;> cases c.replySerial <;>
      simpa only [hfield, hserial, Protocol.Message.setSignature] using hbase
  obtain ⟨hendian, htype, -, hversion, hserial⟩ := header_exportToMessage w c
  exact ⟨hendian, hversion, htype, hserial, hlength.1, hlength.2,
    fun code => field_exportToMessage w c code⟩

/-- What `ExportToMessage` and `AttachBodyTo` make. -/
theorem carries_exportToMessage (w : ByteOrder) (c : MessageContainer) (body : Bytes) :
    ((c.exportToMessage w).attachBodyTo body).Carries w c body :=
  (carries_export w c).attachBodyTo body

end Changes

section Delivery

variable {sameKey : {k : ClrType} → Value k → Value k → Bool} {w r : ByteOrder}
  {s : NetworkStream} {c : MessageContainer} {body frame rest : Bytes}

/-- The contents are taken out of the message that carries them. -/
theorem Protocol.Message.Carries.fromMessage {m : Protocol.Message} (h : m.Carries w c body) :
    fromMessage m = .ok { c with
      resultMessage := some m, sender := none, serial := some (c.serial.getD 0) } := by
  rw [fromMessage_eq_ok]
  simp only [h.fields]
  refine ⟨rfl, rfl, rfl, rfl, rfl, rfl, rfl, ?_, h.type.symm, congrArg some h.serial.symm, trivial⟩
  have hsig : c.field FieldCode.signature
      = if c.signature = some [] then none else some (boxSignature c.signature) := rfl
  by_cases hempty : c.signature = some []
  · exact Or.inr ⟨by rw [hsig, if_pos hempty], hempty⟩
  · exact Or.inl (by rw [hsig, if_neg hempty])

/-- What is written has a signature with data: one that was never assigned has
    none, and is not left out like the empty one. -/
theorem Protocol.Message.Carries.signed {m : Protocol.Message} (h : m.Carries w c body)
    (hwrite : writeMessage w m = .ok frame) : c.signature.isSome := by
  obtain ⟨⟨u, stream⟩, hrun, -⟩ := bind_eq_ok.mp hwrite
  obtain ⟨⟨-, -, hlimits, -⟩, -⟩ := (Header.emits (Or.inl h.endianness) stream).mp hrun
  cases hsig : c.signature with
  | some sig => rfl
  | none =>
      have hfield : m.header.fields.get FieldCode.signature = some (boxSignature none) := by
        have hcode : c.field FieldCode.signature
            = if c.signature = some [] then none else some (boxSignature c.signature) := rfl
        rw [hsig, if_neg (by simp)] at hcode
        exact (h.fields _).trans hcode
      obtain ⟨pos, -, -, data, hdata, -⟩ :=
        withinLimits_of_mem hlimits (HeaderFields.mem_of_get hfield)
      cases hdata

/-- A message that carries contents arrives with them. -/
theorem Protocol.Message.Carries.delivered {m : Protocol.Message} (h : m.Carries w c body)
    (hc : c.TextsWellFormed) (hwrite : writeMessage w m = .ok frame)
    (hsize : frame.length ≤ 16 + maxMessageLength) (hs : s.bytes = frame ++ rest) :
    ∃ s', readMessage sameKey r s = .ok ⟨some m.received, false, s'⟩
      ∧ s'.bytes = rest ∧ s'.reset = s.reset ∧ m.received.Carries w c body := by
  have hmax : maxMessageLength = 134217728 := rfl
  have hreceived : m.received.Carries w c body :=
    ⟨h.endianness, h.version, h.type, h.serial, h.length, m.body_received.trans h.body, h.fields⟩
  -- the bytes are those of the message's frame
  have hframe : frame = m.frame (wireOrder r m.header.endianness) := by
    have horder : wireOrder w m.header.endianness = wireOrder r m.header.endianness := by
      rw [h.endianness, wireOrder_nativeEndianness, wireOrder_nativeEndianness]
    obtain ⟨⟨u, stream⟩, hrun, hbytes⟩ := bind_eq_ok.mp hwrite
    obtain ⟨-, -, rfl⟩ := (Header.emits (Or.inl h.endianness) stream).mp hrun
    cases hbytes
    rw [← horder]
    rfl
  have hbodyLen : body.length ≤ frame.length := by
    rw [hframe, Protocol.Message.frame, List.length_append, h.body]
    omega
  have hdeliver : m.Deliverable sameKey r := by
    refine ⟨?_, ?_, ?_, ?_⟩
    · rw [h.version]
      decide
    · rw [h.length, h.body, BitVec.toNat_ofNat]
      omega
    · intro entry hentry
      have hget : m.field entry.1 = some entry.2 := HeaderFields.get_of_mem hentry
      rw [h.fields] at hget
      exact hc.readable hget
    · rw [← hframe]
      exact hsize
  obtain ⟨s', hread, hrest, hreset⟩ :=
    readMessage_frame (isFrame_of_write h.endianness hdeliver hwrite) hs
  exact ⟨s', hread, hrest, hreset, hreceived⟩

/-- **What is put into a container, sent and received** is in the container of
    the receiver: its fields, its serial and its body, and no sender.  A
    signature is among what was put into it. -/
theorem contents_delivered (hc : c.TextsWellFormed)
    (hwrite : writeMessage w ((c.exportToMessage w).attachBodyTo body) = .ok frame)
    (hsize : frame.length ≤ 16 + maxMessageLength) (hs : s.bytes = frame ++ rest) :
    c.signature.isSome ∧ ∃ m s', readMessage sameKey r s = .ok ⟨some m, false, s'⟩
      ∧ s'.bytes = rest ∧ s'.reset = s.reset
      ∧ m.header.endianness = nativeEndianness w ∧ m.body.getD [] = body
      ∧ (m.replyExpected = true ↔ c.type = MessageType.methodCall)
      ∧ fromMessage m = .ok { c with
          resultMessage := some m, sender := none, serial := some (c.serial.getD 0) } := by
  have hcarries := carries_exportToMessage w c body
  obtain ⟨s', hread, hrest, hreset, harrived⟩ := hcarries.delivered hc hwrite hsize hs
  exact ⟨hcarries.signed hwrite, _, s', hread, hrest, hreset, harrived.endianness, harrived.body,
    replyExpected_exportToMessage w c, harrived.fromMessage⟩

/-- A signal of a little-endian machine with a number arrives at a big-endian
    one, in pieces. -/
theorem contents_delivered_signal :
    (some [117] : Option Bytes).isSome ∧ ∃ m s', readMessage (fun _ _ => false) .bigEndian
        ⟨[(108, [4, 3, 1, 4, 0, 0, 0, 5, 0, 0, 0, 23, 0, 0, 0, 3, 1, 115, 0, 1, 0, 0, 0, 80, 0]),
          (0, [0, 0, 0, 0, 0, 8, 1, 103, 0]), (1, [117, 0, 0, 7, 0, 0, 0, 9])], true⟩
        = .ok ⟨some m, false, s'⟩ ∧ s'.bytes = [9] ∧ s'.reset = true
      ∧ m.header.endianness = EndianFlag.little ∧ m.body.getD [] = [7, 0, 0, 0]
      ∧ (m.replyExpected = true ↔ MessageType.signal = MessageType.methodCall)
      ∧ fromMessage m = .ok { resultMessage := some m, type := MessageType.signal
                              member := some (text "P"), signature := some [117]
                              serial := some 5 } := by
  generalize hcontents : ({ type := MessageType.signal, member := some (text "P")
                            signature := some [117], serial := some 5 } : MessageContainer) = c
  have hwrite : writeMessage .littleEndian
        ((c.exportToMessage .littleEndian).attachBodyTo [7, 0, 0, 0])
      = .ok [108, 4, 3, 1, 4, 0, 0, 0, 5, 0, 0, 0, 23, 0, 0, 0, 3, 1, 115, 0, 1, 0, 0, 0, 80, 0, 0,
        0, 0, 0, 0, 0, 8, 1, 103, 0, 1, 117, 0, 0, 7, 0, 0, 0] := by
    rw [← hcontents]
    decide +kernel
  have hc : c.TextsWellFormed := by
    intro o ho s hs
    have hcases : o = none ∨ o = some (text "P") := by
      rw [← hcontents] at ho
      simpa [or_comm] using ho
    rcases hcases with rfl | rfl
    · cases hs
    · cases hs
      decide
  have h := @contents_delivered (fun _ _ => false) .littleEndian .bigEndian
    ⟨[(108, [4, 3, 1, 4, 0, 0, 0, 5, 0, 0, 0, 23, 0, 0, 0, 3, 1, 115, 0, 1, 0, 0, 0, 80, 0]),
      (0, [0, 0, 0, 0, 0, 8, 1, 103, 0]), (1, [117, 0, 0, 7, 0, 0, 0, 9])], true⟩ c _ _ [9]
    hc hwrite (by decide) rfl
  rw [← hcontents] at h
  exact h

end Delivery

/-! ## §6. Error replies. -/

/-- `CreateError`: the header is the machine's own, the body is written in the
    order of the call. -/
def MessageContainer.createError (native : ByteOrder) (c : MessageContainer)
    (errorName errorMessage : Text) : Except CSharpException Protocol.Message := do
  let message := c.message native
  let error : MessageContainer :=
    { type := MessageType.error
      errorName := some errorName
      replySerial := some message.header.serial
      signature := some (basicSig .string)
      destination := c.sender }
  let (_, stream) ← MessageWriter.writeString
    { native := native, endianness := message.header.endianness } errorMessage ⟨[], 0⟩
  return (error.exportToMessage native).attachBodyTo stream.buffer

/-- `CreateUnknownMethodError`. -/
def createUnknownMethodError (native : ByteOrder) (c : MessageContainer) :
    Except CSharpException (Option Protocol.Message) := do
  if (c.message native).replyExpected then
    let errMsg := text "Method \"" ++ c.member.getD [] ++ text "\" with signature \""
      ++ asciiText (c.signature.getD []) ++ text "\" on interface \"" ++ c.interface.getD []
      ++ text "\" doesn't exist"
    let msg ← c.createError native (text "org.freedesktop.DBus.Error.UnknownMethod") errMsg
    return some msg
  else return none

theorem runs_readNull {data : Bytes} {pos pos' : Nat} {u : PUnit}
    (h : Runs (readNull data) pos u pos') : data[pos]? = some 0 := by
  rw [readNull, runs_get_bind] at h
  cases hb : data[pos]? with
  | none =>
      rw [hb] at h
      exact absurd h runs_throw
  | some b =>
      rw [hb] at h
      dsimp only at h
      obtain ⟨hzero, -⟩ := runs_unless.mp h
      rw [not_ne_iff.mp hzero]

section Errors

variable {w r : ByteOrder} {c : MessageContainer} {errorName s : Text} {m : Protocol.Message}

/-- The body of an error. -/
theorem body_createError (hm : c.createError w errorName s = .ok m) :
    m.body = some (encodeText (wireOrder w (c.message w).header.endianness) s 0)
      ∧ (encodeText (wireOrder w (c.message w).header.endianness) s 0).length ≤ maxStreamLength
      ∧ m.header.endianness = nativeEndianness w := by
  obtain ⟨⟨u, stream⟩, hrun, hm⟩ := bind_eq_ok.mp hm
  cases hm
  obtain ⟨-, hsize, rfl⟩ := (emits_writeString _ s ⟨[], 0⟩ stream ⟨rfl, by decide⟩).mp hrun
  refine ⟨rfl, ?_, (header_exportToMessage w _).1⟩
  have hsum : 0 + (encodeText (wireOrder w (c.message w).header.endianness) s 0).length
      ≤ maxStreamLength := hsize
  omega

/-- Reading a text that was written in an order from a position on: the length
    may come out another, but then the text does too. -/
theorem readString_encodeText {e : Endian} {o : ByteOrder} (hs : WellFormed s)
    (hsize : (encodeText o s 0).length ≤ maxStreamLength) :
    (∃ pos, Runs (readString e (encodeText o s 0)) 0 s pos)
      ↔ o.bytes 4 (utf8Encode s).length = e.order.bytes 4 (utf8Encode s).length := by
  generalize hlen : (utf8Encode s).length = len
  have hpad : ∀ (o' : ByteOrder) v, encodeNumber o' 4 v 0 = o'.bytes 4 v := by
    intro o' v
    rw [encodeNumber, pad, padNeeded_of_mod (by rfl), List.replicate_zero, List.nil_append]
  have hdata : ∀ o' : ByteOrder, encodeText o' s 0 = o'.bytes 4 len ++ (utf8Encode s ++ [0]) := by
    intro o'
    rw [encodeText, hpad, hlen, List.append_assoc]
  have htotal : (encodeText o s 0).length = len + 5 := by
    rw [hdata]
    simp only [List.length_append, ByteOrder.length_bytes, List.length_singleton, hlen]
    omega
  constructor
  · intro h
    obtain ⟨pos, h⟩ := h
    -- the length that is read
    generalize hread : e.order.value (o.bytes 4 len) = ln
    have hback : e.order.bytes 4 ln = o.bytes 4 len := by
      have hvalue := ByteOrder.bytes_value e.order (o.bytes 4 len)
      rwa [ByteOrder.length_bytes, hread] at hvalue
    have hlt : ln < 256 ^ 4 := by
      have hvalue := ByteOrder.value_lt e.order (o.bytes 4 len)
      rwa [ByteOrder.length_bytes, hread] at hvalue
    have hat : HasAt (encodeText o s 0) 0 (encodeNumber e.order 4 ln 0) := by
      rw [hpad, hback, hdata]
      exact List.prefix_append _ _
    have hnumber := unmarshal_at hat hlt (by decide)
    rw [hpad, ByteOrder.length_bytes] at hnumber
    unfold readString at h
    obtain ⟨ln', pos₁, hfirst, h⟩ := runs_bind.mp h
    obtain ⟨rfl, rfl⟩ := hnumber.unique hfirst
    rw [runs_get_bind] at h
    obtain ⟨hroom, h⟩ := runs_unless.mp h
    rw [runs_set_bind] at h
    obtain ⟨u, pos₂, hnull, h⟩ := runs_bind.mp h
    have hzero := runs_readNull hnull
    have htext := (runs_pure.mp h).1
    -- it is the length of the text: a longer one leaves the data
    have hdrop : (encodeText o s 0).drop 4 = utf8Encode s ++ [0] := by
      rw [hdata, List.drop_left' (ByteOrder.length_bytes _ _ _)]
    have hget : (utf8Encode s ++ [0])[ln]? = some 0 := by
      rw [← hdrop, List.getElem?_drop]
      exact hzero
    have hle : ln ≤ len := by
      have hlast := (List.getElem?_eq_some_iff.mp hget).1
      rw [List.length_append, List.length_singleton, hlen] at hlast
      omega
    -- and a shorter one leaves characters out
    have hge : ¬ ln < len := by
      intro hshort
      rw [List.getElem?_append_left (by omega)] at hget
      obtain ⟨hin, hbyte⟩ := List.getElem?_eq_some_iff.mp hget
      have hsplit : utf8Encode s = (utf8Encode s).take ln ++ 0 :: (utf8Encode s).drop (ln + 1) := by
        rw [← hbyte, ← List.drop_eq_getElem_cons, List.take_append_drop]
      have hslice : slice (encodeText o s 0) (0 + 4) ln = (utf8Encode s).take ln := by
        show ((encodeText o s 0).drop 4).take ln = _
        rw [hdrop, List.take_append_of_le_length (by omega)]
      rw [hslice] at htext
      have hless := length_utf8Decode_lt (b := 0) (by decide) ((utf8Encode s).take ln)
        ((utf8Encode s).drop (ln + 1))
      rw [← hsplit, htext, utf8Decode_of_wellFormed hs] at hless
      omega
    have heq : ln = len := by omega
    rw [← hback, heq]
  · intro h
    have heq : encodeText o s 0 = encodeText e.order s 0 := by rw [hdata, hdata, h]
    have hat : HasAt (encodeText o s 0) 0 (encodeText e.order s 0) := by
      rw [heq]
      exact List.prefix_rfl
    exact ⟨_, readString_at hsize hs hat⟩

/-- **When the receiver reads the text of an error**: if the call came in the
    machine's own order, or if the length of the text is the same in both. -/
theorem error_text_read_iff (hs : WellFormed s) (hm : c.createError w errorName s = .ok m) :
    (∃ pos, Runs (readString { native := r, endianness := m.header.endianness }
        (m.body.getD [])) 0 s pos)
      ↔ wireOrder w (c.message w).header.endianness = w
        ∨ (w.bytes 4 (utf8Encode s).length).reverse = w.bytes 4 (utf8Encode s).length := by
  obtain ⟨hbody, hsize, hown⟩ := body_createError hm
  have horder : Endian.order { native := r, endianness := m.header.endianness } = w := by
    show wireOrder r m.header.endianness = w
    rw [hown, wireOrder_nativeEndianness]
  rw [hbody, Option.getD_some, readString_encodeText hs hsize, horder]
  have hcases : wireOrder w (c.message w).header.endianness = w
      ∨ wireOrder w (c.message w).header.endianness = w.swap := by
    unfold wireOrder
    split_ifs
    · exact Or.inl rfl
    · exact Or.inr rfl
  rcases hcases with h | h
  · rw [h]
    simp
  · have hne : w.swap ≠ w := by cases w <;> decide
    rw [h, ByteOrder.bytes_swap]
    simp [hne]

/-- A call in big-endian order on a little-endian machine. -/
theorem error_text_unread_no :
    ∃ m, ({ resultMessage := some ⟨⟨EndianFlag.big, 1, 0, 1, 0, 5, HeaderFields.empty⟩, none⟩ }
        : MessageContainer).createError .littleEndian (text "e") (text "no") = .ok m
      ∧ ¬ ∃ pos, Runs (readString { native := .littleEndian, endianness := m.header.endianness }
          (m.body.getD [])) 0 (text "no") pos := by
  generalize hcall : ({ resultMessage := some ⟨⟨EndianFlag.big, 1, 0, 1, 0, 5, HeaderFields.empty⟩,
    none⟩ } : MessageContainer) = c
  obtain ⟨m, hm⟩ : ∃ m, c.createError .littleEndian (text "e") (text "no") = .ok m := by
    rw [← hcall]
    exact ⟨_, rfl⟩
  refine ⟨m, hm, ?_⟩
  rw [error_text_read_iff (by decide) hm, ← hcall]
  decide

end Errors

end SapDbLib
