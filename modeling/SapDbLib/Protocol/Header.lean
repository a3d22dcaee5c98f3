/-
  SapDbLib.Protocol.Header — MESSAGE HEADERS.

  `Header` with its dictionary of fields, `WriteHeaderToMessage` with
  `WriteHeaderFields`, and `FromBytes`.  The writer has a path of its own for
  the fields whose type is known; the reader takes all of them for pairs of a
  code and a variant.

    * `Header.emits` — **the writer writes the format** of an array of such
      pairs: exactly when each known field has its type and the limits are
      kept;
    * `Header.fromBytes_encode` — **a header is read back from its bytes**.
-/
import Mathlib.Data.List.Nodup
import SapDbLib.Protocol.Termination

namespace SapDbLib

open Library ProtocolInformation MessageReader

/-! ## §1. Fields. -/

/-- `MessageType`: any byte can be cast to it. -/
abbrev MessageType := UInt8

namespace MessageType

def methodCall : MessageType := 1
def methodReturn : MessageType := 2
def error : MessageType := 3
def signal : MessageType := 4

end MessageType

/-- `HeaderFlag` -/
abbrev HeaderFlag := UInt8

namespace HeaderFlag

def none : HeaderFlag := 0
def noReplyExpected : HeaderFlag := 1
def noAutoStart : HeaderFlag := 2

end HeaderFlag

/-- `FieldCode`: any byte can be cast to it. -/
abbrev FieldCode := UInt8

namespace FieldCode

def path : FieldCode := 1
def interface : FieldCode := 2
def member : FieldCode := 3
def errorName : FieldCode := 4
def replySerial : FieldCode := 5
def destination : FieldCode := 6
def sender : FieldCode := 7
def signature : FieldCode := 8

end FieldCode

/-- A field and its value. -/
abbrev FieldEntry := FieldCode × Value .object

/-- `fields[code] = value`: in the place of the old value, or behind the
    others. -/
def setEntry (code : FieldCode) (value : Value .object) : List FieldEntry → List FieldEntry
  | [] => [(code, value)]
  | (c, v) :: es => if c = code then (code, value) :: es else (c, v) :: setEntry code value es

theorem keys_setEntry (code : FieldCode) (value : Value .object) (es : List FieldEntry) :
    (setEntry code value es).map Prod.fst
      = if code ∈ es.map Prod.fst then es.map Prod.fst else es.map Prod.fst ++ [code] := by
  induction es with
  | nil => rfl
  | cons entry es ih =>
      obtain ⟨c, v⟩ := entry
      rw [setEntry]
      by_cases h : c = code
      · simp [h]
      · rw [if_neg h, List.map_cons, ih, List.map_cons]
        have hne : ¬ code = c := fun heq => h heq.symm
        by_cases hmem : code ∈ es.map Prod.fst
        · rw [if_pos hmem, if_pos (List.mem_cons_of_mem _ hmem)]
        · rw [if_neg hmem, if_neg (by simp only [List.mem_cons, not_or]; exact ⟨hne, hmem⟩)]
          rfl

/-- `Dictionary<byte, object>`: no code comes twice. -/
structure HeaderFields where
  entries : List FieldEntry
  nodup : (entries.map Prod.fst).Nodup

namespace HeaderFields

theorem ext_entries {f g : HeaderFields} (h : f.entries = g.entries) : f = g := by
  cases f
  cases g
  cases h
  rfl

def empty : HeaderFields := ⟨[], List.nodup_nil⟩

/-- `header[code]` -/
def get (f : HeaderFields) (code : FieldCode) : Option (Value .object) := f.entries.lookup code

/-- `header[code] = value`, where the value is not null. -/
def set (f : HeaderFields) (code : FieldCode) (value : Value .object) : HeaderFields :=
  ⟨setEntry code value f.entries, by
    rw [keys_setEntry]
    split_ifs with h
    · exact f.nodup
    · refine List.nodup_append.mpr ⟨f.nodup, List.nodup_singleton _, ?_⟩
      intro a ha b hb hab
      rw [hab, List.mem_singleton.mp hb] at ha
      exact h ha⟩

/-- `header[code] = null` -/
def remove (f : HeaderFields) (code : FieldCode) : HeaderFields :=
  ⟨f.entries.filter fun entry => entry.1 != code, by
    have hsub : (f.entries.filter fun entry => entry.1 != code).map Prod.fst
        = (f.entries.map Prod.fst).filter fun c => c != code := by
      rw [List.filter_map]
      rfl
    rw [hsub]
    exact f.nodup.filter _⟩

/-- `header[code] = value` -/
def setOrRemove (f : HeaderFields) (code : FieldCode) : Option (Value .object) → HeaderFields
  | some value => f.set code value
  | none => f.remove code

/-- The loop of `FromBytes`. -/
def setAll (f : HeaderFields) (es : List FieldEntry) : HeaderFields :=
  es.foldl (fun f entry => f.set entry.1 entry.2) f

theorem setEntry_of_notMem {code : FieldCode} {value : Value .object} {es : List FieldEntry}
    (h : code ∉ es.map Prod.fst) : setEntry code value es = es ++ [(code, value)] := by
  induction es with
  | nil => rfl
  | cons entry es ih =>
      obtain ⟨c, v⟩ := entry
      rw [List.map_cons, List.mem_cons, not_or] at h
      rw [setEntry, if_neg (fun hc => h.1 hc.symm), ih h.2]
      rfl

/-- Fields with different codes stay in their order. -/
theorem entries_setAll (f : HeaderFields) {es : List FieldEntry}
    (h : ((f.entries ++ es).map Prod.fst).Nodup) :
    (f.setAll es).entries = f.entries ++ es := by
  induction es generalizing f with
  | nil => simp [setAll]
  | cons entry es ih =>
      obtain ⟨c, v⟩ := entry
      have hnot : c ∉ f.entries.map Prod.fst := by
        rw [List.map_append, List.nodup_append] at h
        intro hmem
        exact h.2.2 c hmem c (by simp) rfl
      have hset : (f.set c v).entries = f.entries ++ [(c, v)] := setEntry_of_notMem hnot
      show ((f.set c v).setAll es).entries = _
      rw [ih (f.set c v) (by rwa [hset, List.append_assoc]), hset, List.append_assoc]
      rfl

/-- **The fields of a dictionary give it back.** -/
theorem setAll_entries (f : HeaderFields) : empty.setAll f.entries = f :=
  ext_entries (entries_setAll empty f.nodup)

end HeaderFields

/-! ## §2. `Header`. -/

/-- The elements of an array. -/
def Values.toList : {t : ClrType} → Values t → List (Value t)
  | _, .nil => []
  | _, .cons v vs => v :: vs.toList

/-- An array of some elements. -/
def Values.ofList {t : ClrType} : List (Value t) → Values t
  | [] => .nil
  | v :: vs => .cons v (Values.ofList vs)

theorem Values.toList_ofList {t : ClrType} (vs : List (Value t)) :
    (Values.ofList vs).toList = vs := by
  induction vs with
  | nil => rfl
  | cons v vs ih => rw [Values.ofList, Values.toList, ih]

/-- `Header` -/
structure Header where
  endianness : EndianFlag
  messageType : MessageType
  flags : HeaderFlag
  majorVersion : UInt8
  length : BitVec 32
  serial : BitVec 32
  fields : HeaderFields

/-- `Signature.StringSig`, `ObjectPathSig` and `UInt32Sig`. -/
def basicSig (d : DType) : Bytes := [d.code]

/-- The exception of a cast.  Its text names types of the runtime. -/
def invalidCast : CSharpException := .other (text "System.InvalidCastException") []

/-- `(string)value` -/
def castString : Value .object → Except CSharpException Text
  | .object (t := .string) (.string s) _ => .ok s
  | _ => .error invalidCast

/-- `(ObjectPath)value` -/
def castObjectPath : Value .object → Except CSharpException ObjectPath
  | .object (t := .objectPath) (.objectPath p) _ => .ok p
  | _ => .error invalidCast

/-- `(uint)value` -/
def castUInt32 : Value .object → Except CSharpException (BitVec 32)
  | .object (t := .primitive .uint32) (.primitive bits) _ => .ok bits
  | _ => .error invalidCast

/-- `(Signature)value` -/
def castSignature : Value .object → Except CSharpException (Option Bytes)
  | .object (t := .signature) (.signature sig) _ => .ok sig
  | _ => .error invalidCast

/-- The type of the fields that `WriteHeaderFields` knows. -/
def fieldType (code : FieldCode) : Option ClrType :=
  if code = FieldCode.destination ∨ code = FieldCode.errorName ∨ code = FieldCode.interface
      ∨ code = FieldCode.member ∨ code = FieldCode.sender then some .string
  else if code = FieldCode.path then some .objectPath
  else if code = FieldCode.replySerial then some (.primitive .uint32)
  else none

/-- A field in the loop of `WriteHeaderFields`. -/
def writeField (e : Endian) (code : FieldCode) (value : Value .object) : Writer := do
  MessageWriter.writePad 8
  MemoryStream.write [code]
  match fieldType code with
  | some .string =>
      MessageWriter.writeSignature (basicSig .string)
      let s ← castString value
      MessageWriter.writeString e s
  | some .objectPath =>
      MessageWriter.writeSignature (basicSig .objectPath)
      let path ← castObjectPath value
      MessageWriter.writeString e path.value
  | some (.primitive .uint32) =>
      MessageWriter.writeSignature (basicSig .uint32)
      let bits ← castUInt32 value
      MessageWriter.writePrimitive e .uint32 bits.toNat
  | _ => value.write e

/-- The loop of `WriteHeaderFields`. -/
def writeFields (e : Endian) : List FieldEntry → Writer
  | [] => return
  | (code, value) :: es => do
      writeField e code value
      writeFields e es

/-- `WriteHeaderFields`. -/
def writeHeaderFields (e : Endian) (f : HeaderFields) : Writer :=
  MessageWriter.writeMeasured e (text "Dict") 8 (writeFields e f.entries)

/-- `WriteHeaderToMessage`. -/
def Header.write (native : ByteOrder) (h : Header) : Writer := do
  let e : Endian := { native := native, endianness := h.endianness }
  MemoryStream.write [h.endianness]
  MemoryStream.write [h.messageType]
  MemoryStream.write [h.flags]
  MemoryStream.write [h.majorVersion]
  MessageWriter.writePrimitive e .uint32 h.length.toNat
  MessageWriter.writePrimitive e .uint32 h.serial.toNat
  writeHeaderFields e h.fields
  -- `CloseWrite`
  MessageWriter.writePad 8

/-- `FieldCodeEntry` -/
abbrev fieldCodeEntry : ClrType := .struct [.primitive .byte, .object]

/-- The field of a pair. -/
def fieldEntry : Value fieldCodeEntry → FieldEntry
  | .struct (.cons (.primitive code) (.cons value .nil)) => (UInt8.ofBitVec code, value)

/-- The pair of a field. -/
def entryValue (entry : FieldEntry) : Value fieldCodeEntry :=
  .struct (.cons (.primitive (p := .byte) entry.1.toBitVec) (.cons entry.2 .nil))

/-- The array of pairs of some fields. -/
def entryValues (es : List FieldEntry) : Values fieldCodeEntry := Values.ofList (es.map entryValue)

/-- The fields of an array of pairs. -/
def fieldEntries (vs : Values fieldCodeEntry) : List FieldEntry := vs.toList.map fieldEntry

theorem fieldEntries_entryValues (es : List FieldEntry) : fieldEntries (entryValues es) = es := by
  rw [fieldEntries, entryValues, Values.toList_ofList, List.map_map]
  exact List.map_id es

/-- `Seek`. -/
def MessageReader.seek (data : Bytes) (stride : Nat) : Reader PUnit := do
  let pos ← get
  if data.length < pos + stride then throwEx .argumentOutOfRange
  else set (pos + stride)

section FromBytes

variable (sameKey : {k : ClrType} → Value k → Value k → Bool)

/-- The length, the serial and the fields in `FromBytes`. -/
def Header.readParts (e : Endian) (data : Bytes) :
    Reader (BitVec 32 × BitVec 32 × List FieldEntry) := do
  MessageReader.seek data 4
  let length ← readPrimitive e data .uint32
  let serial ← readPrimitive e data .uint32
  match (← MessageReader.read sameKey e data (.array fieldCodeEntry)) with
  | .array fields => return (length, serial, fieldEntries fields)

/-- `Header.FromBytes`. -/
def Header.fromBytes (native : ByteOrder) (data : Bytes) : Except ReadFault Header :=
  match data with
  | endianness :: messageType :: flags :: majorVersion :: _ => do
      let ((length, serial, fields), _) ←
        Header.readParts sameKey { native := native, endianness := endianness } data 0
      return { endianness := endianness
               messageType := messageType
               flags := flags
               majorVersion := majorVersion
               length := length
               serial := serial
               fields := HeaderFields.empty.setAll fields }
  | _ => .error (.exception .indexOutOfRange)

end FromBytes

/-! ## §3. The writer writes the format. -/

/-- The type of a boxed value. -/
def Value.boxedType : Value .object → ClrType
  | .object (t := t) _ _ => t

/-- A known field has its type. -/
def FieldTyped (entry : FieldEntry) : Prop :=
  ∀ t, fieldType entry.1 = some t → entry.2.boxedType = t

/-- The fields can be sent: known fields have their types, and the array of
    pairs is within the limits. -/
def HeaderFields.Sendable (o : ByteOrder) (f : HeaderFields) : Prop :=
  (∀ entry ∈ f.entries, FieldTyped entry)
    ∧ (Value.array (entryValues f.entries)).WithinLimits o 12

/-- Each of the pairs is within the limits where it stands. -/
theorem withinLimits_of_mem {o : ByteOrder} {entry : FieldEntry} {es : List FieldEntry} {pos : Nat}
    (h : (entryValues es).WithinLimits o pos) (hmem : entry ∈ es) :
    ∃ p, entry.2.WithinLimits o p := by
  induction es generalizing pos with
  | nil => exact absurd hmem List.not_mem_nil
  | cons first es ih =>
      obtain ⟨hfirst, hrest⟩ := h
      rcases List.mem_cons.mp hmem with rfl | hmem
      · exact ⟨_, hfirst.2.1⟩
      · exact ih hrest hmem

/-- The part of a header in front of its padding. -/
def Header.encodeFields (o : ByteOrder) (h : Header) : Bytes :=
  [h.endianness, h.messageType, h.flags, h.majorVersion] ++ o.bytes 4 h.length.toNat
    ++ o.bytes 4 h.serial.toNat ++ (Value.array (entryValues h.fields.entries)).encode o 12

/-- **The bytes of a header.** -/
def Header.encode (o : ByteOrder) (h : Header) : Bytes :=
  h.encodeFields o ++ pad (h.encodeFields o).length 8

section Emits

variable {e : Endian}

/-- The known types. -/
theorem fieldType_cases (code : FieldCode) : fieldType code = some .string
    ∨ fieldType code = some .objectPath ∨ fieldType code = some (.primitive .uint32)
    ∨ fieldType code = none := by
  unfold fieldType
  split_ifs <;> simp

/-- A known field of its type is written like any variant. -/
theorem writeField_eq {code : FieldCode} {value : Value .object} (h : FieldTyped (code, value)) :
    writeField e code value = (do
      MessageWriter.writePad 8
      MemoryStream.write [code]
      value.write e) := by
  unfold FieldTyped at h
  unfold writeField
  cases value with
  | object v hv =>
    rcases fieldType_cases code with hc | hc | hc | hc
    · rw [hc]
      obtain rfl := h _ hc
      cases v with
      | string s => rfl
    · rw [hc]
      obtain rfl := h _ hc
      cases v with
      | objectPath path => rfl
    · rw [hc]
      obtain rfl := h _ hc
      cases v with
      | primitive bits => rfl
    · rw [hc]

/-- A known field of another type is not written. -/
theorem writeField_untyped {code : FieldCode} {value : Value .object}
    (h : ¬ FieldTyped (code, value)) (s s' : MemoryStream) :
    ¬ Runs (writeField e code value) s () s' := by
  intro hrun
  apply h
  unfold FieldTyped
  intro t ht
  dsimp only at ht ⊢
  unfold writeField at hrun
  obtain ⟨u₁, s₁, -, hrun⟩ := runs_bind.mp hrun
  obtain ⟨u₂, s₂, -, hrun⟩ := runs_bind.mp hrun
  cases value with
  | object v hv =>
    rcases fieldType_cases code with hc | hc | hc | hc
    · rw [hc] at hrun ht
      cases ht
      obtain ⟨u₃, s₃, -, hrun⟩ := runs_bind.mp hrun
      obtain ⟨a, s₄, hcast, -⟩ := runs_bind.mp hrun
      have hok := (runs_lift.mp hcast).1
      cases v <;> first | rfl | cases hok
    · rw [hc] at hrun ht
      cases ht
      obtain ⟨u₃, s₃, -, hrun⟩ := runs_bind.mp hrun
      obtain ⟨a, s₄, hcast, -⟩ := runs_bind.mp hrun
      have hok := (runs_lift.mp hcast).1
      cases v <;> first | rfl | cases hok
    · rw [hc] at hrun ht
      cases ht
      obtain ⟨u₃, s₃, -, hrun⟩ := runs_bind.mp hrun
      obtain ⟨a, s₄, hcast, -⟩ := runs_bind.mp hrun
      have hok := (runs_lift.mp hcast).1
      cases v with
      | @primitive p bits => cases p <;> first | rfl | cases hok
      | _ => cases hok
    · rw [hc] at ht
      cases ht

/-- A code takes one byte. -/
theorem encode_code (o : ByteOrder) (code : FieldCode) (pos : Nat) :
    (Value.primitive (p := .byte) code.toBitVec).encode o pos = [code] := by
  have hbyte : UInt8.ofNat code.toBitVec.toNat = code := UInt8.ofNat_toNat
  show pad pos 1 ++ o.bytes 1 code.toBitVec.toNat = [code]
  rw [pad_one, ByteOrder.bytes_one, List.nil_append, hbyte]

/-- A pair in the format. -/
theorem encode_entryValue (o : ByteOrder) (entry : FieldEntry) (pos : Nat) :
    (entryValue entry).encode o pos
      = pad pos 8 ++ (entry.1 :: entry.2.encode o (padded pos 8 + 1)) := by
  rw [entryValue, Value.encode, Fields.encode, Fields.encode, Fields.encode, encode_code,
      List.append_nil]
  rfl

theorem withinLimits_entryValue (o : ByteOrder) (entry : FieldEntry) (pos : Nat) :
    (entryValue entry).WithinLimits o pos ↔ entry.2.WithinLimits o (padded pos 8 + 1) := by
  have hcode := encode_code o entry.1 (padded pos 8)
  show (True ∧ entry.2.WithinLimits o (padded pos 8
    + ((Value.primitive (p := .byte) entry.1.toBitVec).encode o (padded pos 8)).length) ∧ True) ↔ _
  rw [hcode, true_and, and_true, List.length_singleton]

/-- A field is written as a pair of its code and its value. -/
theorem emits_writeField (entry : FieldEntry)
    (hnative : e.isNative = true ∨ entry.2.NoWideStruct) :
    Emits (writeField e entry.1 entry.2)
      (fun pos => FieldTyped entry ∧ (entryValue entry).WithinLimits e.order pos)
      ((entryValue entry).encode e.order) := by
  obtain ⟨code, value⟩ := entry
  by_cases htyped : FieldTyped (code, value)
  · rw [writeField_eq htyped]
    refine (emits_bind (emits_writePad 8) (emits_bind (emits_write [code])
      (value.emits e hnative))).congr ?_ ?_
    · intro pos
      rw [withinLimits_entryValue, padded_eq_add_length]
      exact ⟨fun h => ⟨htyped, h.2.2⟩, fun h => ⟨trivial, trivial, h.2⟩⟩
    · intro pos
      rw [encode_entryValue, padded_eq_add_length]
      rfl
  · intro s s' _
    constructor
    · intro hrun
      exact absurd hrun (writeField_untyped htyped s s')
    · intro hrun
      exact absurd hrun.1.1 htyped

theorem emits_writeFields : (es : List FieldEntry) →
    (∀ entry ∈ es, e.isNative = true ∨ entry.2.NoWideStruct) →
    Emits (writeFields e es)
      (fun pos => (∀ entry ∈ es, FieldTyped entry)
        ∧ (entryValues es).WithinLimits e.order pos)
      ((entryValues es).encode e.order)
  | [], _ => by
      refine emits_nothing.congr ?_ fun _ => rfl
      intro pos
      exact ⟨fun _ => ⟨fun entry h => absurd h List.not_mem_nil, trivial⟩, fun _ => trivial⟩
  | entry :: es, hnative => by
      refine (emits_bind (emits_writeField entry (hnative entry (by simp)))
        (emits_writeFields es fun f hf => hnative f (List.mem_cons_of_mem _ hf))).congr ?_
        fun _ => rfl
      intro pos
      rw [List.forall_mem_cons]
      exact ⟨fun h => ⟨⟨h.1.1, h.2.1⟩, h.1.2, h.2.2⟩, fun h => ⟨⟨h.1.1, h.2.1⟩, h.1.2, h.2.2⟩⟩

/-- **The fields are written as an array of pairs.** -/
theorem emits_writeHeaderFields (f : HeaderFields)
    (hnative : ∀ entry ∈ f.entries, e.isNative = true ∨ entry.2.NoWideStruct) :
    Emits (writeHeaderFields e f)
      (fun pos => (∀ entry ∈ f.entries, FieldTyped entry)
        ∧ (Value.array (entryValues f.entries)).WithinLimits e.order pos)
      ((Value.array (entryValues f.entries)).encode e.order) := by
  refine (emits_writeMeasured e (text "Dict") 8 (emits_writeFields f.entries hnative)).congr ?_
    fun _ => rfl
  intro pos
  exact ⟨fun h => ⟨h.1.1, rfl, h.1.2, h.2⟩, fun h => ⟨⟨h.1, h.2.2.1⟩, h.2.2.2⟩⟩

/-- A header's bytes, written from the start of a stream: **the writer writes
    the format**, exactly when the fields can be sent. -/
theorem Header.emits {native : ByteOrder} {h : Header}
    (hnative : h.endianness = nativeEndianness native
      ∨ ∀ entry ∈ h.fields.entries, entry.2.NoWideStruct) (s' : MemoryStream) :
    Runs (h.write native) ⟨[], 0⟩ () s' ↔ h.fields.Sendable (wireOrder native h.endianness)
      ∧ (h.encode (wireOrder native h.endianness)).length ≤ maxStreamLength
      ∧ s' = ⟨h.encode (wireOrder native h.endianness),
          (h.encode (wireOrder native h.endianness)).length⟩ := by
  have horder : wireOrder native h.endianness
      = Endian.order { native := native, endianness := h.endianness } := rfl
  rw [horder, Header.write]
  generalize he : Endian.mk native h.endianness = e
  have hfields : ∀ entry ∈ h.fields.entries, e.isNative = true ∨ entry.2.NoWideStruct := by
    intro entry hentry
    rcases hnative with hn | hn
    · exact Or.inl (by simp [← he, Endian.isNative, hn])
    · exact Or.inr (hn entry hentry)
  have hwrite := emits_bind (emits_write [h.endianness]) (emits_bind (emits_write [h.messageType])
    (emits_bind (emits_write [h.flags]) (emits_bind (emits_write [h.majorVersion])
    (emits_bind (emits_writePrimitive e .uint32 h.length.toNat)
    (emits_bind (emits_writePrimitive e .uint32 h.serial.toNat)
    (emits_bind (emits_writeHeaderFields h.fields hfields) (emits_writePad 8)))))))
  have hstart : (MemoryStream.mk [] 0).AtEnd := ⟨rfl, by decide⟩
  have hlength : encodeNumber e.order 4 h.length.toNat 4 = e.order.bytes 4 h.length.toNat := by
    rw [encodeNumber, pad, padNeeded_of_mod (by rfl), List.replicate_zero, List.nil_append]
  have hserial : encodeNumber e.order 4 h.serial.toNat 8 = e.order.bytes 4 h.serial.toNat := by
    rw [encodeNumber, pad, padNeeded_of_mod (by rfl), List.replicate_zero, List.nil_append]
  have hencode : h.encode e.order = [h.endianness] ++ ([h.messageType] ++ ([h.flags]
      ++ ([h.majorVersion] ++ (e.order.bytes 4 h.length.toNat ++ (e.order.bytes 4 h.serial.toNat
      ++ ((Value.array (entryValues h.fields.entries)).encode e.order 12
      ++ pad (12 + ((Value.array (entryValues h.fields.entries)).encode e.order 12).length)
        8)))))) := by
    have hpos : (h.encodeFields e.order).length
        = 12 + ((Value.array (entryValues h.fields.entries)).encode e.order 12).length := by
      rw [Header.encodeFields]
      simp only [List.length_append, List.length_cons, List.length_nil, ByteOrder.length_bytes]
    rw [Header.encode, hpos, Header.encodeFields]
    simp only [List.append_assoc, List.cons_append, List.nil_append]
  have hrun := hwrite ⟨[], 0⟩ s' hstart
  dsimp only [List.length_singleton, Primitive.size] at hrun
  simp only [Nat.zero_add, Nat.reduceAdd, hlength, hserial, ByteOrder.length_bytes, ← hencode,
    MemoryStream.append, List.nil_append, true_and, and_true] at hrun
  exact hrun

end Emits

/-! ## §4. The reader reads it back. -/

section FromBytes

variable {sameKey : {k : ClrType} → Value k → Value k → Bool}

theorem runs_seek_reader {data : Bytes} {pos stride : Nat} (h : pos + stride ≤ data.length) :
    Runs (MessageReader.seek data stride) pos () (pos + stride) := by
  rw [MessageReader.seek, runs_get_bind, if_neg (by omega)]
  exact runs_set.mpr rfl

/-- Fields whose values are readable make a readable array of pairs. -/
theorem readable_entryValues {e : Endian} : {es : List FieldEntry} →
    (∀ entry ∈ es, entry.2.Readable sameKey e) → (entryValues es).Readable sameKey e
  | [], _ => trivial
  | entry :: es, h =>
      ⟨⟨List.cons_ne_nil _ _, rfl, trivial, h entry (by simp), trivial⟩,
        readable_entryValues fun f hf => h f (List.mem_cons_of_mem _ hf)⟩

/-- A number of four bytes at an aligned position. -/
theorem readUInt32_at {e : Endian} {data : Bytes} {pos : Nat} {v : BitVec 32} (hpos : pos % 4 = 0)
    (hat : HasAt data pos (e.order.bytes 4 v.toNat)) :
    Runs (readPrimitive e data .uint32) pos v (pos + 4) := by
  have hencode : encodeNumber e.order 4 v.toNat pos = e.order.bytes 4 v.toNat := by
    rw [encodeNumber, pad, padNeeded_of_mod hpos, List.replicate_zero, List.nil_append]
  have hnum : HasAt data pos (encodeNumber e.order 4 v.toNat pos) := by rwa [hencode]
  have hrun : Runs (readPrimitive e data .uint32) pos v
      (pos + (encodeNumber e.order 4 v.toNat pos).length) :=
    readPrimitive_at (p := .uint32) hnum
  rwa [hencode, ByteOrder.length_bytes] at hrun

/-- The parts of a header, in data that begin with it. -/
theorem Header.readParts_at {e : Endian} {h : Header} {data : Bytes}
    (hat : HasAt data 0 (h.encodeFields e.order)) (hsend : h.fields.Sendable e.order)
    (hread : ∀ entry ∈ h.fields.entries, entry.2.Readable sameKey e)
    (hsize : data.length ≤ maxStreamLength) :
    ∃ pos, Runs (Header.readParts sameKey e data) 0 (h.length, h.serial, h.fields.entries) pos := by
  rw [Header.encodeFields] at hat
  obtain ⟨hfront, hfields⟩ := hasAt_append.mp hat
  obtain ⟨hfront, hserial⟩ := hasAt_append.mp hfront
  obtain ⟨hfront, hlength⟩ := hasAt_append.mp hfront
  simp only [List.length_append, List.length_cons, List.length_nil, ByteOrder.length_bytes,
    Nat.zero_add, Nat.reduceAdd] at hlength hserial hfields
  have hroom : 0 + 4 ≤ data.length := hfront.length_le (List.cons_ne_nil _ _)
  have hreadLength := readUInt32_at (by rfl) hlength
  have hreadSerial := readUInt32_at (by rfl) hserial
  have harray : (Value.array (entryValues h.fields.entries)).Readable sameKey e :=
    ⟨trivial, readable_entryValues hread⟩
  have hvalue := (Value.array (entryValues h.fields.entries)).reads hsize hfields hsend.2 harray
    (Nat.le_refl _)
  refine ⟨12 + ((Value.array (entryValues h.fields.entries)).encode e.order 12).length, ?_⟩
  refine (runs_seek_reader hroom).bind (hreadLength.bind (hreadSerial.bind
    ((read_of_runs (by rfl) hvalue).bind ?_)))
  refine runs_pure.mpr ⟨?_, rfl⟩
  rw [fieldEntries_entryValues]

/-- **A header is read back from its bytes**, in the order that its first byte
    names. -/
theorem Header.fromBytes_encode {native : ByteOrder} {h : Header}
    (hsend : h.fields.Sendable (wireOrder native h.endianness))
    (hread : ∀ entry ∈ h.fields.entries,
      entry.2.Readable sameKey { native := native, endianness := h.endianness })
    (hsize : (h.encode (wireOrder native h.endianness)).length ≤ maxStreamLength) :
    Header.fromBytes sameKey native (h.encode (wireOrder native h.endianness)) = .ok h := by
  have hat : HasAt (h.encode (wireOrder native h.endianness)) 0
      (h.encodeFields (wireOrder native h.endianness)) := List.prefix_append _ _
  obtain ⟨pos, hparts⟩ := Header.readParts_at
    (e := { native := native, endianness := h.endianness }) hat hsend hread hsize
  unfold Runs at hparts
  have hfront : h.encode (wireOrder native h.endianness) = h.endianness :: h.messageType
      :: h.flags :: h.majorVersion
      :: (h.encode (wireOrder native h.endianness)).drop 4 := rfl
  rw [hfront] at hparts ⊢
  rw [Header.fromBytes, hparts]
  show Except.ok _ = _
  rw [HeaderFields.setAll_entries]

end FromBytes

end SapDbLib
