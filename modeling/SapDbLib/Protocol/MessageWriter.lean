/-
  SapDbLib.Protocol.MessageWriter — THE WRITER, AND THE FORMAT IT WRITES.

  `MessageWriter` as the code computes it: a memory stream with a position,
  lengths written as zero first and overwritten when the content stands, bytes
  of a number reversed when the message is not in the machine's own order, and
  copies of whole arrays and structures where their memory image is the wire
  format already.

    * `emits_bind` — what two writes in a row add to the stream;
    * `Value.emits` — **the writer writes the format**: it succeeds exactly
      when the value is within the limits and the stream does not grow past
      its maximum, and then has added the encoding of the value;
    * the copies agree with the plain loop (`Values.memory_eq_encode`,
      `Fields.memory_eq_encode`).

  The one place where the writer leaves the format, structures of numbers in
  the order of another machine, is the hypothesis `NoWideStruct`.
-/
import SapDbLib.Library.Stateful
import SapDbLib.Protocol.Value

namespace SapDbLib

open Library ProtocolInformation

/-! ## §1. The stream. -/

/-- `System.IO.MemoryStream`. -/
structure MemoryStream where
  buffer : Bytes
  position : Nat
  deriving DecidableEq, Repr

/-- A stream of 2 GiB is full. -/
def maxStreamLength : Nat := 2147483647

/-- What a writer does to its stream. -/
abbrev Writer := Stateful CSharpException MemoryStream PUnit

/-- `stream.Write`. -/
def MemoryStream.write (bytes : Bytes) : Writer := do
  let s ← get
  if maxStreamLength < s.position + bytes.length then
    throw (.other (text "System.IO.IOException") (text "Stream was too long."))
  else
    set { buffer := overwrite s.buffer s.position bytes
          position := s.position + bytes.length : MemoryStream }

/-- `stream.Position = position` -/
def MemoryStream.seek (position : Nat) : Writer := do
  let s ← get
  set { s with position := position }

/-- A machine's byte order and the flag of a message. -/
structure Endian where
  native : ByteOrder
  endianness : EndianFlag
  deriving DecidableEq, Repr

namespace Endian

/-- `endianness == Connection.NativeEndianness` -/
def isNative (e : Endian) : Bool := e.endianness == nativeEndianness e.native

/-- The byte order of the message. -/
def order (e : Endian) : ByteOrder := wireOrder e.native e.endianness

theorem order_of_isNative {e : Endian} (h : e.isNative = true) : e.order = e.native := by
  rw [order, wireOrder, if_pos (by simpa [isNative] using h)]

/-- A machine writing in its own order. -/
def own (native : ByteOrder) : Endian :=
  { native := native, endianness := nativeEndianness native }

@[simp] theorem isNative_own (native : ByteOrder) : (own native).isNative = true := by
  simp [own, isNative]

@[simp] theorem order_own (native : ByteOrder) : (own native).order = native :=
  order_of_isNative (isNative_own native)

end Endian

/-! ## §2. `MessageWriter`. -/

namespace MessageWriter

/-- `WritePad`. -/
def writePad (alignment : Nat) : Writer := do
  let s ← get
  if padNeeded s.position alignment = 0 then return
  else MemoryStream.write (List.replicate (padNeeded s.position alignment) 0)

/-- `WriteNull`. -/
def writeNull : Writer := MemoryStream.write [0]

/-- `MarshalUShort`, `MarshalUInt` and `MarshalULong`: the bytes of a number
    as they lie in memory, or those reversed. -/
def marshal (e : Endian) (size v : Nat) : Writer := do
  writePad size
  MemoryStream.write
    (if e.isNative then e.native.bytes size v else (e.native.bytes size v).reverse)

/-- `Write` of a number: a byte goes to the stream as it is. -/
def writePrimitive (e : Endian) (p : Primitive) (v : Nat) : Writer :=
  match p with
  | .byte => MemoryStream.write [UInt8.ofNat v]
  | p => marshal e p.size v

/-- `Write (bool)`. -/
def writeBoolean (e : Endian) (b : Bool) : Writer := marshal e 4 b.toNat

/-- `Write (string)`. -/
def writeString (e : Endian) (s : Text) : Writer := do
  marshal e 4 (utf8Encode s).length
  MemoryStream.write (utf8Encode s)
  writeNull

/-- `Write (Signature)`: one without data is dereferenced all the same. -/
def writeSignature : Option Bytes → Writer
  | none => throw .nullReference
  | some sig =>
      if maxSignatureLength < sig.length then
        throw (exception (text "Signature length " ++ decimal sig.length
          ++ text " exceeds maximum allowed 255 bytes"))
      else do
        MemoryStream.write [UInt8.ofNat sig.length]
        MemoryStream.write sig
        writeNull

/-- The exception for contents that are too long. -/
def lengthException (kind : Text) (length : Nat) : CSharpException :=
  exception (kind ++ text " length " ++ decimal length
    ++ text " exceeds maximum allowed 67108864 bytes")

/-- `Signature.Alignment`. -/
def signatureAlignment : Bytes → Except CSharpException Nat
  | [] => .ok 0
  | b :: _ => getAlignment (DType.ofByte b)

/-- A content whose length is not known before it is written: a zero in its
    place, padding, the content, then the length over the zero. -/
def writeMeasured (e : Endian) (kind : Text) (alignment : Nat) (content : Writer) : Writer := do
  let origPos := (← get).position
  marshal e 4 0
  writePad alignment
  let startPos := (← get).position
  content
  let endPos := (← get).position
  MemoryStream.seek origPos
  if maxArrayLength < endPos - startPos then
    throw (lengthException kind (endPos - startPos))
  else
    marshal e 4 (endPos - startPos)
    MemoryStream.seek endPos

/-- A content that is copied from memory. -/
def writeCopied (e : Endian) (alignment : Nat) (memory : Bytes) : Writer := do
  if maxArrayLength < memory.length then
    throw (lengthException (text "Array") memory.length)
  else
    marshal e 4 memory.length
    writePad alignment
    MemoryStream.write memory

/-- `WriteArray<T>`, given the array's memory image and the loop over its
    elements. -/
def writeArray (e : Endian) (elemType : ClrType) (memory : Bytes) (each : Writer) : Writer := do
  match elemType.asPrimitive with
  | some .byte =>
      if maxArrayLength < memory.length then
        throw (lengthException (text "Array") memory.length)
      else
        marshal e 4 memory.length
        MemoryStream.write memory
  | some _ =>
      let sigElem ← getSig elemType
      let alignment ← signatureAlignment sigElem
      -- numbers of fixed size, in the order of the machine
      if e.isNative then writeCopied e alignment memory
      else writeMeasured e (text "Array") alignment each
  | none =>
      let sigElem ← getSig elemType
      let alignment ← signatureAlignment sigElem
      writeMeasured e (text "Array") alignment each

/-- `WriteStructure<T>`, given the structure's memory image and the loop over
    its fields. -/
def writeStructure (fields : List ClrType) (memory : Bytes) (each : Writer) : Writer := do
  if fields.length = 0 then return
  else
    writePad 8
    if ClrType.isEligibleStruct fields then MemoryStream.write memory
    else each

end MessageWriter

/-- The memory image of a number. -/
def Value.memory (native : ByteOrder) : {t : ClrType} → Value t → Bytes
  | .primitive p, .primitive bits => native.bytes p.size bits.toNat
  | _, _ => []

/-- The memory image of an array of numbers. -/
def Values.memory (native : ByteOrder) : {t : ClrType} → Values t → Bytes
  | _, .nil => []
  | _, .cons v vs => v.memory native ++ vs.memory native

/-- The memory image of a structure of numbers of one size. -/
def Fields.memory (native : ByteOrder) : {ts : List ClrType} → Fields ts → Bytes
  | _, .nil => []
  | _, .cons v fs => v.memory native ++ fs.memory native

open MessageWriter

mutual

/-- `Write` of a value of a type. -/
def Value.write (e : Endian) : {t : ClrType} → Value t → Writer
  | .primitive p, .primitive bits => writePrimitive e p bits.toNat
  | _, .boolean b => writeBoolean e b
  | _, .string s => writeString e s
  | _, .objectPath path => writeString e path.value
  | _, .signature sig => writeSignature sig
  -- `WriteVariant`
  | _, .object (t := t) v _ => do
      let sig ← getSig t
      writeSignature (some sig)
      v.write e
  | .array t, .array vs => writeArray e t (vs.memory e.native) (vs.write e)
  -- `WriteFromDict`
  | _, .dictionary es => writeMeasured e (text "Dict") 8 (es.write e)
  | .struct ts, .struct fs => writeStructure ts (fs.memory e.native) (fs.write e)

def Values.write (e : Endian) : {t : ClrType} → Values t → Writer
  | _, .nil => return
  | _, .cons v vs => do
      v.write e
      vs.write e

def Entries.write (e : Endian) : {k v : ClrType} → Entries k v → Writer
  | _, _, .nil => return
  | _, _, .cons key value es => do
      writePad 8
      key.write e
      value.write e
      es.write e

def Fields.write (e : Endian) : {ts : List ClrType} → Fields ts → Writer
  | _, .nil => return
  | _, .cons v fs => do
      v.write e
      fs.write e

end

/-! ## §3. What a write adds. -/

/-- The next write goes to the end of the stream. -/
def MemoryStream.AtEnd (s : MemoryStream) : Prop :=
  s.position = s.buffer.length ∧ s.position ≤ maxStreamLength

/-- A stream with some bytes more. -/
def MemoryStream.append (s : MemoryStream) (bytes : Bytes) : MemoryStream :=
  { buffer := s.buffer ++ bytes, position := s.position + bytes.length }

theorem MemoryStream.AtEnd.append {s : MemoryStream} (h : s.AtEnd) {bytes : Bytes}
    (hroom : s.position + bytes.length ≤ maxStreamLength) : (s.append bytes).AtEnd := by
  refine ⟨?_, hroom⟩
  show s.position + bytes.length = (s.buffer ++ bytes).length
  rw [List.length_append, h.1]

theorem MemoryStream.append_append (s : MemoryStream) (b c : Bytes) :
    (s.append b).append c = s.append (b ++ c) := by
  simp only [MemoryStream.append, List.append_assoc, List.length_append, Nat.add_assoc]

@[simp] theorem MemoryStream.append_nil (s : MemoryStream) : s.append [] = s := by
  simp only [MemoryStream.append, List.append_nil, List.length_nil, Nat.add_zero]

/-- When a write succeeds, anywhere in the stream. -/
theorem runs_write {bytes : Bytes} {s s' : MemoryStream} :
    Runs (MemoryStream.write bytes) s () s' ↔ s.position + bytes.length ≤ maxStreamLength
      ∧ s' = { buffer := overwrite s.buffer s.position bytes
               position := s.position + bytes.length } := by
  simp only [MemoryStream.write, runs_bind, runs_get, runs_ite, runs_set]
  constructor
  · intro h
    obtain ⟨r, t, ⟨rfl, rfl⟩, h⟩ := h
    split_ifs at h with hfull
    · exact absurd h runs_throw
    · exact ⟨by omega, h.symm⟩
  · intro h
    refine ⟨s, s, ⟨rfl, rfl⟩, ?_⟩
    rw [if_neg (by omega)]
    exact h.2.symm

theorem runs_seek {position : Nat} {s s' : MemoryStream} :
    Runs (MemoryStream.seek position) s () s' ↔ s' = { s with position := position } := by
  simp only [MemoryStream.seek, runs_bind, runs_get, runs_set]
  constructor
  · intro h
    obtain ⟨r, t, ⟨rfl, rfl⟩, h⟩ := h
    exact h.symm
  · intro h
    exact ⟨s, s, ⟨rfl, rfl⟩, h.symm⟩

/-- `w` adds `bytes pos` to a stream of length `pos`, and succeeds exactly
    when `ok pos` holds and there is room. -/
def Emits (w : Writer) (ok : Nat → Prop) (bytes : Nat → Bytes) : Prop :=
  ∀ s s' : MemoryStream, s.AtEnd → (Runs w s () s' ↔
    ok s.position ∧ s.position + (bytes s.position).length ≤ maxStreamLength
      ∧ s' = s.append (bytes s.position))

theorem Emits.congr {w : Writer} {ok ok' : Nat → Prop} {bytes bytes' : Nat → Bytes}
    (h : Emits w ok bytes) (hok : ∀ pos, ok pos ↔ ok' pos)
    (hbytes : ∀ pos, bytes pos = bytes' pos) : Emits w ok' bytes' := by
  intro s s' hs
  rw [h s s' hs, hok, hbytes]

theorem emits_write (bytes : Bytes) :
    Emits (MemoryStream.write bytes) (fun _ => True) (fun _ => bytes) := by
  intro s s' hs
  rw [runs_write, hs.1, overwrite_end, MemoryStream.append, hs.1, true_and]

theorem emits_nothing : Emits (pure ()) (fun _ => True) (fun _ => []) := by
  intro s s' hs
  dsimp only
  rw [runs_pure, MemoryStream.append_nil]
  exact ⟨fun h => ⟨trivial, hs.2, h.2.symm⟩, fun h => ⟨rfl, h.2.2.symm⟩⟩

/-- **Two writes in a row** add one piece behind the other. -/
theorem emits_bind {v w : Writer} {okv okw : Nat → Prop} {bv bw : Nat → Bytes}
    (hv : Emits v okv bv) (hw : Emits w okw bw) :
    Emits (do v; w) (fun pos => okv pos ∧ okw (pos + (bv pos).length))
      (fun pos => bv pos ++ bw (pos + (bv pos).length)) := by
  intro s s' hs
  simp only [List.length_append]
  rw [runs_bind]
  constructor
  · intro h
    obtain ⟨u, t, ht, h⟩ := h
    obtain ⟨hok, hroom, rfl⟩ := (hv s t hs).mp ht
    obtain ⟨hok', hroom', rfl⟩ := (hw _ s' (hs.append hroom)).mp h
    refine ⟨⟨hok, hok'⟩, ?_, MemoryStream.append_append _ _ _⟩
    rw [← Nat.add_assoc]
    exact hroom'
  · intro h
    obtain ⟨⟨hok, hok'⟩, hroom, rfl⟩ := h
    rw [← Nat.add_assoc] at hroom
    have hfirst : s.position + (bv s.position).length ≤ maxStreamLength :=
      Nat.le_trans (Nat.le_add_right _ _) hroom
    refine ⟨(), _, (hv s _ hs).mpr ⟨hok, hfirst, rfl⟩, ?_⟩
    refine (hw _ _ (hs.append hfirst)).mpr ⟨hok', hroom, ?_⟩
    rw [MemoryStream.append_append]
    rfl

/-- A check that throws. -/
theorem emits_unless {w : Writer} {ok : Nat → Prop} {bytes : Nat → Bytes} {c : Prop} [Decidable c]
    {e : CSharpException} (h : Emits w ok bytes) :
    Emits (if c then throw e else w) (fun pos => ¬ c ∧ ok pos) bytes := by
  intro s s' hs
  rw [runs_ite]
  split_ifs with hc
  · simp only [hc, not_true_eq_false, false_and, iff_false]
    exact runs_throw
  · simp only [hc, not_false_eq_true, true_and]
    exact h s s' hs

/-- A computation that may throw, in front of a write. -/
theorem emits_lift {α : Type} {r : Except CSharpException α} {f : α → Writer} {ok : Nat → Prop}
    {bytes : Nat → Bytes} (h : ∀ a, r = .ok a → Emits (f a) ok bytes) :
    Emits (do let a ← (liftM r : Stateful CSharpException MemoryStream α); f a)
      (fun pos => (∃ a, r = .ok a) ∧ ok pos) bytes := by
  intro s s' hs
  rw [runs_bind]
  constructor
  · intro hrun
    obtain ⟨a, t, hlift, hrun⟩ := hrun
    obtain ⟨hr, rfl⟩ := runs_lift.mp hlift
    obtain ⟨hok, hroom, hs'⟩ := (h a hr s s' hs).mp hrun
    exact ⟨⟨⟨a, hr⟩, hok⟩, hroom, hs'⟩
  · intro hrun
    obtain ⟨⟨⟨a, hr⟩, hok⟩, hroom, hs'⟩ := hrun
    exact ⟨a, s, runs_lift.mpr ⟨hr, rfl⟩, (h a hr s s' hs).mpr ⟨hok, hroom, hs'⟩⟩

/-! ## §4. The parts of the format. -/

/-- Padding at any position of the stream. -/
theorem runs_writePad {alignment : Nat} {s s' : MemoryStream} :
    Runs (writePad alignment) s () s' ↔ padNeeded s.position alignment = 0 ∧ s' = s
      ∨ padNeeded s.position alignment ≠ 0
        ∧ Runs (MemoryStream.write (pad s.position alignment)) s () s' := by
  simp only [writePad, runs_bind, runs_get, runs_ite, runs_pure]
  constructor
  · intro h
    obtain ⟨r, t, ⟨rfl, rfl⟩, h⟩ := h
    split_ifs at h with hzero
    · exact Or.inl ⟨hzero, h.2.symm⟩
    · exact Or.inr ⟨hzero, h⟩
  · intro h
    refine ⟨s, s, ⟨rfl, rfl⟩, ?_⟩
    rcases h with ⟨hzero, h⟩ | ⟨hzero, h⟩
    · rw [if_pos hzero]
      exact ⟨trivial, h.symm⟩
    · rw [if_neg hzero]
      exact h

theorem emits_writePad (alignment : Nat) :
    Emits (writePad alignment) (fun _ => True) (fun pos => pad pos alignment) := by
  intro s s' hs
  dsimp only
  rw [runs_writePad]
  by_cases hzero : padNeeded s.position alignment = 0
  · have hpad : pad s.position alignment = [] := by rw [pad, hzero, List.replicate_zero]
    rw [hpad, MemoryStream.append_nil]
    simp only [hzero, true_and, not_true_eq_false, ne_eq, false_and, or_false]
    exact ⟨fun h => ⟨hs.2, h⟩, fun h => h.2⟩
  · simp only [hzero, false_and, ne_eq, not_false_eq_true, true_and, false_or]
    rw [emits_write _ s s' hs, true_and]

/-- The bytes of a number, in memory order or reversed, are those of the
    message's order. -/
theorem marshal_bytes (e : Endian) (size v : Nat) :
    (if e.isNative then e.native.bytes size v else (e.native.bytes size v).reverse)
      = e.order.bytes size v := by
  by_cases h : e.isNative = true
  · rw [if_pos h, Endian.order_of_isNative h]
  · have horder : e.order = e.native.swap := by
      rw [Endian.order, wireOrder, if_neg (by simpa [Endian.isNative] using h)]
    rw [if_neg h, horder, ByteOrder.bytes_swap]

theorem emits_marshal (e : Endian) (size v : Nat) :
    Emits (marshal e size v) (fun _ => True) (encodeNumber e.order size v) := by
  have h := emits_bind (emits_writePad size) (emits_write (e.order.bytes size v))
  rw [marshal, marshal_bytes]
  exact h.congr (fun _ => ⟨fun _ => trivial, fun _ => ⟨trivial, trivial⟩⟩) (fun _ => rfl)

/-- A number written over one of its size that stands at its place: only the
    number changes. -/
theorem runs_marshal_over (e : Endian) {size v : Nat} (before old after : Bytes)
    (hold : old.length = size)
    (hroom : before.length + (padNeeded before.length size + size) ≤ maxStreamLength) :
    Runs (marshal e size v)
      { buffer := before ++ (pad before.length size ++ old) ++ after, position := before.length } ()
      { buffer := before ++ encodeNumber e.order size v before.length ++ after
        position := before.length + (padNeeded before.length size + size) } := by
  rw [marshal, marshal_bytes]
  refine runs_bind.mpr ⟨(), { buffer := before ++ (pad before.length size ++ old) ++ after
                              position := before.length + padNeeded before.length size }, ?_, ?_⟩
  · -- zeros over zeros
    rw [runs_writePad]
    by_cases hzero : padNeeded before.length size = 0
    · refine Or.inl ⟨hzero, ?_⟩
      rw [hzero, Nat.add_zero]
    · refine Or.inr ⟨hzero, runs_write.mpr ⟨?_, ?_⟩⟩
      · show before.length + (pad before.length size).length ≤ maxStreamLength
        rw [length_pad]
        omega
      · show _ = MemoryStream.mk (overwrite _ before.length _) _
        rw [← List.append_assoc before, List.append_assoc _ old after,
            overwrite_middle before (old ++ after) rfl, length_pad]
  · refine runs_write.mpr ⟨?_, ?_⟩
    · show before.length + padNeeded before.length size + (e.order.bytes size v).length ≤ _
      rw [ByteOrder.length_bytes]
      omega
    · show _ = MemoryStream.mk (overwrite _ (before.length + padNeeded before.length size) _)
        (before.length + padNeeded before.length size + (e.order.bytes size v).length)
      have hlen : before.length + padNeeded before.length size
          = (before ++ pad before.length size).length := by
        rw [List.length_append, length_pad]
      have hsize : old.length = (e.order.bytes size v).length := by
        rw [hold, ByteOrder.length_bytes]
      rw [ByteOrder.length_bytes, Nat.add_assoc]
      congr 1
      rw [hlen, ← List.append_assoc before, overwrite_middle _ after hsize, encodeNumber,
          ← List.append_assoc before]

/-- The steps of a measured content. -/
theorem runs_writeMeasured {e : Endian} {kind : Text} {alignment : Nat} {content : Writer}
    {s s' : MemoryStream} :
    Runs (writeMeasured e kind alignment content) s () s' ↔ ∃ s₁ s₂ s₃,
      Runs (do marshal e 4 0; writePad alignment) s () s₁ ∧ Runs content s₁ () s₂
        ∧ s₂.position - s₁.position ≤ maxArrayLength
        ∧ Runs (marshal e 4 (s₂.position - s₁.position)) { s₂ with position := s.position } () s₃
        ∧ s' = { s₃ with position := s₂.position } := by
  simp only [writeMeasured, runs_bind, runs_get, runs_ite, runs_seek]
  constructor
  · intro h
    obtain ⟨r, t, ⟨rfl, rfl⟩, u, s₀, h₀, _, s₁, h₁, r₁, t₁, ⟨rfl, rfl⟩, _, s₂, h₂, r₂, t₂,
      ⟨rfl, rfl⟩, _, t₃, h₃, h⟩ := h
    rw [runs_seek.mp h₃] at h
    split_ifs at h with hlong
    · exact absurd h runs_throw
    · obtain ⟨_, s₃, h₄, rfl⟩ := h
      exact ⟨s₁, s₂, s₃, ⟨u, s₀, h₀, h₁⟩, h₂, by omega, h₄, rfl⟩
  · intro h
    obtain ⟨s₁, s₂, s₃, ⟨u, s₀, h₀, h₁⟩, h₂, hlong, h₃, rfl⟩ := h
    refine ⟨s, s, ⟨rfl, rfl⟩, u, s₀, h₀, (), s₁, h₁, s₁, s₁, ⟨rfl, rfl⟩, (), s₂, h₂, s₂, s₂,
      ⟨rfl, rfl⟩, (), _, runs_seek.mpr rfl, ?_⟩
    rw [if_neg (by omega)]
    exact ⟨(), s₃, h₃, rfl⟩

/-- The length field and the padding behind it. -/
theorem emits_arrayHead (e : Endian) (alignment v : Nat) :
    Emits (do marshal e 4 v; writePad alignment) (fun _ => True)
      (fun pos => encodeNumber e.order 4 v pos ++ pad (padded pos 4 + 4) alignment) := by
  refine (emits_bind (emits_marshal e 4 v) (emits_writePad alignment)).congr
    (fun _ => ⟨fun _ => trivial, fun _ => ⟨trivial, trivial⟩⟩) ?_
  intro pos
  have hpos : pos + (encodeNumber e.order 4 v pos).length = padded pos 4 + 4 := by
    rw [length_encodeNumber, padded_eq]
    omega
  rw [hpos]

/-- **A measured content is an array of the format.** -/
theorem emits_writeMeasured (e : Endian) (kind : Text) (alignment : Nat) {content : Writer}
    {ok : Nat → Prop} {bytes : Nat → Bytes} (h : Emits content ok bytes) :
    Emits (writeMeasured e kind alignment content)
      (fun pos => ok (contentStart pos alignment)
        ∧ (bytes (contentStart pos alignment)).length ≤ maxArrayLength)
      (encodeArray e.order alignment bytes) := by
  intro s s' hs
  have hhead := emits_arrayHead e alignment 0 s
  dsimp only at hhead
  have hstart := contentStart_eq e.order s.position alignment
  generalize hfill : pad (padded s.position 4 + 4) alignment = fill at hhead hstart
  generalize hbody : bytes (contentStart s.position alignment) = body
  have hpos : ∀ n, (s.append (encodeNumber e.order 4 n s.position ++ fill)).position
      = contentStart s.position alignment := fun n => (hstart n).symm
  have hlength : s.position + (encodeArray e.order alignment bytes s.position).length
      = contentStart s.position alignment + body.length := by
    rw [encodeArray, hbody, hfill, List.length_append, ← Nat.add_assoc, ← hstart]
  have hdiff : ((s.append (encodeNumber e.order 4 0 s.position ++ fill)).append body).position
      - contentStart s.position alignment = body.length := by
    show _ + body.length - _ = _
    rw [hpos]
    omega
  -- the length goes over the zero that stands for it
  have hover : contentStart s.position alignment ≤ maxStreamLength →
      Runs (marshal e 4 body.length)
        { (s.append (encodeNumber e.order 4 0 s.position ++ fill)).append body with
            position := s.position } ()
        { buffer := s.buffer ++ encodeNumber e.order 4 body.length s.buffer.length
            ++ (fill ++ body)
          position := s.buffer.length + (padNeeded s.buffer.length 4 + 4) } := by
    intro hroom
    rw [hstart 0, List.length_append, length_encodeNumber, hs.1] at hroom
    have hrun := runs_marshal_over e (v := body.length) s.buffer (e.order.bytes 4 0)
      (fill ++ body) (ByteOrder.length_bytes _ _ _) (by omega)
    rw [MemoryStream.append_append, MemoryStream.append, hs.1, encodeNumber]
    simp only [List.append_assoc] at hrun ⊢
    exact hrun
  have hresult : MemoryStream.mk
        (s.buffer ++ encodeNumber e.order 4 body.length s.buffer.length ++ (fill ++ body))
        ((s.append (encodeNumber e.order 4 0 s.position ++ fill)).append body).position
      = s.append (encodeArray e.order alignment bytes s.position) := by
    show _ = MemoryStream.mk (s.buffer ++ encodeArray e.order alignment bytes s.position)
      (s.position + (encodeArray e.order alignment bytes s.position).length)
    rw [hlength, encodeArray, hbody, hfill, ← hs.1]
    simp only [List.append_assoc]
    congr 1
    show _ + body.length = _
    rw [hpos]
  rw [runs_writeMeasured, hlength, ← hresult]
  constructor
  · intro hrun
    obtain ⟨s₁, s₂, s₃, h₁, h₂, hlong, h₃, rfl⟩ := hrun
    obtain ⟨-, hroom₁, rfl⟩ := (hhead s₁ hs).mp h₁
    obtain ⟨hok, hroom₂, rfl⟩ := (h _ s₂ (hs.append hroom₁)).mp h₂
    rw [hpos, hbody] at hroom₂ hlong h₃
    rw [hpos] at hok
    rw [hdiff] at hlong h₃
    obtain ⟨-, rfl⟩ := h₃.unique (hover (Nat.le_trans (Nat.le_add_right _ _) hroom₂))
    refine ⟨⟨hok, by rw [hbody]; exact hlong⟩, hroom₂, ?_⟩
    rw [hpos, hbody]
  · intro hrun
    obtain ⟨⟨hok, hlong⟩, hroom, rfl⟩ := hrun
    rw [hbody] at hlong
    have hroom₁ : contentStart s.position alignment ≤ maxStreamLength :=
      Nat.le_trans (Nat.le_add_right _ _) hroom
    have hhead' := (hhead _ hs).mpr ⟨trivial, by rw [← hstart]; exact hroom₁, rfl⟩
    have hs₁ : (s.append (encodeNumber e.order 4 0 s.position ++ fill)).AtEnd :=
      hs.append (by rw [← hstart]; exact hroom₁)
    have hcontent := (h _ _ hs₁).mpr
      ⟨by rw [hpos]; exact hok, by rw [hpos, hbody]; exact hroom, rfl⟩
    rw [hpos, hbody] at hcontent
    refine ⟨_, _, MemoryStream.mk _ (s.buffer.length + (padNeeded s.buffer.length 4 + 4)),
      hhead', hcontent, ?_, ?_, rfl⟩
    · rw [hpos, hdiff]
      exact hlong
    · rw [hpos, hdiff]
      exact hover hroom₁

/-- What one write adds is known by its bytes alone. -/
theorem emits_writeString (e : Endian) (s : Text) :
    Emits (writeString e s) (fun _ => True) (encodeText e.order s) := by
  have h := emits_bind (emits_marshal e 4 (utf8Encode s).length)
    (emits_bind (emits_write (utf8Encode s)) (emits_write [0]))
  refine h.congr (fun _ => ⟨fun _ => trivial, fun _ => ⟨trivial, trivial, trivial⟩⟩) ?_
  intro pos
  rw [encodeText, List.append_assoc]

theorem emits_writeSignature (sig : Bytes) :
    Emits (writeSignature (some sig)) (fun _ => sig.length ≤ maxSignatureLength)
      (fun _ => encodeSignature sig) := by
  have h := emits_unless (c := maxSignatureLength < sig.length)
    (e := exception (text "Signature length " ++ decimal sig.length
      ++ text " exceeds maximum allowed 255 bytes"))
    (emits_bind (emits_write [UInt8.ofNat sig.length])
      (emits_bind (emits_write sig) (emits_write [0])))
  refine h.congr (fun _ => ⟨fun h => by omega, fun h => ⟨by omega, trivial, trivial, trivial⟩⟩) ?_
  intro pos
  rfl

/-- A signature without data cannot be written. -/
theorem emits_writeOptionSignature (sig : Option Bytes) :
    Emits (writeSignature sig) (fun _ => ∃ data ∈ sig, data.length ≤ maxSignatureLength)
      (fun _ => encodeSignature (sig.getD [])) := by
  cases sig with
  | none =>
      intro s s' hs
      constructor
      · intro hrun
        exact absurd hrun runs_throw
      · intro h
        obtain ⟨⟨data, hdata, -⟩, -⟩ := h
        cases hdata
  | some data =>
      refine (emits_writeSignature data).congr (fun pos => ?_) fun _ => rfl
      exact ⟨fun h => ⟨data, rfl, h⟩, fun ⟨data', hdata, h⟩ => by cases hdata; exact h⟩

/-- A number is padded to its size; a byte needs no padding. -/
theorem emits_writePrimitive (e : Endian) (p : Primitive) (v : Nat) :
    Emits (writePrimitive e p v) (fun _ => True) (encodeNumber e.order p.size v) := by
  cases p with
  | byte =>
      refine (emits_write [UInt8.ofNat v]).congr (fun _ => Iff.rfl) ?_
      intro pos
      show _ = pad pos 1 ++ e.order.bytes 1 v
      rw [pad_one, ByteOrder.bytes_one, List.nil_append]
  | _ => exact emits_marshal e _ v

/-- An array that is copied. -/
theorem emits_copied (e : Endian) (alignment : Nat) (memory : Bytes) {err : CSharpException}
    {bytes : Nat → Bytes} (h : ∀ pos, bytes (contentStart pos alignment) = memory) :
    Emits (if maxArrayLength < memory.length then throw err
        else do marshal e 4 memory.length; writePad alignment; MemoryStream.write memory)
      (fun pos => (bytes (contentStart pos alignment)).length ≤ maxArrayLength)
      (encodeArray e.order alignment bytes) := by
  have hwrite := emits_unless (c := maxArrayLength < memory.length) (e := err)
    (emits_bind (emits_marshal e 4 memory.length)
      (emits_bind (emits_writePad alignment) (emits_write memory)))
  refine hwrite.congr ?_ ?_
  · intro pos
    rw [h]
    exact ⟨fun h => by omega, fun h => ⟨by omega, trivial, trivial, trivial⟩⟩
  · intro pos
    have hpos : pos + (encodeNumber e.order 4 memory.length pos).length = padded pos 4 + 4 := by
      rw [length_encodeNumber, padded_eq]
      omega
    rw [encodeArray, h, hpos, List.append_assoc]

/-! ## §5. Copies of memory. -/

/-- **The memory image of an array is its content**: numbers of one size in
    the machine's order, from an aligned position on. -/
theorem Values.memory_eq_encode (o : ByteOrder) {p : Primitive} :
    (vs : Values (.primitive p)) → {pos : Nat} → pos % p.size = 0 →
    vs.memory o = vs.encode o pos
  | .nil, _, _ => rfl
  | .cons (.primitive bits) vs, pos, hpos => by
      have hfirst : (Value.primitive bits).encode o pos = o.bytes p.size bits.toNat := by
        rw [Value.encode, encodeNumber, pad, padNeeded_of_mod hpos, List.replicate_zero,
            List.nil_append]
      have hnext : (pos + p.size) % p.size = 0 := by rw [Nat.add_mod_right, hpos]
      rw [Values.memory, Values.encode, hfirst, ByteOrder.length_bytes,
          Values.memory_eq_encode o vs hnext]
      rfl

/-- Structures of numbers of one size larger than a byte. -/
def ClrType.isWideStruct : List ClrType → Bool
  | .primitive p :: ts => ClrType.isEligibleStruct (.primitive p :: ts) && p.size != 1
  | _ => false

/-- All these types are numbers of that size. -/
def ClrType.AllOfSize (size : Nat) (ts : List ClrType) : Prop :=
  ∀ t ∈ ts, ∃ p : Primitive, t = .primitive p ∧ p.size = size

theorem ClrType.allOfSize_of_eligible {ts : List ClrType}
    (h : ClrType.isEligibleStruct ts = true) :
    ∃ p : Primitive, ClrType.AllOfSize p.size ts
      ∧ (ClrType.isWideStruct ts = false → p.size = 1) := by
  unfold ClrType.isEligibleStruct at h
  split at h
  next p ts =>
    refine ⟨p, ?_, ?_⟩
    · intro t ht
      rcases List.mem_cons.mp ht with rfl | ht
      · exact ⟨p, rfl, rfl⟩
      · have hall := List.all_eq_true.mp h t ht
        cases t <;> simp [ClrType.asPrimitive] at hall
        exact ⟨_, rfl, hall⟩
    · intro hwide
      have heligible : ClrType.isEligibleStruct (.primitive p :: ts) = true := h
      simpa [ClrType.isWideStruct, heligible] using hwide
  next => cases h

/-- **The memory image of a structure of numbers of one size is its
    content.** -/
theorem Fields.memory_eq_encode (o : ByteOrder) {size : Nat} :
    {ts : List ClrType} → (fs : Fields ts) → {pos : Nat} → ClrType.AllOfSize size ts →
    pos % size = 0 → fs.memory o = fs.encode o pos
  | _, .nil, _, _, _ => rfl
  | _, .cons (t := t) v fs, pos, hall, hpos => by
      obtain ⟨p, rfl, rfl⟩ := hall t (by simp)
      obtain ⟨bits⟩ := v
      have hfirst : (Value.primitive bits).encode o pos = o.bytes p.size bits.toNat := by
        rw [Value.encode, encodeNumber, pad, padNeeded_of_mod hpos, List.replicate_zero,
            List.nil_append]
      have hnext : (pos + p.size) % p.size = 0 := by rw [Nat.add_mod_right, hpos]
      rw [Fields.memory, Fields.encode, hfirst, ByteOrder.length_bytes,
          Fields.memory_eq_encode o fs (fun u hu => hall u (List.mem_cons_of_mem _ hu)) hnext]
      rfl

/-- Single bytes have no order. -/
theorem Fields.memory_bytes (o o' : ByteOrder) : {ts : List ClrType} → (fs : Fields ts) →
    ClrType.AllOfSize 1 ts → fs.memory o = fs.memory o'
  | _, .nil, _ => rfl
  | _, .cons (t := t) v fs, hall => by
      obtain ⟨p, rfl, hp⟩ := hall t (by simp)
      obtain ⟨bits⟩ := v
      have hone : ∀ n v, n = 1 → o.bytes n v = o'.bytes n v := by
        intro n v hn
        rw [hn, ByteOrder.bytes_one, ByteOrder.bytes_one]
      have hbyte := hone p.size bits.toNat hp
      show o.bytes p.size bits.toNat ++ fs.memory o = o'.bytes p.size bits.toNat ++ fs.memory o'
      rw [hbyte, Fields.memory_bytes o o' fs fun u hu => hall u (List.mem_cons_of_mem _ hu)]

/-- The same of an array of bytes. -/
theorem Values.memory_bytes (o o' : ByteOrder) : (vs : Values (.primitive .byte)) →
    vs.memory o = vs.memory o'
  | .nil => rfl
  | .cons (.primitive bits) vs => by
      show o.bytes 1 bits.toNat ++ vs.memory o = o'.bytes 1 bits.toNat ++ vs.memory o'
      rw [ByteOrder.bytes_one, ByteOrder.bytes_one, Values.memory_bytes o o' vs]

/-! ## §6. The writer writes the format. -/

mutual

/-- The value can be sent from that position: every type sent along has a
    signature, every signature has data of at most 255 bytes, and no content
    is longer than 2^26 bytes. -/
def Value.WithinLimits (o : ByteOrder) : {t : ClrType} → Value t → Nat → Prop
  | _, .primitive _, _ | _, .boolean _, _ | _, .string _, _ | _, .objectPath _, _ => True
  | _, .signature sig, _ => ∃ data ∈ sig, data.length ≤ maxSignatureLength
  | _, .object (t := t) v _, pos =>
      t.isSignable = true ∧ t.code.length ≤ maxSignatureLength
        ∧ v.WithinLimits o (pos + (encodeSignature t.code).length)
  | .array t, .array vs, pos =>
      t.isSignable = true ∧ vs.WithinLimits o (contentStart pos t.alignment)
        ∧ (vs.encode o (contentStart pos t.alignment)).length ≤ maxArrayLength
  | _, .dictionary es, pos =>
      es.WithinLimits o (contentStart pos 8)
        ∧ (es.encode o (contentStart pos 8)).length ≤ maxArrayLength
  | .struct [], .struct _, _ => True
  | .struct (_ :: _), .struct fs, pos => fs.WithinLimits o (padded pos 8)

def Values.WithinLimits (o : ByteOrder) : {t : ClrType} → Values t → Nat → Prop
  | _, .nil, _ => True
  | _, .cons v vs, pos =>
      v.WithinLimits o pos ∧ vs.WithinLimits o (pos + (v.encode o pos).length)

def Entries.WithinLimits (o : ByteOrder) : {k v : ClrType} → Entries k v → Nat → Prop
  | _, _, .nil, _ => True
  | _, _, .cons key value es, pos =>
      let keyEnd := padded pos 8 + (key.encode o (padded pos 8)).length
      key.WithinLimits o (padded pos 8) ∧ value.WithinLimits o keyEnd
        ∧ es.WithinLimits o (keyEnd + (value.encode o keyEnd).length)

def Fields.WithinLimits (o : ByteOrder) : {ts : List ClrType} → Fields ts → Nat → Prop
  | _, .nil, _ => True
  | _, .cons v fs, pos =>
      v.WithinLimits o pos ∧ fs.WithinLimits o (pos + (v.encode o pos).length)

end

mutual

/-- No structure in the value is copied from memory with its numbers in the
    machine's order, single bytes apart. -/
def Value.NoWideStruct : {t : ClrType} → Value t → Prop
  | _, .object v _ => v.NoWideStruct
  | _, .array vs => vs.NoWideStruct
  | _, .dictionary es => es.NoWideStruct
  | .struct ts, .struct fs => ClrType.isWideStruct ts = false ∧ fs.NoWideStruct
  | _, .primitive _ | _, .boolean _ | _, .string _ | _, .objectPath _ | _, .signature _ => True

def Values.NoWideStruct : {t : ClrType} → Values t → Prop
  | _, .nil => True
  | _, .cons v vs => v.NoWideStruct ∧ vs.NoWideStruct

def Entries.NoWideStruct : {k v : ClrType} → Entries k v → Prop
  | _, _, .nil => True
  | _, _, .cons key value es => key.NoWideStruct ∧ value.NoWideStruct ∧ es.NoWideStruct

def Fields.NoWideStruct : {ts : List ClrType} → Fields ts → Prop
  | _, .nil => True
  | _, .cons v fs => v.NoWideStruct ∧ fs.NoWideStruct

end

/-- The alignment of a signature is that of its type. -/
theorem signatureAlignment_code (t : ClrType) :
    signatureAlignment t.code = .ok t.alignment := by
  cases t with
  | primitive p =>
      rw [ClrType.code_primitive]
      show getAlignment (DType.ofByte p.toDType.code) = _
      cases p <;> rfl
  | _ => rfl

/-- Numbers are always within the limits. -/
theorem Values.withinLimits_primitive (o : ByteOrder) {p : Primitive} :
    (vs : Values (.primitive p)) → (pos : Nat) → vs.WithinLimits o pos
  | .nil, _ => trivial
  | .cons (.primitive _) vs, _ => ⟨trivial, vs.withinLimits_primitive o _⟩

theorem Fields.withinLimits_primitive (o : ByteOrder) {size : Nat} : {ts : List ClrType} →
    (fs : Fields ts) → (pos : Nat) → ClrType.AllOfSize size ts → fs.WithinLimits o pos
  | _, .nil, _, _ => trivial
  | _, .cons (t := t) v fs, _, hall => by
      obtain ⟨p, rfl, -⟩ := hall t (by simp)
      obtain ⟨bits⟩ := v
      exact ⟨trivial, fs.withinLimits_primitive o _ fun u hu => hall u (List.mem_cons_of_mem _ hu)⟩

/-- The element type's signature and alignment, in front of a write. -/
theorem emits_withAlignment {t : ClrType} {f : Nat → Writer} {ok : Nat → Prop}
    {bytes : Nat → Bytes} (h : Emits (f t.alignment) ok bytes) :
    Emits (do
        let sigElem ← (liftM (getSig t) : Stateful CSharpException MemoryStream Bytes)
        let alignment ← (liftM (signatureAlignment sigElem) :
          Stateful CSharpException MemoryStream Nat)
        f alignment)
      (fun pos => t.isSignable = true ∧ ok pos) bytes := by
  have hlift : ∀ sig, getSig t = .ok sig → Emits (do
      let alignment ← (liftM (signatureAlignment sig) : Stateful CSharpException MemoryStream Nat)
      f alignment) ok bytes := by
    intro sig hsig
    rw [(getSig_eq_ok.mp hsig).2]
    have halign : ∀ a, signatureAlignment t.code = .ok a → Emits (f a) ok bytes := by
      intro a ha
      rw [signatureAlignment_code, Except.ok.injEq] at ha
      exact ha ▸ h
    refine (emits_lift halign).congr ?_ fun _ => rfl
    intro pos
    exact ⟨fun h => h.2, fun h => ⟨⟨_, signatureAlignment_code t⟩, h⟩⟩
  refine (emits_lift hlift).congr ?_ fun _ => rfl
  intro pos
  constructor
  · intro h
    obtain ⟨⟨sig, hsig⟩, hok⟩ := h
    exact ⟨(getSig_eq_ok.mp hsig).1, hok⟩
  · intro h
    exact ⟨⟨_, getSig_of_signable t h.1⟩, h.2⟩

/-- An array, copied or written element by element. -/
theorem emits_writeArray (e : Endian) {t : ClrType} (vs : Values t)
    (h : Emits (vs.write e) (vs.WithinLimits e.order) (vs.encode e.order)) :
    Emits (writeArray e t (vs.memory e.native) (vs.write e))
      ((Value.array vs).WithinLimits e.order) ((Value.array vs).encode e.order) := by
  have hmeasured : Emits (do
      let sigElem ← (liftM (getSig t) : Stateful CSharpException MemoryStream Bytes)
      let alignment ← (liftM (signatureAlignment sigElem) :
        Stateful CSharpException MemoryStream Nat)
      writeMeasured e (text "Array") alignment (vs.write e))
      ((Value.array vs).WithinLimits e.order) ((Value.array vs).encode e.order) :=
    emits_withAlignment (f := fun a => writeMeasured e (text "Array") a (vs.write e))
      (emits_writeMeasured e (text "Array") t.alignment h)
  by_cases hprim : ∃ p, t = .primitive p
  · obtain ⟨p, rfl⟩ := hprim
    have hok : ∀ pos, ((Value.array vs).WithinLimits e.order pos
        ↔ (vs.encode e.order (contentStart pos p.size)).length ≤ maxArrayLength) := fun pos =>
      ⟨fun h => h.2.2, fun h => ⟨rfl, vs.withinLimits_primitive e.order _, h⟩⟩
    have haligned : ∀ pos, contentStart pos p.size % p.size = 0 := fun pos =>
      padded_mod _ p.size_pos
    by_cases hbyte : p = .byte
    · subst hbyte
      -- bytes are copied, and have no padding in front of them
      have hmemory : ∀ pos, vs.encode e.order (contentStart pos 1) = vs.memory e.native := by
        intro pos
        show vs.encode e.order (contentStart pos Primitive.byte.size) = _
        rw [← vs.memory_eq_encode e.order (haligned pos), vs.memory_bytes]
      have hwrite := emits_unless (c := maxArrayLength < (vs.memory e.native).length)
        (e := lengthException (text "Array") (vs.memory e.native).length)
        (emits_bind (emits_marshal e 4 (vs.memory e.native).length)
          (emits_write (vs.memory e.native)))
      refine hwrite.congr ?_ ?_
      · intro pos
        rw [hok pos, show Primitive.byte.size = 1 from rfl, hmemory]
        exact ⟨fun h => by omega, fun h => ⟨by omega, trivial, trivial⟩⟩
      · intro pos
        show _ = encodeArray e.order 1 _ pos
        rw [encodeArray, hmemory, pad_one, List.append_nil]
    · have hcase : writeArray e (.primitive p) (vs.memory e.native) (vs.write e) = (do
          let sigElem ← (liftM (getSig (.primitive p)) :
            Stateful CSharpException MemoryStream Bytes)
          let alignment ← (liftM (signatureAlignment sigElem) :
            Stateful CSharpException MemoryStream Nat)
          if e.isNative then writeCopied e alignment (vs.memory e.native)
          else writeMeasured e (text "Array") alignment (vs.write e)) := by
        cases p <;> first | rfl | exact absurd rfl hbyte
      rw [hcase]
      by_cases hnative : e.isNative = true
      · simp only [hnative, if_true]
        have hmemory : ∀ pos,
            vs.encode e.order (contentStart pos p.size) = vs.memory e.native := by
          intro pos
          rw [← vs.memory_eq_encode e.order (haligned pos), Endian.order_of_isNative hnative]
        refine (emits_withAlignment (t := .primitive p)
          (f := fun a => writeCopied e a (vs.memory e.native))
          (emits_copied e p.size (vs.memory e.native) hmemory)).congr ?_ fun _ => rfl
        intro pos
        rw [hok pos]
        exact ⟨fun h => h.2, fun h => ⟨rfl, h⟩⟩
      · simp only [hnative]
        exact hmeasured
  · have hcase : t.asPrimitive = none := by
      cases t with
      | primitive p => exact absurd ⟨p, rfl⟩ hprim
      | _ => rfl
    rw [writeArray, hcase]
    exact hmeasured

/-- A structure, copied or written field by field. -/
theorem emits_writeStructure (e : Endian) {ts : List ClrType} (fs : Fields ts)
    (hwide : e.isNative = true ∨ ClrType.isWideStruct ts = false)
    (h : Emits (fs.write e) (fs.WithinLimits e.order) (fs.encode e.order)) :
    Emits (writeStructure ts (fs.memory e.native) (fs.write e))
      ((Value.struct fs).WithinLimits e.order) ((Value.struct fs).encode e.order) := by
  cases fs with
  | nil => exact emits_nothing
  | cons v fs =>
      rename_i t ts
      generalize hfields : Fields.cons v fs = fields at h ⊢
      rw [writeStructure, if_neg (by simp)]
      by_cases heligible : ClrType.isEligibleStruct (t :: ts) = true
      · rw [if_pos heligible]
        obtain ⟨p, hall, hbyte⟩ := ClrType.allOfSize_of_eligible heligible
        have haligned : ∀ pos, padded pos 8 % p.size = 0 := by
          intro pos
          have hdvd : p.size ∣ 8 := by cases p <;> decide
          exact Nat.mod_eq_zero_of_dvd (hdvd.trans (Nat.dvd_of_mod_eq_zero
            (padded_mod pos (by decide))))
        have hmemory : ∀ pos, fields.encode e.order (padded pos 8) = fields.memory e.native := by
          intro pos
          rw [← fields.memory_eq_encode e.order hall (haligned pos)]
          rcases hwide with hnative | hwide
          · rw [Endian.order_of_isNative hnative]
          · rw [hbyte hwide] at hall
            exact fields.memory_bytes _ _ hall
        refine (emits_bind (emits_writePad 8) (emits_write (fields.memory e.native))).congr ?_ ?_
        · intro pos
          exact ⟨fun _ => fields.withinLimits_primitive e.order _ hall,
            fun _ => ⟨trivial, trivial⟩⟩
        · intro pos
          show _ = pad pos 8 ++ fields.encode e.order (padded pos 8)
          rw [hmemory]
      · rw [if_neg heligible]
        refine (emits_bind (emits_writePad 8) h).congr ?_ ?_
        · intro pos
          rw [← padded_eq_add_length]
          exact ⟨fun h => h.2, fun h => ⟨trivial, h⟩⟩
        · intro pos
          rw [← padded_eq_add_length]
          rfl

mutual

/-- **The writer writes the format.** -/
theorem Value.emits (e : Endian) : {t : ClrType} → (v : Value t) →
    e.isNative = true ∨ v.NoWideStruct →
    Emits (v.write e) (v.WithinLimits e.order) (v.encode e.order)
  | .primitive p, .primitive bits, _ => emits_writePrimitive e p bits.toNat
  | _, .boolean b, _ => emits_marshal e 4 b.toNat
  | _, .string s, _ => emits_writeString e s
  | _, .objectPath path, _ => emits_writeString e path.value
  | _, .signature sig, _ => emits_writeOptionSignature sig
  | _, .object (t := t) v _, h => by
      rw [Value.write]
      have hsend : ∀ sig, getSig t = .ok sig → Emits (do writeSignature (some sig); v.write e)
          (fun pos => t.code.length ≤ maxSignatureLength
            ∧ v.WithinLimits e.order (pos + (encodeSignature t.code).length))
          (fun pos => encodeSignature t.code
            ++ v.encode e.order (pos + (encodeSignature t.code).length)) := by
        intro sig hsig
        rw [(getSig_eq_ok.mp hsig).2]
        exact emits_bind (emits_writeSignature t.code) (v.emits e h)
      refine (emits_lift hsend).congr ?_ fun _ => rfl
      intro pos
      constructor
      · intro h
        obtain ⟨⟨sig, hsig⟩, hok⟩ := h
        exact ⟨(getSig_eq_ok.mp hsig).1, hok⟩
      · intro h
        exact ⟨⟨_, getSig_of_signable t h.1⟩, h.2⟩
  | .array t, .array vs, h => by
      rw [Value.write]
      exact emits_writeArray e vs (vs.emits e h)
  | _, .dictionary es, h => by
      exact emits_writeMeasured e (text "Dict") 8 (es.emits e h)
  | .struct ts, .struct fs, h => by
      rw [Value.write]
      exact emits_writeStructure e fs (h.imp_right fun h => h.1)
        (fs.emits e (h.imp_right fun h => h.2))

theorem Values.emits (e : Endian) : {t : ClrType} → (vs : Values t) →
    e.isNative = true ∨ vs.NoWideStruct →
    Emits (vs.write e) (vs.WithinLimits e.order) (vs.encode e.order)
  | _, .nil, _ => emits_nothing
  | _, .cons v vs, h =>
      emits_bind (v.emits e (h.imp_right fun h => h.1)) (vs.emits e (h.imp_right fun h => h.2))

theorem Entries.emits (e : Endian) : {k v : ClrType} → (es : Entries k v) →
    e.isNative = true ∨ es.NoWideStruct →
    Emits (es.write e) (es.WithinLimits e.order) (es.encode e.order)
  | _, _, .nil, _ => emits_nothing
  | _, _, .cons key value es, h => by
      rw [Entries.write]
      have hentry := emits_bind (emits_writePad 8) (emits_bind
        (key.emits e (h.imp_right fun h => h.1)) (emits_bind
          (value.emits e (h.imp_right fun h => h.2.1)) (es.emits e (h.imp_right fun h => h.2.2))))
      refine hentry.congr ?_ ?_
      · intro pos
        rw [← padded_eq_add_length]
        exact ⟨fun h => h.2, fun h => ⟨trivial, h⟩⟩
      · intro pos
        rw [← padded_eq_add_length, Entries.encode]
        simp only [List.append_assoc, List.length_append, padded_eq_add_length pos 8,
          Nat.add_assoc]

theorem Fields.emits (e : Endian) : {ts : List ClrType} → (fs : Fields ts) →
    e.isNative = true ∨ fs.NoWideStruct →
    Emits (fs.write e) (fs.WithinLimits e.order) (fs.encode e.order)
  | _, .nil, _ => emits_nothing
  | _, .cons v fs, h =>
      emits_bind (v.emits e (h.imp_right fun h => h.1)) (fs.emits e (h.imp_right fun h => h.2))

end

/-- **When a value can be written**: if it is within the limits and there is
    room, and then it is its encoding that is written. -/
theorem write_succeeds_iff {e : Endian} {t : ClrType} {v : Value t} {s : MemoryStream}
    (hs : s.AtEnd) (h : e.isNative = true ∨ v.NoWideStruct) :
    ((∃ s', Runs (v.write e) s () s') ↔ v.WithinLimits e.order s.position
        ∧ s.position + (v.encode e.order s.position).length ≤ maxStreamLength)
      ∧ ∀ s', Runs (v.write e) s () s' → s' = s.append (v.encode e.order s.position) := by
  constructor
  · constructor
    · intro hrun
      obtain ⟨s', hrun⟩ := hrun
      obtain ⟨hok, hroom, -⟩ := (v.emits e h s s' hs).mp hrun
      exact ⟨hok, hroom⟩
    · intro hlimits
      exact ⟨_, (v.emits e h s _ hs).mpr ⟨hlimits.1, hlimits.2, rfl⟩⟩
  · intro s' hrun
    exact ((v.emits e h s s' hs).mp hrun).2.2

/-- A signature of 256 bytes is too long. -/
theorem write_succeeds_signature :
    ¬ ∃ s', Runs ((Value.signature (some (List.replicate 256 121))).write (Endian.own .bigEndian))
      ⟨[], 0⟩ () s' := by
  intro hrun
  have hlimits := ((write_succeeds_iff (e := Endian.own .bigEndian)
    (v := Value.signature (some (List.replicate 256 121))) ⟨rfl, by decide⟩
    (Or.inl rfl)).1.mp hrun).1
  obtain ⟨data, hdata, hlength⟩ :
    ∃ data ∈ some (List.replicate 256 121), data.length ≤ maxSignatureLength := hlimits
  cases hdata
  rw [List.length_replicate] at hlength
  exact absurd hlength (by decide)

end SapDbLib
