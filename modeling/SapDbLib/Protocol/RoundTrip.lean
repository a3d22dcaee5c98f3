/-
  SapDbLib.Protocol.RoundTrip — WHAT IS WRITTEN IS READ BACK.

  The reader against the wire format: at the bytes of a value it gets the
  value and stops behind them.  With the writer's side of it
  (`Value.emits`) this is the round trip, between any two machines.

    * `Value.reads` — **a readable value is read from its encoding**, at any
      position of any data;
    * `write_read` — **what one machine writes another reads**;
    * `directCopy_position`, `struct_overshoots` — where the reader stands
      behind a structure that it copies: too far, unless it is made of single
      bytes;
    * `structs_lost`, `booleans_lost` — arrays that come back with too few
      elements, or too many.

  `Readable` names what the reader does not get right: such structures,
  arrays of truth values, arrays of dictionaries, and arrays of larger numbers
  in the order of another machine.
-/
import SapDbLib.Protocol.MessageReader

namespace SapDbLib

open Library ProtocolInformation MessageReader

/-! ## §1. The parts of the format. -/

section Parts

variable {e : Endian} {data : Bytes} {pos : Nat}

theorem readByte_at {b : UInt8} {rest : Bytes} (h : HasAt data pos (b :: rest)) :
    Runs (readByte data) pos b (pos + 1) := by
  rw [readByte, runs_get_bind, h.getElem?]
  exact runs_set_bind.mpr (runs_pure.mpr ⟨rfl, rfl⟩)

theorem readZeros_at {n : Nat} (h : HasAt data pos (List.replicate n 0)) :
    Runs (readZeros data n) pos () (pos + n) := by
  induction n generalizing pos with
  | zero => exact runs_pure.mpr ⟨rfl, rfl⟩
  | succ n ih =>
      rw [List.replicate_succ] at h
      obtain ⟨hb, hrest⟩ := hasAt_cons.mp h
      rw [readZeros, runs_get_bind, hb]
      show Runs (if (0 : UInt8) ≠ 0 then _ else _) _ _ _
      rw [if_neg (by decide), runs_set_bind, Nat.add_comm n, ← Nat.add_assoc]
      exact ih hrest

theorem readPad_at {alignment : Nat} (h : HasAt data pos (pad pos alignment)) :
    Runs (readPad data alignment) pos () (padded pos alignment) := by
  have hcount : padded pos alignment - pos = padNeeded pos alignment := by
    rw [padded_eq]
    omega
  rw [readPad, runs_get_bind, hcount, padded_eq]
  exact readZeros_at h

theorem readNull_at {rest : Bytes} (h : HasAt data pos (0 :: rest)) :
    Runs (readNull data) pos () (pos + 1) := by
  rw [readNull, runs_get_bind, h.getElem?]
  show Runs (if (0 : UInt8) ≠ 0 then _ else _) _ _ _
  rw [if_neg (by decide)]
  exact runs_set.mpr rfl

theorem slice_at {piece : Bytes} (h : HasAt data pos piece) :
    slice data pos piece.length = piece := h.take

/-- The bytes of a number, read as they lie in memory or reversed. -/
theorem numberOf_eq (e : Endian) (bytes : Bytes) : numberOf e bytes = e.order.value bytes := by
  unfold numberOf
  by_cases h : e.isNative = true
  · rw [if_pos h, Endian.order_of_isNative h]
  · have horder : e.order = e.native.swap := by
      rw [Endian.order, wireOrder, if_neg (by simpa [Endian.isNative] using h)]
    rw [if_neg h, horder, ByteOrder.value_swap]

theorem unmarshal_at {size v : Nat} (h : HasAt data pos (encodeNumber e.order size v pos))
    (hv : v < 256 ^ size) (hsize : 0 < size) :
    Runs (unmarshal e data size) pos v (pos + (encodeNumber e.order size v pos).length) := by
  obtain ⟨hpad, hnum⟩ := hasAt_append.mp h
  rw [← padded_eq_add_length] at hnum
  have hne : e.order.bytes size v ≠ [] := by
    apply List.ne_nil_of_length_pos
    rw [ByteOrder.length_bytes]
    exact hsize
  have hroom := hnum.length_le hne
  rw [ByteOrder.length_bytes] at hroom
  have hend : padded pos size + size = pos + (encodeNumber e.order size v pos).length := by
    rw [length_encodeNumber, padded_eq]
    omega
  have hslice : slice data (padded pos size) size = e.order.bytes size v := by
    have hat := slice_at hnum
    rwa [ByteOrder.length_bytes] at hat
  refine (readPad_at hpad).bind ?_
  rw [runs_get_bind, if_neg (by omega), runs_set_bind, hslice, numberOf_eq,
      ByteOrder.value_bytes _ hv, ← hend]
  exact runs_pure.mpr ⟨rfl, rfl⟩

theorem readPrimitive_at {p : Primitive} {bits : BitVec (8 * p.size)}
    (h : HasAt data pos (encodeNumber e.order p.size bits.toNat pos)) :
    Runs (readPrimitive e data p) pos bits
      (pos + (encodeNumber e.order p.size bits.toNat pos).length) := by
  have hlt : bits.toNat < 256 ^ p.size := by
    have hbits := bits.isLt
    rwa [Nat.pow_mul] at hbits
  have hnumber := unmarshal_at h hlt p.size_pos
  cases p with
  | byte =>
      have hone : encodeNumber e.order 1 bits.toNat pos = [UInt8.ofNat bits.toNat] := by
        rw [encodeNumber, pad_one, ByteOrder.bytes_one, List.nil_append]
      have hat : HasAt data pos (encodeNumber e.order 1 bits.toNat pos) := h
      rw [hone] at hat
      have hval : BitVec.ofNat (8 * Primitive.byte.size) (UInt8.ofNat bits.toNat).toNat = bits := by
        apply BitVec.eq_of_toNat_eq
        rw [BitVec.toNat_ofNat, UInt8.toNat_ofNat']
        have hbits : bits.toNat < 2 ^ 8 := bits.isLt
        show bits.toNat % 2 ^ 8 % 2 ^ 8 = _
        omega
      refine (readByte_at hat).bind (runs_pure.mpr ⟨hval, ?_⟩)
      show pos + 1 = pos + (encodeNumber e.order 1 bits.toNat pos).length
      rw [hone]
      rfl
  | _ => exact hnumber.bind (runs_pure.mpr ⟨BitVec.ofNat_toNat _ _, rfl⟩)

theorem readBoolean_at {b : Bool} (h : HasAt data pos (encodeNumber e.order 4 b.toNat pos)) :
    Runs (readBoolean e data) pos b (pos + (encodeNumber e.order 4 b.toNat pos).length) := by
  have hlt : b.toNat < 256 ^ 4 := by cases b <;> decide
  refine (unmarshal_at h hlt (by decide)).bind ?_
  cases b
  · show Runs (if (0 : Nat) = 0 then _ else _) _ _ _
    exact runs_pure.mpr ⟨rfl, rfl⟩
  · show Runs (if (1 : Nat) = 0 then _ else if (1 : Nat) = 1 then _ else _) _ _ _
    exact runs_pure.mpr ⟨rfl, rfl⟩

/-- A well-formed text in data that fit into one array. -/
theorem readString_at {s : Text} (hdata : data.length ≤ maxStreamLength) (hs : WellFormed s)
    (h : HasAt data pos (encodeText e.order s pos)) :
    Runs (readString e data) pos s (pos + (encodeText e.order s pos).length) := by
  obtain ⟨hhead, hnull⟩ := hasAt_append.mp h
  obtain ⟨hlen, hbytes⟩ := hasAt_append.mp hhead
  rw [List.length_append, ← Nat.add_assoc] at hnull
  -- the zero byte lies inside the data, and the text in front of it
  have hroom := hnull.length_le (List.cons_ne_nil _ _)
  rw [List.length_singleton] at hroom
  have hmax : maxStreamLength = 2147483647 := rfl
  have hlt : (utf8Encode s).length < 256 ^ 4 := by
    have hpow : (256 : Nat) ^ 4 = 4294967296 := rfl
    omega
  refine (unmarshal_at hlen hlt (by decide)).bind ?_
  rw [runs_get_bind, if_neg (by omega), runs_set_bind]
  refine (readNull_at hnull).bind ?_
  rw [slice_at hbytes, utf8Decode_of_wellFormed hs]
  refine runs_pure.mpr ⟨rfl, ?_⟩
  rw [encodeText, List.length_append, List.length_append, List.length_singleton]
  omega

theorem readObjectPath_at {path : ObjectPath} (hdata : data.length ≤ maxStreamLength)
    (h : HasAt data pos (encodeText e.order path.value pos)) :
    Runs (readObjectPath e data) pos path (pos + (encodeText e.order path.value pos).length) := by
  refine (readString_at hdata (wellFormed_ascii path.isAscii) h).bind ?_
  rw [path.new_value]
  exact runs_pure.mpr ⟨rfl, rfl⟩

theorem readSignature_at {sig : Bytes} (hlen : sig.length ≤ maxSignatureLength)
    (h : HasAt data pos (encodeSignature sig)) :
    Runs (readSignature data) pos sig (pos + (encodeSignature sig).length) := by
  have hmax : maxSignatureLength = 255 := rfl
  have hcount : (UInt8.ofNat sig.length).toNat = sig.length := by
    rw [UInt8.toNat_ofNat']
    omega
  have hend : pos + (encodeSignature sig).length = pos + 1 + sig.length + 1 := by
    rw [encodeSignature, List.length_cons, List.length_append, List.length_singleton]
    omega
  obtain ⟨-, hrest⟩ := hasAt_cons.mp h
  obtain ⟨hsig, hnull⟩ := hasAt_append.mp hrest
  rw [hend]
  refine (readByte_at h).bind ?_
  by_cases hone : sig.length = 1
  · obtain ⟨b, rfl⟩ := List.length_eq_one_iff.mp hone
    rw [if_pos (by rfl)]
    exact (readByte_at hsig).bind ((readNull_at hnull).bind (runs_pure.mpr ⟨rfl, rfl⟩))
  · have hne : ¬ UInt8.ofNat sig.length = 1 := by
      intro hn
      have hn' := congrArg UInt8.toNat hn
      rw [hcount] at hn'
      exact hone hn'
    have hroom := hnull.length_le (List.cons_ne_nil _ _)
    rw [List.length_singleton] at hroom
    rw [if_neg hne, runs_get_bind, hcount, if_neg (by omega), runs_set_bind]
    refine (readNull_at hnull).bind (runs_pure.mpr ⟨slice_at hsig, rfl⟩)

end Parts

/-! ## §2. Readable values. -/

/-- The reader gets an array of that type and length right. -/
def ClrType.ArrayReadable (e : Endian) (length : Nat) : ClrType → Prop
  | .primitive p => e.isNative = true ∨ p.size = 1 ∨ length = 0
  -- the length in bytes is taken for the number of elements
  | .boolean => length = 0
  -- the writer aligns them like arrays, the reader like structures
  | .dictionary _ _ => False
  | _ => True

/-- The keys of a dictionary. -/
def Entries.keys {k v : ClrType} : Entries k v → List (Value k)
  | .nil => []
  | .cons key _ es => key :: es.keys

section Readable

variable (sameKey : {k : ClrType} → Value k → Value k → Bool) (e : Endian)

mutual

/-- A value that the reader gets back: its texts are well formed, its types
    can be read off their signatures, no key comes twice, and it has no part
    that the reader takes for something else. -/
def Value.Readable : {t : ClrType} → Value t → Prop
  | _, .primitive _ | _, .boolean _ | _, .objectPath _ | _, .signature _ => True
  | _, .string s => WellFormed s
  | _, .object (t := t) v _ => t.isDynamic = true ∧ v.Readable
  | .array t, .array vs => t.ArrayReadable e vs.length ∧ vs.Readable
  | .dictionary k _, .dictionary es =>
      k.isSignable = true ∧ es.Readable
        ∧ es.keys.Pairwise fun earlier later => sameKey later earlier = false
  | .struct ts, .struct fs => ts ≠ [] ∧ ClrType.isWideStruct ts = false ∧ fs.Readable

def Values.Readable : {t : ClrType} → Values t → Prop
  | _, .nil => True
  | _, .cons v vs => v.Readable ∧ vs.Readable

def Entries.Readable : {k v : ClrType} → Entries k v → Prop
  | _, _, .nil => True
  | _, _, .cons key value es => key.Readable ∧ value.Readable ∧ es.Readable

def Fields.Readable : {ts : List ClrType} → Fields ts → Prop
  | _, .nil => True
  | _, .cons v fs => v.Readable ∧ fs.Readable

end

mutual

/-- A readable value has no structure that the writer gets wrong. -/
theorem Value.noWideStruct_of_readable : {t : ClrType} → (v : Value t) →
    v.Readable sameKey e → v.NoWideStruct
  | _, .primitive _, _ | _, .boolean _, _ | _, .string _, _ | _, .objectPath _, _
  | _, .signature _, _ => trivial
  | _, .object v _, h => v.noWideStruct_of_readable h.2
  | .array _, .array vs, h => vs.noWideStruct_of_readable h.2
  | _, .dictionary es, h => es.noWideStruct_of_readable h.2.1
  | .struct _, .struct fs, h => ⟨h.2.1, fs.noWideStruct_of_readable h.2.2⟩

theorem Values.noWideStruct_of_readable : {t : ClrType} → (vs : Values t) →
    vs.Readable sameKey e → vs.NoWideStruct
  | _, .nil, _ => trivial
  | _, .cons v vs, h => ⟨v.noWideStruct_of_readable h.1, vs.noWideStruct_of_readable h.2⟩

theorem Entries.noWideStruct_of_readable : {k v : ClrType} → (es : Entries k v) →
    es.Readable sameKey e → es.NoWideStruct
  | _, _, .nil, _ => trivial
  | _, _, .cons key value es, h =>
      ⟨key.noWideStruct_of_readable h.1, value.noWideStruct_of_readable h.2.1,
        es.noWideStruct_of_readable h.2.2⟩

theorem Fields.noWideStruct_of_readable : {ts : List ClrType} → (fs : Fields ts) →
    fs.Readable sameKey e → fs.NoWideStruct
  | _, .nil, _ => trivial
  | _, .cons v fs, h => ⟨v.noWideStruct_of_readable h.1, fs.noWideStruct_of_readable h.2⟩

end

end Readable

mutual

/-- How deep the reader nests to read a value. -/
def Value.depth : {t : ClrType} → Value t → Nat
  | _, .object v _ => v.depth + 2
  | _, .array vs => vs.depth + 1
  | _, .dictionary es => es.depth + 1
  | _, .struct fs => fs.depth + 1
  | _, .primitive _ | _, .boolean _ | _, .string _ | _, .objectPath _ | _, .signature _ => 1

def Values.depth : {t : ClrType} → Values t → Nat
  | _, .nil => 1
  | _, .cons v vs => max v.depth vs.depth + 1

def Entries.depth : {k v : ClrType} → Entries k v → Nat
  | _, _, .nil => 1
  | _, _, .cons key value es => max (max key.depth value.depth) es.depth + 1

def Fields.depth : {ts : List ClrType} → Fields ts → Nat
  | _, .nil => 1
  | _, .cons v fs => max v.depth fs.depth + 1

end

/-- A structure with fields is padded. -/
theorem Value.encode_struct {ts : List ClrType} (o : ByteOrder) (fs : Fields ts) (pos : Nat)
    (hne : ts ≠ []) :
    (Value.struct fs).encode o pos = pad pos 8 ++ fs.encode o (padded pos 8) := by
  cases fs with
  | nil => exact absurd rfl hne
  | cons v fs => rfl

mutual

/-- **No value is empty on the wire**, but for empty structures. -/
theorem Value.encode_ne_nil (o : ByteOrder) : {t : ClrType} → (v : Value t) → (pos : Nat) →
    t.isSignable = true → v.encode o pos ≠ []
  | .primitive p, .primitive bits, pos, _ => by
      apply List.ne_nil_of_length_pos
      rw [Value.encode, length_encodeNumber]
      exact Nat.lt_of_lt_of_le p.size_pos (Nat.le_add_left _ _)
  | _, .boolean b, pos, _ => by
      apply List.ne_nil_of_length_pos
      rw [Value.encode, length_encodeNumber]
      omega
  | _, .string s, pos, _ => by simp [Value.encode, encodeText]
  | _, .objectPath path, pos, _ => by simp [Value.encode, encodeText]
  | _, .signature sig, _, _ => by simp [Value.encode, encodeSignature]
  | _, .object v _, _, _ => by simp [Value.encode, encodeSignature]
  | .array t, .array vs, pos, _ => by
      apply List.ne_nil_of_length_pos
      rw [Value.encode, encodeArray, List.length_append, List.length_append, length_encodeNumber]
      omega
  | _, .dictionary es, pos, _ => by
      apply List.ne_nil_of_length_pos
      rw [Value.encode, encodeArray, List.length_append, List.length_append, length_encodeNumber]
      omega
  | .struct ts, .struct fs, pos, h => by
      rw [ClrType.isSignable, ClrType.fieldsOk, Bool.and_eq_true, bne_iff_ne] at h
      have hne : ts ≠ [] := fun hnil => h.1 (by rw [hnil, List.length_nil])
      rw [Value.encode_struct o fs pos hne]
      exact List.append_ne_nil_of_right_ne_nil _ (fs.encode_ne_nil o (padded pos 8) hne h.2)

theorem Fields.encode_ne_nil (o : ByteOrder) : {ts : List ClrType} → (fs : Fields ts) →
    (pos : Nat) → ts ≠ [] → ClrType.allFieldsOk (fun n => n != 0) ts = true →
    fs.encode o pos ≠ []
  | _, .nil, _, hne, _ => absurd rfl hne
  | _, .cons v fs, pos, _, h => by
      rw [ClrType.allFieldsOk, Bool.and_eq_true] at h
      rw [Fields.encode]
      exact List.append_ne_nil_of_left_ne_nil (v.encode_ne_nil o pos h.1) _

end

/-! ## §3. Copies of memory, read. -/

theorem ofNat_value_bytes (o : ByteOrder) {p : Primitive} (bits : BitVec (8 * p.size)) :
    BitVec.ofNat (8 * p.size) (o.value (o.bytes p.size bits.toNat)) = bits := by
  have hlt : bits.toNat < 256 ^ p.size := by
    have hbits := bits.isLt
    rwa [Nat.pow_mul] at hbits
  rw [ByteOrder.value_bytes o hlt, BitVec.ofNat_toNat, BitVec.setWidth_eq]

/-- The numbers of a memory image. -/
theorem valuesOf_memory (e : Endian) {p : Primitive} : (vs : Values (.primitive p)) →
    valuesOf e p vs.length (vs.memory e.order) = vs
  | .nil => rfl
  | .cons (.primitive bits) vs => by
      have hlen := ByteOrder.length_bytes e.order p.size bits.toNat
      rw [Values.length, Values.memory, Value.memory, valuesOf, List.take_left' hlen,
          List.drop_left' hlen, numberOf_eq, ofNat_value_bytes, valuesOf_memory e vs]

theorem Values.length_memory (o : ByteOrder) {p : Primitive} : (vs : Values (.primitive p)) →
    (vs.memory o).length = vs.length * p.size
  | .nil => (Nat.zero_mul _).symm
  | .cons (.primitive bits) vs => by
      rw [Values.memory, Value.memory, List.length_append, ByteOrder.length_bytes,
          Values.length_memory o vs, Values.length, Nat.succ_mul, Nat.add_comm]

/-- The fields of a memory image. -/
theorem fieldsOf_memory (e : Endian) {size : Nat} : {ts : List ClrType} → (fs : Fields ts) →
    ClrType.AllOfSize size ts → fieldsOf e ts (fs.memory e.order) = some fs
  | _, .nil, _ => rfl
  | _, .cons (t := t) v fs, hall => by
      obtain ⟨p, rfl, -⟩ := hall t (by simp)
      obtain ⟨bits⟩ := v
      have hlen := ByteOrder.length_bytes e.order p.size bits.toNat
      have hrest := fieldsOf_memory e fs fun u hu => hall u (List.mem_cons_of_mem _ hu)
      rw [Fields.memory, Value.memory, fieldsOf, List.take_left' hlen, List.drop_left' hlen,
          hrest, numberOf_eq, ofNat_value_bytes]
      rfl

theorem Fields.length_memory (o : ByteOrder) {size : Nat} : {ts : List ClrType} →
    (fs : Fields ts) → ClrType.AllOfSize size ts → (fs.memory o).length = ts.length * size
  | _, .nil, _ => (Nat.zero_mul _).symm
  | t :: ts, .cons v fs, hall => by
      obtain ⟨p, rfl, hp⟩ := hall t (by simp)
      obtain ⟨bits⟩ := v
      rw [Fields.memory, Value.memory, List.length_append, ByteOrder.length_bytes, hp,
          Fields.length_memory o fs fun u hu => hall u (List.mem_cons_of_mem _ hu),
          List.length_cons, Nat.succ_mul, Nat.add_comm]

section Copies

variable {e : Endian} {data : Bytes} {pos : Nat}

/-- **Where the reader stands behind a copy**: it counts each byte as a whole
    element. -/
theorem directCopy_position {sof length : Nat} {bytes : Bytes} {pos' : Nat}
    (h : Runs (directCopy e data sof length) pos bytes pos') :
    pos' = pos + length * sof ∧ bytes = slice data pos length := by
  rw [directCopy, runs_get_bind, runs_ite] at h
  by_cases hroom : data.length < pos + length
  · rw [if_pos hroom] at h
    exact absurd h runs_throw
  · rw [if_neg hroom, runs_set_bind, runs_pure] at h
    exact ⟨h.2.symm, h.1.symm⟩

theorem directCopy_at {sof : Nat} {piece : Bytes} (hroom : pos + piece.length ≤ data.length)
    (h : HasAt data pos piece) :
    Runs (directCopy e data sof piece.length) pos piece (pos + piece.length * sof) := by
  rw [directCopy, runs_get_bind, if_neg (by omega), runs_set_bind, slice_at h]
  exact runs_pure.mpr ⟨rfl, rfl⟩

/-- An array of numbers, if it is copied as a block, is made of single bytes,
    or is empty. -/
theorem marshalArray_at {p : Primitive} {vs : Values (.primitive p)}
    (hkind : ClrType.ArrayReadable e vs.length (.primitive p))
    (hroom : pos + (vs.memory e.order).length ≤ data.length)
    (h : HasAt data pos (vs.memory e.order)) :
    Runs (marshalArray e data p (vs.memory e.order).length) pos vs
      (pos + (vs.memory e.order).length) := by
  have hlen := Values.length_memory e.order vs
  have hmod : (vs.memory e.order).length % p.size = 0 := by rw [hlen, Nat.mul_mod_left]
  have hdiv : (vs.memory e.order).length / p.size = vs.length := by
    rw [hlen, Nat.mul_div_cancel _ p.size_pos]
  have hstep : e.isNative = false →
      (vs.memory e.order).length * p.size = (vs.memory e.order).length := by
    intro hforeign
    rcases hkind with hnative | hone | hnone
    · rw [hnative] at hforeign
      cases hforeign
    · rw [hone, Nat.mul_one]
    · rw [hlen, hnone, Nat.zero_mul, Nat.zero_mul]
  rw [marshalArray, runs_get_bind]
  by_cases hnative : e.isNative = true
  · rw [if_pos hnative, if_neg (by omega), runs_set_bind, hdiv, slice_at h, valuesOf_memory]
    exact runs_pure.mpr ⟨rfl, rfl⟩
  · rw [if_neg hnative, if_neg (by omega), hdiv]
    refine (directCopy_at hroom h).bind (runs_pure.mpr ⟨valuesOf_memory e vs, ?_⟩)
    rw [hstep (by simpa using hnative)]

/-- The length of a content and the padding behind it. -/
theorem readLength_at {kind : Text} {alignment ln : Nat} (hln : ln ≤ maxArrayLength)
    (h : HasAt data pos (encodeNumber e.order 4 ln pos ++ pad (padded pos 4 + 4) alignment)) :
    Runs (readLength e data kind alignment) pos ln (contentStart pos alignment) := by
  obtain ⟨hnum, hpad⟩ := hasAt_append.mp h
  have hpos : pos + (encodeNumber e.order 4 ln pos).length = padded pos 4 + 4 := by
    rw [length_encodeNumber, padded_eq]
    omega
  have hmax : maxArrayLength = 67108864 := rfl
  have hlt : ln < 256 ^ 4 := by
    have hpow : (256 : Nat) ^ 4 = 4294967296 := rfl
    omega
  rw [hpos] at hpad
  have hfirst := unmarshal_at hnum hlt (by decide)
  rw [hpos] at hfirst
  refine hfirst.bind ?_
  rw [if_neg (by omega)]
  exact (readPad_at hpad).bind (runs_pure.mpr ⟨rfl, rfl⟩)

theorem getAlignment_toDType {t : ClrType} {length : Nat} (h : t.ArrayReadable e length) :
    getAlignment t.toDType = .ok t.alignment := by
  cases t with
  | primitive p => exact Primitive.getAlignment_toDType p
  | dictionary k v => exact h.elim
  | _ => rfl

/-- The length of an array, whose alignment the reader finds by its own
    rule. -/
theorem readArrayLength_at {t : ClrType} {ln length : Nat} (ht : t.ArrayReadable e length)
    (hln : ln ≤ maxArrayLength)
    (h : HasAt data pos (encodeNumber e.order 4 ln pos ++ pad (padded pos 4 + 4) t.alignment)) :
    Runs (readArrayLength e data t) pos ln (contentStart pos t.alignment) := by
  have hlift : Runs (liftEx (getAlignment t.toDType)) pos t.alignment pos := by
    rw [getAlignment_toDType ht]
    exact runs_pure.mpr ⟨rfl, rfl⟩
  exact hlift.bind (readLength_at hln h)

theorem checkEnd_at {endPos : Nat} : Runs (checkEnd endPos) endPos () endPos := by
  rw [checkEnd, runs_get_bind, if_neg (by simp)]
  exact runs_pure.mpr ⟨rfl, rfl⟩

end Copies

/-! ## §4. A value is read from its encoding. -/

section Reads

variable {sameKey : {k : ClrType} → Value k → Value k → Bool} {e : Endian} {data : Bytes}

/-- A boxed value is read by the type of its signature. -/
theorem readBoxed_of_runs {n pos pos' : Nat} {t : ClrType} {v : Value t} (ht : t.isObject = false)
    (h : Runs (readValue sameKey e data n t) pos v pos') :
    Runs (readBoxed sameKey e data (n + 1) t) pos (.object v ht) pos' := by
  rw [readBoxed]
  refine h.bind ?_
  cases t with
  | object => cases ht
  | _ => exact runs_pure.mpr ⟨rfl, rfl⟩

/-- An array that is read element by element. -/
theorem readValue_array {n : Nat} {t : ClrType} (hp : t.asPrimitive = none) (hb : t ≠ .boolean) :
    readValue sameKey e data (n + 1) (.array t) = (do
      let ln ← readArrayLength e data t
      let endPos := (← get) + ln
      let vs ← readElements sameKey e data n t endPos
      checkEnd endPos
      return .array vs) := by
  cases t with
  | primitive p => cases hp
  | boolean => exact absurd rfl hb
  | _ => rfl

/-- **A readable array is read**, given its elements are. -/
theorem array_reads {t : ClrType} (vs : Values t) {pos n : Nat}
    (hat : HasAt data pos ((Value.array vs).encode e.order pos))
    (hok : (Value.array vs).WithinLimits e.order pos)
    (hread : t.ArrayReadable e vs.length)
    (h : Runs (readElements sameKey e data n t
        (contentStart pos t.alignment + (vs.encode e.order (contentStart pos t.alignment)).length))
      (contentStart pos t.alignment) vs
      (contentStart pos t.alignment + (vs.encode e.order (contentStart pos t.alignment)).length)) :
    Runs (readValue sameKey e data (n + 1) (.array t)) pos (.array vs)
      (pos + ((Value.array vs).encode e.order pos).length) := by
  rw [Value.encode, encodeArray] at hat ⊢
  obtain ⟨hhead, hcontent⟩ := hasAt_append.mp hat
  rw [List.length_append, ← Nat.add_assoc]
  rw [← contentStart_eq] at hcontent ⊢
  have hlen := readArrayLength_at hread hok.2.2 hhead
  -- the head is not empty, so the content begins inside the data
  have hstart : contentStart pos t.alignment ≤ data.length := by
    rw [contentStart_eq e.order pos t.alignment
      (vs.encode e.order (contentStart pos t.alignment)).length]
    apply hhead.length_le
    apply List.ne_nil_of_length_pos
    rw [List.length_append, length_encodeNumber]
    omega
  have hroom : contentStart pos t.alignment
      + (vs.encode e.order (contentStart pos t.alignment)).length ≤ data.length := by
    by_cases hnil : vs.encode e.order (contentStart pos t.alignment) = []
    · rw [hnil]
      exact hstart
    · exact hcontent.length_le hnil
  by_cases hprim : ∃ p, t = .primitive p
  · obtain ⟨p, rfl⟩ := hprim
    have hmemory : vs.encode e.order (contentStart pos (ClrType.primitive p).alignment)
        = vs.memory e.order := (vs.memory_eq_encode e.order (padded_mod _ p.size_pos)).symm
    rw [hmemory] at hlen hcontent hroom ⊢
    rw [readValue]
    exact hlen.bind ((marshalArray_at hread hroom hcontent).bind (runs_pure.mpr ⟨rfl, rfl⟩))
  · by_cases hbool : t = .boolean
    · subst hbool
      cases vs with
      | cons v vs => cases hread
      | nil =>
          rw [readValue]
          exact hlen.bind (Runs.bind (runs_pure.mpr ⟨rfl, rfl⟩) (runs_pure.mpr ⟨rfl, rfl⟩))
    · have hnone : t.asPrimitive = none := by
        cases t with
        | primitive p => exact absurd ⟨p, rfl⟩ hprim
        | _ => rfl
      rw [readValue_array hnone hbool]
      refine hlen.bind (runs_get_bind.mpr (h.bind (checkEnd_at.bind (runs_pure.mpr ⟨rfl, rfl⟩))))

/-- **A structure is read**, copied if it is made of single bytes, given its
    fields are. -/
theorem struct_reads {ts : List ClrType} (fs : Fields ts) {pos n : Nat} (hne : ts ≠ [])
    (hwide : ClrType.isWideStruct ts = false)
    (hat : HasAt data pos ((Value.struct fs).encode e.order pos))
    (h : Runs (readFields sameKey e data n ts) (padded pos 8) fs
      (padded pos 8 + (fs.encode e.order (padded pos 8)).length)) :
    Runs (readValue sameKey e data (n + 1) (.struct ts)) pos (.struct fs)
      (pos + ((Value.struct fs).encode e.order pos).length) := by
  rw [Value.encode_struct e.order fs pos hne] at hat ⊢
  obtain ⟨hpad, hfields⟩ := hasAt_append.mp hat
  rw [List.length_append, ← Nat.add_assoc]
  rw [← padded_eq_add_length] at hfields ⊢
  rw [readValue]
  refine (readPad_at hpad).bind ?_
  rw [if_neg (by simpa using hne)]
  by_cases heligible : ClrType.isEligibleStruct ts = true
  · obtain ⟨p, hall, hbyte⟩ := ClrType.allOfSize_of_eligible heligible
    rw [hbyte hwide] at hall
    have hmemory : fs.encode e.order (padded pos 8) = fs.memory e.order :=
      (fs.memory_eq_encode e.order hall (Nat.mod_one _)).symm
    have hlen := Fields.length_memory e.order fs hall
    have hsof : ((ts.head?.bind ClrType.asPrimitive).map Primitive.size).getD 0 = 1 := by
      cases ts with
      | nil => exact absurd rfl hne
      | cons t ts =>
          obtain ⟨q, rfl, hq⟩ := hall t (by simp)
          exact hq
    have hcopied : (fs.memory e.order) ≠ [] := by
      apply List.ne_nil_of_length_pos
      rw [hlen, Nat.mul_one]
      exact List.length_pos_of_ne_nil hne
    rw [hmemory] at hfields ⊢
    rw [if_pos heligible, hsof]
    dsimp only
    rw [← hlen]
    refine (directCopy_at (hfields.length_le hcopied) hfields).bind ?_
    rw [fieldsOf_memory e fs hall, Nat.mul_one]
    exact runs_pure.mpr ⟨rfl, rfl⟩
  · rw [if_neg heligible]
    exact h.bind (runs_pure.mpr ⟨rfl, rfl⟩)

mutual

/-- **A readable value is read from its encoding**, and the reader stands
    behind it. -/
theorem Value.reads (hdata : data.length ≤ maxStreamLength) : {t : ClrType} → (v : Value t) →
    {pos n : Nat} → HasAt data pos (v.encode e.order pos) → v.WithinLimits e.order pos →
    v.Readable sameKey e → v.depth ≤ n →
    Runs (readValue sameKey e data n t) pos v (pos + (v.encode e.order pos).length)
  | .primitive p, .primitive bits, pos, n, hat, _, _, hn => by
      obtain ⟨m, rfl⟩ : ∃ m, n = m + 1 := ⟨n - 1, by rw [Value.depth] at hn; omega⟩
      rw [readValue]
      exact (readPrimitive_at hat).bind (runs_pure.mpr ⟨rfl, rfl⟩)
  | _, .boolean b, pos, n, hat, _, _, hn => by
      obtain ⟨m, rfl⟩ : ∃ m, n = m + 1 := ⟨n - 1, by rw [Value.depth] at hn; omega⟩
      rw [readValue]
      exact (readBoolean_at hat).bind (runs_pure.mpr ⟨rfl, rfl⟩)
  | _, .string s, pos, n, hat, _, hread, hn => by
      obtain ⟨m, rfl⟩ : ∃ m, n = m + 1 := ⟨n - 1, by rw [Value.depth] at hn; omega⟩
      rw [readValue]
      exact (readString_at hdata hread hat).bind (runs_pure.mpr ⟨rfl, rfl⟩)
  | _, .objectPath path, pos, n, hat, _, _, hn => by
      obtain ⟨m, rfl⟩ : ∃ m, n = m + 1 := ⟨n - 1, by rw [Value.depth] at hn; omega⟩
      rw [readValue]
      exact (readObjectPath_at hdata hat).bind (runs_pure.mpr ⟨rfl, rfl⟩)
  | _, .signature sig, pos, n, hat, hok, _, hn => by
      obtain ⟨m, rfl⟩ : ∃ m, n = m + 1 := ⟨n - 1, by rw [Value.depth] at hn; omega⟩
      obtain ⟨data, rfl, hok⟩ := hok
      rw [readValue]
      exact (readSignature_at hok hat).bind (runs_pure.mpr ⟨rfl, rfl⟩)
  | _, .object (t := t) v ht, pos, n, hat, hok, hread, hn => by
      obtain ⟨m, rfl⟩ : ∃ m, n = m + 2 := ⟨n - 2, by rw [Value.depth] at hn; omega⟩
      rw [Value.depth] at hn
      rw [Value.encode] at hat ⊢
      obtain ⟨hsig, hv⟩ := hasAt_append.mp hat
      rw [readValue]
      refine (readSignature_at hok.2.1 hsig).bind ?_
      rw [isSingleCompleteType_code]
      refine Runs.bind (runs_pure.mpr ⟨rfl, rfl⟩) ?_
      rw [if_neg (by decide), signatureToType_code hread.1]
      refine Runs.bind (runs_pure.mpr ⟨rfl, rfl⟩) ?_
      rw [List.length_append, ← Nat.add_assoc]
      exact readBoxed_of_runs ht (v.reads hdata hv hok.2.2 hread.2 (by omega))
  | .array t, .array vs, pos, n, hat, hok, hread, hn => by
      obtain ⟨m, rfl⟩ : ∃ m, n = m + 1 := ⟨n - 1, by rw [Value.depth] at hn; omega⟩
      rw [Value.depth] at hn
      have hcontent : HasAt data (contentStart pos t.alignment)
          (vs.encode e.order (contentStart pos t.alignment)) := by
        rw [Value.encode, encodeArray] at hat
        have hsplit := (hasAt_append.mp hat).2
        rwa [← contentStart_eq] at hsplit
      exact array_reads vs hat hok hread.1
        (vs.reads hdata hok.1 hcontent rfl hok.2.1 hread.2 (by omega))
  | .dictionary k v, .dictionary es, pos, n, hat, hok, hread, hn => by
      obtain ⟨m, rfl⟩ : ∃ m, n = m + 1 := ⟨n - 1, by rw [Value.depth] at hn; omega⟩
      rw [Value.depth] at hn
      rw [Value.encode, encodeArray] at hat ⊢
      obtain ⟨hhead, hcontent⟩ := hasAt_append.mp hat
      rw [List.length_append, ← Nat.add_assoc]
      rw [← contentStart_eq] at hcontent ⊢
      have hnone : ∀ key ∈ es.keys, ∀ earlier ∈ ([] : List (Value k)),
          sameKey key earlier = false := fun _ _ _ h => absurd h List.not_mem_nil
      have hentries := es.reads hdata hcontent rfl hok.1 hread.1 hread.2.1 hread.2.2 hnone
        (Nat.le_of_succ_le_succ hn)
      rw [readValue]
      exact (readLength_at hok.2 hhead).bind
        (runs_get_bind.mpr (hentries.bind (checkEnd_at.bind (runs_pure.mpr ⟨rfl, rfl⟩))))
  | .struct ts, .struct fs, pos, n, hat, hok, hread, hn => by
      obtain ⟨m, rfl⟩ : ∃ m, n = m + 1 := ⟨n - 1, by rw [Value.depth] at hn; omega⟩
      rw [Value.depth] at hn
      refine struct_reads fs hread.1 hread.2.1 hat ?_
      rw [Value.encode_struct e.order fs pos hread.1] at hat
      have hfields := (hasAt_append.mp hat).2
      rw [← padded_eq_add_length] at hfields
      have hfieldsOk : fs.WithinLimits e.order (padded pos 8) := by
        cases fs with
        | nil => trivial
        | cons v fs => exact hok
      exact fs.reads hdata hfields hfieldsOk hread.2.2 (by omega)

theorem Values.reads (hdata : data.length ≤ maxStreamLength) : {t : ClrType} → (vs : Values t) →
    t.isSignable = true → {pos n endPos : Nat} → HasAt data pos (vs.encode e.order pos) →
    endPos = pos + (vs.encode e.order pos).length → vs.WithinLimits e.order pos →
    vs.Readable sameKey e → vs.depth ≤ n →
    Runs (readElements sameKey e data n t endPos) pos vs endPos
  | t, .nil, _, pos, n, _, _, hend, _, _, hn => by
      obtain ⟨m, rfl⟩ : ∃ m, n = m + 1 := ⟨n - 1, by rw [Values.depth] at hn; omega⟩
      rw [readElements, runs_get_bind, hend, if_neg (by simp [Values.encode])]
      exact runs_pure.mpr ⟨rfl, rfl⟩
  | t, .cons v vs, ht, pos, n, endPos, hat, hend, hok, hread, hn => by
      obtain ⟨m, rfl⟩ : ∃ m, n = m + 1 := ⟨n - 1, by rw [Values.depth] at hn; omega⟩
      rw [Values.depth] at hn
      rw [Values.encode] at hat
      rw [Values.encode, List.length_append, ← Nat.add_assoc] at hend
      obtain ⟨hv, hvs⟩ := hasAt_append.mp hat
      have hpos := List.length_pos_of_ne_nil (v.encode_ne_nil e.order pos ht)
      rw [readElements, runs_get_bind, if_pos (by omega)]
      exact (v.reads hdata hv hok.1 hread.1 (by omega)).bind
        ((vs.reads hdata ht hvs hend hok.2 hread.2 (by omega)).bind (runs_pure.mpr ⟨rfl, rfl⟩))

theorem Entries.reads (hdata : data.length ≤ maxStreamLength) : {k v : ClrType} →
    (es : Entries k v) → {pos n endPos : Nat} → {before : List (Value k)} →
    HasAt data pos (es.encode e.order pos) →
    endPos = pos + (es.encode e.order pos).length → es.WithinLimits e.order pos →
    k.isSignable = true → es.Readable sameKey e →
    (es.keys.Pairwise fun earlier later => sameKey later earlier = false) →
    (∀ key ∈ es.keys, ∀ earlier ∈ before, sameKey key earlier = false) → es.depth ≤ n →
    Runs (readEntries sameKey e data n k v endPos before) pos es endPos
  | _, _, .nil, pos, n, _, _, _, hend, _, _, _, _, _, hn => by
      obtain ⟨m, rfl⟩ : ∃ m, n = m + 1 := ⟨n - 1, by rw [Entries.depth] at hn; omega⟩
      rw [readEntries, runs_get_bind, hend, if_neg (by simp [Entries.encode])]
      exact runs_pure.mpr ⟨rfl, rfl⟩
  | k, v, .cons key value es, pos, n, endPos, before, hat, hend, hok, hk, hread, hkeys, hbefore,
      hn => by
      obtain ⟨m, rfl⟩ : ∃ m, n = m + 1 := ⟨n - 1, by rw [Entries.depth] at hn; omega⟩
      rw [Entries.depth] at hn
      rw [Entries.encode] at hat hend
      simp only [List.length_append, ← Nat.add_assoc] at hend hat
      rw [← padded_eq_add_length] at hend hat
      obtain ⟨hentry, hrest⟩ := hasAt_append.mp hat
      simp only [List.length_append, ← Nat.add_assoc] at hrest
      rw [← padded_eq_add_length] at hrest
      obtain ⟨hpad, hboth⟩ := hasAt_append.mp hentry
      rw [← padded_eq_add_length] at hboth
      obtain ⟨hkey, hvalue⟩ := hasAt_append.mp hboth
      have hpos := List.length_pos_of_ne_nil (key.encode_ne_nil e.order (padded pos 8) hk)
      have hle : pos ≤ padded pos 8 := by
        rw [padded_eq]
        omega
      have hfresh : ¬ before.any (sameKey key) = true := by
        intro hany
        obtain ⟨earlier, hmem, hsame⟩ := List.any_eq_true.mp hany
        rw [hbefore key (by simp [Entries.keys]) earlier hmem] at hsame
        cases hsame
      rw [Entries.keys, List.pairwise_cons] at hkeys
      have hlater : ∀ later ∈ es.keys, ∀ earlier ∈ key :: before,
          sameKey later earlier = false := by
        intro later hlater earlier hearlier
        rcases List.mem_cons.mp hearlier with rfl | hearlier
        · exact hkeys.1 later hlater
        · exact hbefore later (List.mem_cons_of_mem _ hlater) earlier hearlier
      rw [readEntries, runs_get_bind, if_pos (by omega)]
      refine (readPad_at hpad).bind ?_
      refine (key.reads hdata hkey hok.1 hread.1 (by omega)).bind ?_
      refine (value.reads hdata hvalue hok.2.1 hread.2.1 (by omega)).bind ?_
      rw [if_neg hfresh]
      exact (es.reads hdata hrest hend hok.2.2 hk hread.2.2 hkeys.2 hlater (by omega)).bind
        (runs_pure.mpr ⟨rfl, rfl⟩)

theorem Fields.reads (hdata : data.length ≤ maxStreamLength) : {ts : List ClrType} →
    (fs : Fields ts) → {pos n : Nat} → HasAt data pos (fs.encode e.order pos) →
    fs.WithinLimits e.order pos → fs.Readable sameKey e → fs.depth ≤ n →
    Runs (readFields sameKey e data n ts) pos fs (pos + (fs.encode e.order pos).length)
  | _, .nil, pos, n, _, _, _, hn => by
      obtain ⟨m, rfl⟩ : ∃ m, n = m + 1 := ⟨n - 1, by rw [Fields.depth] at hn; omega⟩
      exact runs_pure.mpr ⟨rfl, rfl⟩
  | _, .cons v fs, pos, n, hat, hok, hread, hn => by
      obtain ⟨m, rfl⟩ : ∃ m, n = m + 1 := ⟨n - 1, by rw [Fields.depth] at hn; omega⟩
      rw [Fields.depth] at hn
      rw [Fields.encode] at hat ⊢
      obtain ⟨hv, hfs⟩ := hasAt_append.mp hat
      rw [readFields, List.length_append, ← Nat.add_assoc]
      exact (v.reads hdata hv hok.1 hread.1 (by omega)).bind
        ((fs.reads hdata hfs hok.2 hread.2 (by omega)).bind (runs_pure.mpr ⟨rfl, rfl⟩))

end

end Reads

/-! ## §5. From machine to machine. -/

/-- What a writer added stands in its stream, whatever comes behind it. -/
theorem MemoryStream.hasAt_append {s : MemoryStream} (hs : s.AtEnd) (bytes more : Bytes) :
    HasAt ((s.append bytes).buffer ++ more) s.position bytes := by
  rw [hs.1]
  exact hasAt_middle s.buffer

section Machines

variable {sameKey : {k : ClrType} → Value k → Value k → Bool} {w r : Endian}
  {s s' : MemoryStream} {more : Bytes} {n : Nat}

/-- **What one machine writes another reads**, if they agree on the order of
    the message. -/
theorem write_read {t : ClrType} {v : Value t} (horder : w.order = r.order) (hs : s.AtEnd)
    (hread : v.Readable sameKey r) (hwrite : Runs (v.write w) s () s')
    (hsize : (s'.buffer ++ more).length ≤ maxStreamLength) (hn : v.depth ≤ n) :
    Runs (readValue sameKey r (s'.buffer ++ more) n t) s.position v s'.position := by
  have hemits := v.emits w (Or.inr (v.noWideStruct_of_readable sameKey r hread))
  obtain ⟨hok, -, rfl⟩ := (hemits s s' hs).mp hwrite
  have hat := MemoryStream.hasAt_append hs (v.encode w.order s.position) more
  rw [horder] at hok hat hsize ⊢
  exact v.reads hsize hat hok hread hn

/-- A big-endian machine sends a record in the other order. -/
theorem write_read_record : Runs
    (readValue (fun _ _ => false) (Endian.own .littleEndian)
      ([1, 0, 0, 0, 52, 0, 1, 105, 0, 0, 0, 0, 7, 0, 0, 0] ++ [1, 2, 3]) 6
      (.struct [.string, .object])) 0
    (.struct (.cons (.string (text "4")) (.cons (.object (.primitive (p := .int32) 7) rfl) .nil)))
    16 := by
  have hwrite : Runs (Value.write { native := .bigEndian, endianness := EndianFlag.little }
      (.struct (.cons (.string (text "4"))
        (.cons (.object (.primitive (p := .int32) 7) rfl) .nil)))) ⟨[], 0⟩ ()
      ⟨[1, 0, 0, 0, 52, 0, 1, 105, 0, 0, 0, 0, 7, 0, 0, 0], 16⟩ := by rfl
  refine write_read (by rfl) ⟨rfl, by decide⟩ ?_ hwrite (by decide) (by decide)
  exact ⟨by simp, rfl, show WellFormed _ by decide, ⟨rfl, trivial⟩, trivial⟩

/-- The same of values that follow each other, the body of a message. -/
theorem fields_write_read {ts : List ClrType} {fs : Fields ts} (horder : w.order = r.order)
    (hs : s.AtEnd) (hread : fs.Readable sameKey r) (hwrite : Runs (fs.write w) s () s')
    (hsize : (s'.buffer ++ more).length ≤ maxStreamLength) (hn : fs.depth ≤ n) :
    Runs (readFields sameKey r (s'.buffer ++ more) n ts) s.position fs s'.position := by
  have hemits := fs.emits w (Or.inr (fs.noWideStruct_of_readable sameKey r hread))
  obtain ⟨hok, -, rfl⟩ := (hemits s s' hs).mp hwrite
  have hat := MemoryStream.hasAt_append hs (fs.encode w.order s.position) more
  rw [horder] at hok hat hsize ⊢
  exact fs.reads hsize hat hok hread hn

end Machines

/-! ## §6. Arrays that come back otherwise. -/

/-- Where a sequence of aligned pieces of one size ends. -/
def strided (size : Nat) : Nat → Nat → Nat
  | 0, pos => pos
  | k + 1, pos => strided size k (padded pos 8 + size)

/-- An aligned piece ends where the next one begins, padded. -/
theorem padded_add_size (pos size : Nat) :
    padded (padded pos 8 + size) 8 = padded pos 8 + padded size 8 := by
  have hmod := padded_mod pos (by decide : 0 < 8)
  obtain ⟨k, hk⟩ := Nat.dvd_of_mod_eq_zero hmod
  rw [padded_eq, padded_eq size, hk, Nat.add_comm (8 * k), padNeeded_add_mul]
  omega

theorem strided_succ (size k pos : Nat) :
    strided size (k + 1) pos = padded pos 8 + k * padded size 8 + size := by
  induction k generalizing pos with
  | zero => simp [strided]
  | succ k ih =>
      show strided size (k + 1) (padded pos 8 + size) = _
      rw [ih, padded_add_size, Nat.succ_mul]
      omega

/-- As many larger pieces, or more, end later. -/
theorem strided_lt {size size' k k' : Nat} (pos : Nat) (hsize : size < size') (hk : k ≤ k')
    (hpos : 0 < k) : strided size k pos < strided size' k' pos := by
  obtain ⟨m, rfl⟩ : ∃ m, k = m + 1 := ⟨k - 1, by omega⟩
  obtain ⟨m', rfl⟩ : ∃ m, k' = m + 1 := ⟨k' - 1, by omega⟩
  have hpad : padded size 8 ≤ padded size' 8 := by
    unfold padded
    split_ifs <;> omega
  have hmul : m * padded size 8 ≤ m' * padded size' 8 := Nat.mul_le_mul (by omega) hpad
  rw [strided_succ, strided_succ]
  omega

/-- The size of the first field, by which a structure is copied. -/
def ClrType.firstSize (ts : List ClrType) : Nat :=
  ((ts.head?.bind ClrType.asPrimitive).map Primitive.size).getD 0

theorem ClrType.of_isWideStruct {ts : List ClrType} (h : ClrType.isWideStruct ts = true) :
    ts ≠ [] ∧ ClrType.isEligibleStruct ts = true ∧ ClrType.AllOfSize (ClrType.firstSize ts) ts
      ∧ 1 < ClrType.firstSize ts := by
  unfold ClrType.isWideStruct at h
  split at h
  next p ts =>
    rw [Bool.and_eq_true, bne_iff_ne] at h
    obtain ⟨q, hall, -⟩ := ClrType.allOfSize_of_eligible h.1
    obtain ⟨p', hp', hq⟩ := hall (.primitive p) (by simp)
    cases hp'
    have hpos := p.size_pos
    have hone := h.2
    have hfirst : ClrType.firstSize (.primitive p :: ts) = p.size := rfl
    rw [hfirst]
    refine ⟨List.cons_ne_nil _ _, h.1, ?_, by omega⟩
    rw [hq]
    exact hall
  next => cases h

section Lost

variable {sameKey : {k : ClrType} → Value k → Value k → Bool} {e : Endian} {data : Bytes}
  {ts : List ClrType} {n pos pos' : Nat}

theorem runs_readPad {alignment : Nat} {u : PUnit}
    (h : Runs (readPad data alignment) pos u pos') : pos' = padded pos alignment := by
  have hzeros : ∀ {n p p' : Nat} {u : PUnit}, Runs (readZeros data n) p u p' → p' = p + n := by
    intro n
    induction n with
    | zero =>
        intro p p' u h
        exact (runs_pure.mp h).2.symm
    | succ n ih =>
        intro p p' u h
        rw [readZeros, runs_get_bind] at h
        cases hb : data[p]? with
        | none =>
            rw [hb] at h
            exact absurd h runs_throw
        | some b =>
            rw [hb] at h
            dsimp only at h
            rw [runs_ite] at h
            split_ifs at h
            · exact absurd h runs_throw
            · rw [runs_set_bind] at h
              rw [ih h]
              omega
  rw [readPad, runs_get_bind] at h
  rw [hzeros h, padded_eq]
  omega

/-- **The reader overshoots a structure that it copies**: it counts the size of
    the numbers twice. -/
theorem struct_overshoots {v : Value (.struct ts)} (hwide : ClrType.isWideStruct ts = true)
    (h : Runs (readValue sameKey e data n (.struct ts)) pos v pos') :
    pos' = padded pos 8 + ts.length * ClrType.firstSize ts * ClrType.firstSize ts := by
  obtain ⟨hne, heligible, -, -⟩ := ClrType.of_isWideStruct hwide
  cases n with
  | zero =>
      rw [readValue] at h
      exact absurd h runs_throw
  | succ n =>
      rw [readValue] at h
      obtain ⟨u, p, hpad, h⟩ := runs_bind.mp h
      rw [if_neg (by simpa using hne), if_pos heligible] at h
      obtain ⟨bytes, q, hcopy, h⟩ := runs_bind.mp h
      obtain ⟨hq, -⟩ := directCopy_position hcopy
      rw [runs_readPad hpad] at hq
      cases hfields : fieldsOf e ts bytes with
      | none =>
          rw [hfields] at h
          exact absurd h runs_throw
      | some fs =>
          rw [hfields] at h
          rw [← (runs_pure.mp h).2, hq]
          rfl

/-- Where the reader stands behind some structures. -/
theorem structs_overshoot {endPos : Nat} (hwide : ClrType.isWideStruct ts = true) :
    (vs : Values (.struct ts)) → {n pos pos' : Nat} →
    Runs (readElements sameKey e data n (.struct ts) endPos) pos vs pos' →
    pos' = strided (ts.length * ClrType.firstSize ts * ClrType.firstSize ts) vs.length pos := by
  intro vs n
  induction n generalizing vs with
  | zero =>
      intro pos pos' h
      rw [readElements] at h
      exact absurd h runs_throw
  | succ n ih =>
      intro pos pos' h
      rw [readElements, runs_get_bind, runs_ite] at h
      split_ifs at h
      · obtain ⟨v, p, hv, h⟩ := runs_bind.mp h
        obtain ⟨vs', q, hvs, h⟩ := runs_bind.mp h
        obtain ⟨rfl, rfl⟩ := runs_pure.mp h
        rw [Values.length, strided, ← struct_overshoots hwide hv]
        exact ih vs' hvs
      · obtain ⟨rfl, rfl⟩ := runs_pure.mp h
        rfl

/-- Where a writer stands behind some structures: in either order it copies
    them as they lie in memory. -/
theorem structs_write (w : Endian) (hwide : ClrType.isWideStruct ts = true) :
    (vs : Values (.struct ts)) → ∃ bytes : Nat → Bytes,
      Emits (vs.write w) (fun _ => True) bytes ∧ ∀ pos, pos + (bytes pos).length
        = strided (ts.length * ClrType.firstSize ts) vs.length pos
  | .nil => ⟨_, emits_nothing, fun _ => rfl⟩
  | .cons (.struct fs) vs => by
      obtain ⟨hne, heligible, hall, -⟩ := ClrType.of_isWideStruct hwide
      obtain ⟨bytes, hvs, hend⟩ := structs_write w hwide vs
      have hcopy : Emits ((Value.struct fs).write w) (fun _ => True ∧ True)
          (fun pos => pad pos 8 ++ fs.memory w.native) := by
        rw [Value.write, MessageWriter.writeStructure, if_neg (by simpa using hne), if_pos heligible]
        exact emits_bind (emits_writePad 8) (emits_write (fs.memory w.native))
      refine ⟨_, (emits_bind hcopy hvs).congr
        (fun _ => ⟨fun _ => trivial, fun _ => ⟨⟨trivial, trivial⟩, trivial⟩⟩) fun _ => rfl, ?_⟩
      intro pos
      have hnext : pos + (pad pos 8 ++ fs.memory w.native).length
          = padded pos 8 + ts.length * ClrType.firstSize ts := by
        rw [List.length_append, Fields.length_memory w.native fs hall, padded_eq, length_pad,
            Nat.add_assoc]
      rw [List.length_append, ← Nat.add_assoc, hnext, hend, Values.length, strided]

/-- An array that is read has the elements between its head and its end. -/
theorem runs_readArray {t : ClrType} {vs : Values t} {ln : Nat} (hp : t.asPrimitive = none)
    (hb : t ≠ .boolean)
    (hln : Runs (readArrayLength e data t) pos ln (contentStart pos t.alignment))
    (h : Runs (readValue sameKey e data n (.array t)) pos (.array vs) pos') :
    ∃ m, Runs (readElements sameKey e data m t (contentStart pos t.alignment + ln))
      (contentStart pos t.alignment) vs (contentStart pos t.alignment + ln) := by
  cases n with
  | zero =>
      rw [readValue] at h
      exact absurd h runs_throw
  | succ n =>
      rw [readValue_array hp hb] at h
      obtain ⟨ln', p, hlen, h⟩ := runs_bind.mp h
      obtain ⟨rfl, rfl⟩ := hlen.unique hln
      obtain ⟨vs', q, hvs, h⟩ := runs_bind.mp (runs_get_bind.mp h)
      obtain ⟨u, q', hend, h⟩ := runs_bind.mp h
      obtain ⟨hvalue, -⟩ := runs_pure.mp h
      cases hvalue
      rw [checkEnd, runs_get_bind, runs_ite] at hend
      split_ifs at hend with hq
      · exact absurd hend runs_throw
      · rw [not_ne_iff.mp hq] at hvs
        exact ⟨n, hvs⟩

variable {w r : Endian} {s s' : MemoryStream} {more : Bytes}

/-- What a writer of either order adds for an array of structures that are
    copied. -/
theorem structs_array (w : Endian) (hwide : ClrType.isWideStruct ts = true)
    (vs : Values (.struct ts)) : ∃ bytes : Nat → Bytes,
      Emits ((Value.array vs).write w) (fun pos => (ClrType.struct ts).isSignable = true
          ∧ True ∧ (bytes (contentStart pos 8)).length ≤ maxArrayLength)
        (encodeArray w.order 8 bytes)
      ∧ ∀ pos, pos + (bytes pos).length
        = strided (ts.length * ClrType.firstSize ts) vs.length pos := by
  obtain ⟨bytes, hvs, hend⟩ := structs_write w hwide vs
  refine ⟨bytes, ?_, hend⟩
  rw [Value.write]
  exact emits_withAlignment (t := .struct ts)
    (f := fun a => MessageWriter.writeMeasured w (text "Array") a (vs.write w))
    (emits_writeMeasured w (text "Array") 8 hvs)

/-- **An array of structures that are copied never comes back**: it ends in an
    exception, or with fewer elements than were sent. -/
theorem structs_lost {vs vs' : Values (.struct ts)} (hwide : ClrType.isWideStruct ts = true)
    (hsome : 0 < vs.length) (horder : w.order = r.order) (hs : s.AtEnd)
    (hwrite : Runs ((Value.array vs).write w) s () s')
    (hread : Runs (readValue sameKey r (s'.buffer ++ more) n (.array (.struct ts))) s.position
      (.array vs') pos') :
    vs'.length < vs.length := by
  obtain ⟨bytes, hemits, hwritten⟩ := structs_array w hwide vs
  obtain ⟨hok, -, rfl⟩ := (hemits s s' hs).mp hwrite
  have hat := MemoryStream.hasAt_append hs (encodeArray w.order 8 bytes s.position) more
  generalize (s.append (encodeArray w.order 8 bytes s.position)).buffer ++ more = data
    at hat hread
  rw [horder, encodeArray] at hat
  have hread' : ClrType.ArrayReadable r 0 (.struct ts) := trivial
  have hlen := readArrayLength_at hread' hok.2.2 (hasAt_append.mp hat).1
  obtain ⟨m, hvs⟩ := runs_readArray (by rfl) (by simp) hlen hread
  have hend := structs_overshoot hwide vs' hvs
  rw [show (ClrType.struct ts).alignment = 8 from rfl, hwritten] at hend
  obtain ⟨hne, -, -, hbig⟩ := ClrType.of_isWideStruct hwide
  have hsize : ts.length * ClrType.firstSize ts
      < ts.length * ClrType.firstSize ts * ClrType.firstSize ts := by
    have hfields := List.length_pos_of_ne_nil hne
    exact lt_mul_of_one_lt_right (Nat.mul_pos hfields (by omega)) hbig
  by_contra hnot
  have hlt := strided_lt (contentStart s.position 8) hsize (Nat.le_of_not_lt hnot) hsome
  omega

/-- Two structures of four numbers are read as one. -/
theorem structs_lost_pair : ∃ vs', Runs
    (readValue (fun _ _ => false) (Endian.own .littleEndian)
      ([16, 0, 0, 0, 0, 0, 0, 0, 0, 0, 0, 0, 0, 0, 0, 0, 0, 0, 0, 0, 0, 0, 0, 0] ++ []) 3
      (.array (.struct (List.replicate 4 (.primitive .int16))))) 0 (.array vs') 24
    ∧ vs'.length < 2 := by
  have hread : Runs (readValue (fun _ _ => false) (Endian.own .littleEndian)
      ([16, 0, 0, 0, 0, 0, 0, 0, 0, 0, 0, 0, 0, 0, 0, 0, 0, 0, 0, 0, 0, 0, 0, 0] ++ []) 3
      (.array (.struct (List.replicate 4 (.primitive .int16))))) 0
      (.array (.cons (.struct (.cons (.primitive 0) (.cons (.primitive 0) (.cons (.primitive 0)
        (.cons (.primitive 0) .nil))))) .nil)) 24 := by rfl
  have hwrite : Runs (Value.write (Endian.own .littleEndian) (.array
      (.cons (.struct (.cons (.primitive (p := .int16) 0) (.cons (.primitive (p := .int16) 0)
        (.cons (.primitive (p := .int16) 0) (.cons (.primitive (p := .int16) 0) .nil)))))
      (.cons (.struct (.cons (.primitive (p := .int16) 0) (.cons (.primitive (p := .int16) 0)
        (.cons (.primitive (p := .int16) 0) (.cons (.primitive (p := .int16) 0) .nil)))))
        .nil)))) ⟨[], 0⟩ ()
      ⟨[16, 0, 0, 0, 0, 0, 0, 0, 0, 0, 0, 0, 0, 0, 0, 0, 0, 0, 0, 0, 0, 0, 0, 0], 24⟩ := by rfl
  exact ⟨_, hread, structs_lost (by rfl) (by decide) rfl ⟨rfl, by decide⟩ hwrite hread⟩

theorem length_marshalBoolArray {vs : Values .boolean} {length : Nat}
    (h : Runs (marshalBoolArray e data length) pos vs pos') : vs.length = length := by
  induction length generalizing pos pos' vs with
  | zero => rw [← (runs_pure.mp h).1, Values.length]
  | succ length ih =>
      rw [marshalBoolArray] at h
      obtain ⟨b, p, -, h⟩ := runs_bind.mp h
      obtain ⟨bs, q, hbs, h⟩ := runs_bind.mp h
      rw [← (runs_pure.mp h).1, Values.length, ih hbs]

theorem Values.noWideStruct_boolean : (vs : Values .boolean) → vs.NoWideStruct
  | .nil => trivial
  | .cons (.boolean _) vs => ⟨trivial, vs.noWideStruct_boolean⟩

theorem Values.length_encode_boolean (o : ByteOrder) : (vs : Values .boolean) → {pos : Nat} →
    pos % 4 = 0 → (vs.encode o pos).length = 4 * vs.length
  | .nil, _, _ => rfl
  | .cons (.boolean b) vs, pos, hpos => by
      have hfirst : ((Value.boolean b).encode o pos).length = 4 := by
        rw [Value.encode, length_encodeNumber, padNeeded_of_mod hpos]
      rw [Values.encode, List.length_append, hfirst, vs.length_encode_boolean o (by omega),
          Values.length]
      omega

/-- **An array of truth values never comes back**: it ends in an exception, or
    with four times as many elements as were sent. -/
theorem booleans_lost {vs vs' : Values .boolean} (horder : w.order = r.order)
    (hs : s.AtEnd) (hwrite : Runs ((Value.array vs).write w) s () s')
    (hread : Runs (readValue sameKey r (s'.buffer ++ more) n (.array .boolean)) s.position
      (.array vs') pos') :
    vs'.length = 4 * vs.length := by
  obtain ⟨hok, -, rfl⟩ :=
    ((Value.array vs).emits w (Or.inr vs.noWideStruct_boolean) s s' hs).mp hwrite
  have hat := MemoryStream.hasAt_append hs ((Value.array vs).encode w.order s.position) more
  generalize (s.append ((Value.array vs).encode w.order s.position)).buffer ++ more = data
    at hat hread
  rw [horder] at hok hat
  rw [Value.encode, encodeArray] at hat
  have hread' : ClrType.ArrayReadable r 0 .boolean := rfl
  have hlen := readArrayLength_at hread' hok.2.2 (hasAt_append.mp hat).1
  cases n with
  | zero =>
      rw [readValue] at hread
      exact absurd hread runs_throw
  | succ n =>
      rw [readValue] at hread
      obtain ⟨ln, p, hln, hread⟩ := runs_bind.mp hread
      obtain ⟨rfl, rfl⟩ := hln.unique hlen
      obtain ⟨us, q, hus, hread⟩ := runs_bind.mp hread
      obtain ⟨hvalue, -⟩ := runs_pure.mp hread
      cases hvalue
      rw [length_marshalBoolArray hus, vs.length_encode_boolean r.order]
      exact padded_mod _ (by decide)

/-- One truth value is read as four. -/
theorem booleans_lost_one : ∃ vs', Runs
    (readValue (fun _ _ => false) (Endian.own .littleEndian)
      ([4, 0, 0, 0, 1, 0, 0, 0] ++ List.replicate 12 0) 1 (.array .boolean)) 0 (.array vs') 20
    ∧ vs'.length = 4 := by
  have hread : Runs (readValue (fun _ _ => false) (Endian.own .littleEndian)
      ([4, 0, 0, 0, 1, 0, 0, 0] ++ List.replicate 12 0) 1 (.array .boolean)) 0
      (.array (.cons (.boolean true) (.cons (.boolean false) (.cons (.boolean false)
        (.cons (.boolean false) .nil))))) 20 := by rfl
  have hwrite : Runs (Value.write (Endian.own .littleEndian)
      (.array (.cons (.boolean true) .nil))) ⟨[], 0⟩ () ⟨[4, 0, 0, 0, 1, 0, 0, 0], 8⟩ := by rfl
  exact ⟨_, hread, booleans_lost rfl ⟨rfl, by decide⟩ hwrite hread⟩

end Lost

end SapDbLib
