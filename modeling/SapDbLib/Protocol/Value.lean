/-
  SapDbLib.Protocol.Value — VALUES AND THE FORMAT THEY ARE SENT IN.

  A value carries its type: `Value t` are the values of type `t`, so that an
  array has elements of one type and a boxed value (`object`) knows its own.
  Numbers are kept as their bits.

  `Value.encode` is the wire format as such: the bytes of a value in a byte
  order, **at a position**, since padding depends on where a value stands.
  Nothing of the program's reader or writer enters into it; both are compared
  with it later.
-/
import SapDbLib.Library.Utf8
import SapDbLib.Protocol.TypeSignature

namespace SapDbLib

open Library ProtocolInformation

/-! ## §1. Object paths. -/

/-- The slash `'/'`. -/
def slash : UInt16 := 47

/-- The characters between the slashes of an object path. -/
def isPathUnit (c : UInt16) : Bool :=
  (97 ≤ c && c ≤ 122) || (65 ≤ c && c ≤ 90) || (48 ≤ c && c ≤ 57) || c == 95

/-- The loop of `ObjectPath.Validate`. -/
def validateUnits : Bool → Text → Except CSharpException Unit
  | _, [] => .ok ()
  | multipleSlash, c :: rest =>
      if isPathUnit c || (!multipleSlash && c == slash) then validateUnits (c == slash) rest
      else .error (argumentException
        (text "'" ++ c :: text "' is not a valid character in an ObjectPath"))

/-- `ObjectPath.Validate`. -/
def validatePath (value : Text) : Except CSharpException Unit :=
  if value.head? ≠ some slash then .error (argumentException (text "value"))
  else if value.getLast? = some slash ∧ 1 < value.length then
    .error (argumentException (text "ObjectPath cannot end in '/'"))
  else validateUnits false value

/-- `ObjectPath`: a text that `Validate` lets through. -/
structure ObjectPath where
  value : Text
  valid : validatePath value = .ok ()

instance : DecidableEq ObjectPath := fun p q =>
  decidable_of_iff (p.value = q.value) ⟨by cases p; cases q; simp, congrArg _⟩

/-- `new ObjectPath (value)` -/
def ObjectPath.new (value : Text) : Except CSharpException ObjectPath :=
  match h : validatePath value with
  | .ok () => .ok ⟨value, h⟩
  | .error e => .error e

theorem ObjectPath.new_value (p : ObjectPath) : ObjectPath.new p.value = .ok p := by
  unfold ObjectPath.new
  split
  next => rfl
  next e h =>
    rw [p.valid] at h
    cases h

theorem isAscii_of_validateUnits {s : Text} :
    ∀ {multipleSlash}, validateUnits multipleSlash s = .ok () → IsAscii s := by
  induction s with
  | nil =>
      intro multipleSlash _ u hu
      cases hu
  | cons c s ih =>
      intro multipleSlash h u hu
      unfold validateUnits at h
      split_ifs at h with hc
      rcases List.mem_cons.mp hu with rfl | hu
      · simp only [isPathUnit, slash, Bool.or_eq_true, Bool.and_eq_true, decide_eq_true_eq,
          beq_iff_eq] at hc
        simp only [UInt16.le_iff_toNat_le, ← UInt16.toNat_inj] at hc
        simp at hc
        omega
      · exact ih h u hu

/-- Object paths are ASCII. -/
theorem ObjectPath.isAscii (p : ObjectPath) : IsAscii p.value := by
  have h := p.valid
  unfold validatePath at h
  split_ifs at h
  exact isAscii_of_validateUnits h

/-! ## §2. Values. -/

mutual

/-- The values of a type. -/
inductive Value : ClrType → Type
  | primitive {p : Primitive} (bits : BitVec (8 * p.size)) : Value (.primitive p)
  | boolean (b : Bool) : Value .boolean
  | string (s : Text) : Value .string
  | objectPath (path : ObjectPath) : Value .objectPath
  /-- A signature with its data or null, as `default (Signature)` has it. -/
  | signature (sig : Option Bytes) : Value .signature
  /-- A boxed value; boxing twice is boxing once. -/
  | object {t : ClrType} (v : Value t) (h : t.isObject = false) : Value .object
  | array {t : ClrType} (elements : Values t) : Value (.array t)
  | dictionary {k v : ClrType} (entries : Entries k v) : Value (.dictionary k v)
  | struct {ts : List ClrType} (fields : Fields ts) : Value (.struct ts)

/-- The elements of an array. -/
inductive Values : ClrType → Type
  | nil {t : ClrType} : Values t
  | cons {t : ClrType} (v : Value t) (vs : Values t) : Values t

/-- The entries of a dictionary, in the order in which it lists them. -/
inductive Entries : ClrType → ClrType → Type
  | nil {k v : ClrType} : Entries k v
  | cons {k v : ClrType} (key : Value k) (value : Value v) (es : Entries k v) : Entries k v

/-- The fields of a structure. -/
inductive Fields : List ClrType → Type
  | nil : Fields []
  | cons {t : ClrType} {ts : List ClrType} (v : Value t) (fs : Fields ts) : Fields (t :: ts)

end

/-- The number of elements. -/
def Values.length {t : ClrType} : Values t → Nat
  | .nil => 0
  | .cons _ vs => vs.length + 1

/-! ## §3. The wire format. -/

/-- The padding in front of a value. -/
def pad (pos alignment : Nat) : Bytes := List.replicate (padNeeded pos alignment) 0

@[simp] theorem length_pad (pos alignment : Nat) :
    (pad pos alignment).length = padNeeded pos alignment := List.length_replicate

@[simp] theorem pad_one (pos : Nat) : pad pos 1 = [] := by
  rw [pad, padNeeded_one, List.replicate_zero]

/-- A number of some bytes, aligned to its size. -/
def encodeNumber (o : ByteOrder) (size : Nat) (v : Nat) (pos : Nat) : Bytes :=
  pad pos size ++ o.bytes size v

/-- A text: its length in bytes, its bytes and a zero byte. -/
def encodeText (o : ByteOrder) (s : Text) (pos : Nat) : Bytes :=
  encodeNumber o 4 (utf8Encode s).length pos ++ utf8Encode s ++ [0]

/-- A signature: its length in one byte, its bytes and a zero byte. -/
def encodeSignature (sig : Bytes) : Bytes := UInt8.ofNat sig.length :: (sig ++ [0])

/-- Where the content of an array begins. -/
def contentStart (pos alignment : Nat) : Nat := padded (padded pos 4 + 4) alignment

/-- An array: the length of its content in bytes, padding, the content. -/
def encodeArray (o : ByteOrder) (alignment : Nat) (content : Nat → Bytes) (pos : Nat) : Bytes :=
  encodeNumber o 4 (content (contentStart pos alignment)).length pos
    ++ pad (padded pos 4 + 4) alignment ++ content (contentStart pos alignment)

mutual

/-- **The bytes of a value at a position.** -/
def Value.encode (o : ByteOrder) : {t : ClrType} → Value t → Nat → Bytes
  | .primitive p, .primitive bits, pos => encodeNumber o p.size bits.toNat pos
  | _, .boolean b, pos => encodeNumber o 4 b.toNat pos
  | _, .string s, pos => encodeText o s pos
  | _, .objectPath path, pos => encodeText o path.value pos
  -- one without data cannot be written
  | _, .signature sig, _ => encodeSignature (sig.getD [])
  | _, .object (t := t) v _, pos =>
      encodeSignature t.code ++ v.encode o (pos + (encodeSignature t.code).length)
  | .array t, .array vs, pos => encodeArray o t.alignment (fun start => vs.encode o start) pos
  | _, .dictionary es, pos => encodeArray o 8 (fun start => es.encode o start) pos
  | .struct [], .struct _, _ => []
  | .struct (_ :: _), .struct fs, pos => pad pos 8 ++ fs.encode o (padded pos 8)

/-- The elements of an array, one after the other. -/
def Values.encode (o : ByteOrder) : {t : ClrType} → Values t → Nat → Bytes
  | _, .nil, _ => []
  | _, .cons v vs, pos => v.encode o pos ++ vs.encode o (pos + (v.encode o pos).length)

/-- The entries of a dictionary, each aligned like a structure. -/
def Entries.encode (o : ByteOrder) : {k v : ClrType} → Entries k v → Nat → Bytes
  | _, _, .nil, _ => []
  | _, _, .cons key value es, pos =>
      let entry := pad pos 8 ++ (key.encode o (padded pos 8)
        ++ value.encode o (padded pos 8 + (key.encode o (padded pos 8)).length))
      entry ++ es.encode o (pos + entry.length)

/-- The fields of a structure, one after the other. -/
def Fields.encode (o : ByteOrder) : {ts : List ClrType} → Fields ts → Nat → Bytes
  | _, .nil, _ => []
  | _, .cons v fs, pos => v.encode o pos ++ fs.encode o (pos + (v.encode o pos).length)

end

theorem padded_eq_add_length (pos alignment : Nat) :
    padded pos alignment = pos + (pad pos alignment).length := by
  rw [padded_eq, length_pad]

theorem length_encodeNumber (o : ByteOrder) (size v pos : Nat) :
    (encodeNumber o size v pos).length = padNeeded pos size + size := by
  rw [encodeNumber, List.length_append, length_pad, ByteOrder.length_bytes]

/-- The content of an array stands where it was encoded for. -/
theorem contentStart_eq (o : ByteOrder) (pos alignment v : Nat) :
    contentStart pos alignment
      = pos + (encodeNumber o 4 v pos ++ pad (padded pos 4 + 4) alignment).length := by
  rw [contentStart, padded_eq (padded pos 4 + 4), List.length_append, length_encodeNumber,
      length_pad, padded_eq pos]
  omega

end SapDbLib
