/-
  SapDbLib.Protocol.MessageReader — THE READER.

  `MessageReader` as the code computes it: a position in the data, padding
  that must be zero, the fast paths for arrays and structures of numbers, the
  loops over arrays and dictionaries, and values whose type is read from their
  signature.

  Three of its paths move the position further than the bytes they read
  (`directCopy`, `marshalBoolArray`) or align an array by another rule than
  the writer (dictionaries); they are kept as they are, and so is the write
  past the end of an array when a length is no multiple of the element size
  (`ReadFault.overrun`).

  Reading nests as deep as the data say.  The depth is the first argument of
  `readValue`; `ReadFault.unfinished` marks a depth that was too small, which
  `SapDbLib.Protocol.Termination` rules out.
-/
import SapDbLib.Protocol.MessageWriter

namespace SapDbLib

open Library ProtocolInformation

/-! ## §1. Positions and bytes. -/

/-- Why reading stops. -/
inductive ReadFault where
  | exception (ex : CSharpException)
  /-- An unsafe copy writes past the end of an array. -/
  | overrun
  /-- The depth given to the reader does not suffice. -/
  | unfinished
  deriving DecidableEq, Repr

/-- What a reader does: it moves its position and gets a result. -/
abbrev Reader (α : Type) := Stateful ReadFault Nat α

/-- An exception of the code. -/
def throwEx {α : Type} (ex : CSharpException) : Reader α := throw (.exception ex)

/-- A computation that may throw. -/
def liftEx {α : Type} : Except CSharpException α → Reader α
  | .ok a => pure a
  | .error ex => throwEx ex

namespace MessageReader

section Bytes

variable (e : Endian) (data : Bytes)

/-- `ReadByte`. -/
def readByte : Reader UInt8 := do
  let pos ← get
  match data[pos]? with
  | some b =>
      set (pos + 1)
      return b
  | none => throwEx .indexOutOfRange

/-- `PaddingException`. -/
def paddingException (position : Nat) (element : UInt8) : CSharpException :=
  .other (text "DBus.Protocol.MessageReader.PaddingException")
    (text "Read non-zero byte at position " ++ decimal position
      ++ text " while expecting padding. Value given: " ++ decimal element.toNat)

/-- The loop of `ReadPad`. -/
def readZeros : Nat → Reader PUnit
  | 0 => return
  | n + 1 => do
      let pos ← get
      match data[pos]? with
      | some b =>
          if b ≠ 0 then throwEx (paddingException pos b)
          else
            set (pos + 1)
            readZeros n
      | none => throwEx .indexOutOfRange

/-- `ReadPad`. -/
def readPad (alignment : Nat) : Reader PUnit := do
  let pos ← get
  readZeros data (padded pos alignment - pos)

/-- `ReadNull`. -/
def readNull : Reader PUnit := do
  let pos ← get
  match data[pos]? with
  | some b =>
      if b ≠ 0 then
        throwEx (exception (text "Read non-zero byte at position " ++ decimal pos
          ++ text " while expecting null terminator"))
      else set (pos + 1)
  | none => throwEx .indexOutOfRange

/-- The bytes in front of the reader. -/
def slice (pos size : Nat) : Bytes := (data.drop pos).take size

/-- The number of some bytes: as they lie in memory, or reversed. -/
def numberOf (bytes : Bytes) : Nat :=
  if e.isNative then e.native.value bytes else e.native.value bytes.reverse

/-- `MarshalUShort`, `MarshalUInt` and `MarshalULong`. -/
def unmarshal (size : Nat) : Reader Nat := do
  readPad data size
  let pos ← get
  if data.length < pos + size then
    throwEx (exception (text "Cannot read beyond end of data"))
  else
    set (pos + size)
    return numberOf e (slice data pos size)

/-- `Read…` of a number: a byte is read as it is. -/
def readPrimitive (p : Primitive) : Reader (BitVec (8 * p.size)) :=
  match p with
  | .byte => do
      let b ← readByte data
      return BitVec.ofNat _ b.toNat
  | p => do
      let v ← unmarshal e data p.size
      return BitVec.ofNat _ v

/-- `ReadBoolean`. -/
def readBoolean : Reader Bool := do
  let intval ← unmarshal e data 4
  if intval = 0 then return false
  else if intval = 1 then return true
  else
    let pos ← get
    throwEx (exception (text "Read value " ++ decimal intval ++ text " at position " ++ decimal pos
      ++ text " while expecting boolean (0/1)"))

/-- `ReadString`: the length is cast to `int` first. -/
def readString : Reader Text := do
  let ln ← unmarshal e data 4
  let pos ← get
  if 2147483648 ≤ ln ∨ data.length < pos + ln then throwEx .argumentOutOfRange
  else
    set (pos + ln)
    readNull data
    return utf8Decode (slice data pos ln)

/-- `ReadObjectPath`. -/
def readObjectPath : Reader ObjectPath := do
  let s ← readString e data
  liftEx (ObjectPath.new s)

/-- `ReadSignature`. -/
def readSignature : Reader Bytes := do
  let ln ← readByte data
  if ln = 1 then
    -- avoid an array allocation for small signatures
    let dtype ← readByte data
    readNull data
    return [dtype]
  else
    let pos ← get
    if data.length < pos + ln.toNat then
      throwEx (argumentException (text "Source array was not long enough."))
    else
      set (pos + ln.toNat)
      readNull data
      return slice data pos ln.toNat

/-- The numbers of a piece of memory. -/
def valuesOf (p : Primitive) : Nat → Bytes → Values (.primitive p)
  | 0, _ => .nil
  | n + 1, bytes =>
      .cons (.primitive (BitVec.ofNat _ (numberOf e (bytes.take p.size))))
        (valuesOf p n (bytes.drop p.size))

/-- The fields of a piece of memory, if they are numbers. -/
def fieldsOf : (ts : List ClrType) → Bytes → Option (Fields ts)
  | [], _ => some .nil
  | .primitive p :: ts, bytes =>
      (fieldsOf ts (bytes.drop p.size)).map
        (.cons (.primitive (BitVec.ofNat _ (numberOf e (bytes.take p.size)))))
  | _ :: _, _ => none

/-- `DirectCopy`: the bytes that are copied, and a position that moves by
    `length * sof`, not by `length`. -/
def directCopy (sof length : Nat) : Reader Bytes := do
  let pos ← get
  if data.length < pos + length then
    -- `Marshal.Copy`, or the first byte that is not there
    throwEx (if e.isNative then .argumentOutOfRange else .indexOutOfRange)
  else
    set (pos + length * sof)
    return slice data pos length

/-- `MarshalArray<T>`. -/
def marshalArray (p : Primitive) (length : Nat) : Reader (Values (.primitive p)) := do
  let pos ← get
  if e.isNative then
    -- `Buffer.BlockCopy`
    if length % p.size ≠ 0 ∨ data.length < pos + length then
      throwEx (argumentException
        (text "Offset and length were out of bounds for the array"))
    else
      set (pos + length)
      return valuesOf e p (length / p.size) (slice data pos length)
  else if length % p.size ≠ 0 ∧ pos + length / p.size * p.size < data.length then throw .overrun
  else
    let bytes ← directCopy e data p.size length
    return valuesOf e p (length / p.size) bytes

/-- `MarshalBoolArray`: `length` elements, where `length` counts bytes. -/
def marshalBoolArray : Nat → Reader (Values .boolean)
  | 0 => return .nil
  | n + 1 => do
      let b ← readBoolean e data
      let bs ← marshalBoolArray n
      return .cons (.boolean b) bs

/-- The length of an array or dictionary and the padding behind it. -/
def readLength (kind : Text) (alignment : Nat) : Reader Nat := do
  let ln ← unmarshal e data 4
  if maxArrayLength < ln then throwEx (MessageWriter.lengthException kind ln)
  else
    readPad data alignment
    return ln

/-- The head of `ReadArray<T>`. -/
def readArrayLength (elemType : ClrType) : Reader Nat := do
  let alignment ← liftEx (getAlignment elemType.toDType)
  readLength e data (text "Array") alignment

/-- The check behind the loops. -/
def checkEnd (endPos : Nat) : Reader PUnit := do
  let pos ← get
  if pos ≠ endPos then
    throwEx (exception (text "Read pos " ++ decimal pos ++ text " != ep " ++ decimal endPos))
  else return

end Bytes

/-! ## §2. Values. -/

section Values

/- `EqualityComparer<TKey>.Default`, by which a dictionary finds a key. -/
variable (sameKey : {k : ClrType} → Value k → Value k → Bool) (e : Endian) (data : Bytes)

mutual

/-- `ReadValue (type)`. -/
def readValue : Nat → (t : ClrType) → Reader (Value t)
  | 0, _ => throw .unfinished
  | _ + 1, .primitive p => do
      let bits ← readPrimitive e data p
      return .primitive bits
  | _ + 1, .boolean => do
      let b ← readBoolean e data
      return .boolean b
  | _ + 1, .string => do
      let s ← readString e data
      return .string s
  | _ + 1, .objectPath => do
      let path ← readObjectPath e data
      return .objectPath path
  | _ + 1, .signature => do
      let sig ← readSignature data
      return .signature (some sig)
  -- `ReadVariant`
  | n + 1, .object => do
      let sig ← readSignature data
      let single ← liftEx (isSingleCompleteType sig)
      if single = false then
        throwEx (.other (text "System.InvalidOperationException")
          (text "ReadVariant need a single complete type signature, " ++ asciiText sig
            ++ text " was given"))
      else
        let type ← liftEx (signatureToType sig)
        readBoxed n type
  -- `ReadArray<T>`
  | _ + 1, .array (.primitive p) => do
      let ln ← readArrayLength e data (.primitive p)
      let vs ← marshalArray e data p ln
      return .array vs
  | _ + 1, .array .boolean => do
      let ln ← readArrayLength e data .boolean
      let vs ← marshalBoolArray e data ln
      return .array vs
  | n + 1, .array t => do
      let ln ← readArrayLength e data t
      let endPos := (← get) + ln
      let vs ← readElements n t endPos
      checkEnd endPos
      return .array vs
  -- `ReadDictionary<TKey, TValue>`
  | n + 1, .dictionary k v => do
      let ln ← readLength e data (text "Dict") 8
      let endPos := (← get) + ln
      let es ← readEntries n k v endPos []
      checkEnd endPos
      return .dictionary es
  -- `ReadStruct`
  | n + 1, .struct ts => do
      readPad data 8
      if ts.length = 0 then
        let fs ← readFields n ts
        return .struct fs
      else if ClrType.isEligibleStruct ts then
        -- `MarshalStruct`
        let sof := ((ts.head?.bind ClrType.asPrimitive).map Primitive.size).getD 0
        let bytes ← directCopy e data sof (ts.length * sof)
        match fieldsOf e ts bytes with
        | some fs => return .struct fs
        | none => throw .unfinished
      else
        let fs ← readFields n ts
        return .struct fs
  | _ + 1, .keyValuePair => do
      readPad data 8
      -- `Activator.CreateInstance` of the open generic type
      throwEx (argumentException (text "Cannot create an instance of an open generic type."))

/-- A value of a type that has been read; boxing twice is boxing once. -/
def readBoxed : Nat → ClrType → Reader (Value .object)
  | 0, _ => throw .unfinished
  | n + 1, t => do
      let v ← readValue n t
      match t, v with
      | .object, v => return v
      | .primitive _, v | .boolean, v | .string, v | .objectPath, v | .signature, v
      | .array _, v | .dictionary _ _, v | .struct _, v | .keyValuePair, v => return .object v rfl

/-- The loop of `ReadArray`. -/
def readElements : Nat → (t : ClrType) → Nat → Reader (Values t)
  | 0, _, _ => throw .unfinished
  | n + 1, t, endPos => do
      let pos ← get
      if pos < endPos then
        let v ← readValue n t
        let vs ← readElements n t endPos
        return .cons v vs
      else return .nil

/-- The loop of `ReadDictionary`, with the keys added so far. -/
def readEntries : Nat → (k v : ClrType) → Nat → List (Value k) → Reader (Entries k v)
  | 0, _, _, _, _ => throw .unfinished
  | n + 1, k, v, endPos, keys => do
      let pos ← get
      if pos < endPos then
        readPad data 8
        let key ← readValue n k
        let value ← readValue n v
        if keys.any (sameKey key) then
          throwEx (argumentException (text "An item with the same key has already been added."))
        else
          let es ← readEntries n k v endPos (key :: keys)
          return .cons key value es
      else return .nil

/-- The fields of a structure, one after the other. -/
def readFields : Nat → (ts : List ClrType) → Reader (Fields ts)
  | 0, _ => throw .unfinished
  | _ + 1, [] => return .nil
  | n + 1, t :: ts => do
      let v ← readValue n t
      let fs ← readFields n ts
      return .cons v fs

end

end Values

end MessageReader

end SapDbLib
