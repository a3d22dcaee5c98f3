/-
  SapDbLib.Protocol.DType — THE TYPES OF THE WIRE AND OF THE PROGRAM.

  `DType` are the type codes of D-Bus signatures, `ClrType` the .NET types
  that dbus-sharp reads and writes.  Sizes, alignments and limits are those of
  `ProtocolInformation`; `ClrType.toDType` is `Signature.TypeToDType`.

  The byte order of a message is a flag that any byte can be cast to: the
  library only asks whether it is the machine's own (`wireOrder`).
-/
import SapDbLib.Rfc
import SapDbLib.Library.Bytes
import SapDbLib.Library.Decimal

namespace SapDbLib

open Library

/-! ## §1. Exceptions and limits. -/

/-- `System.Exception`. -/
def exception (message : Text) : CSharpException := .other (text "System.Exception") message

/-- `System.ArgumentException`. -/
def argumentException (message : Text) : CSharpException :=
  .other (text "System.ArgumentException") message

/-- `System.NotSupportedException`. -/
def notSupportedException (message : Text) : CSharpException :=
  .other (text "System.NotSupportedException") message

namespace ProtocolInformation

/-- 2 to the 27th power. -/
def maxMessageLength : Nat := 134217728

/-- 2 to the 26th power. -/
def maxArrayLength : Nat := 67108864

def maxSignatureLength : Nat := 255

/-- `PadNeeded`. -/
def padNeeded (pos alignment : Nat) : Nat :=
  if pos % alignment = 0 then 0 else alignment - pos % alignment

/-- `Padded`. -/
def padded (pos alignment : Nat) : Nat :=
  if pos % alignment ≠ 0 then pos + (alignment - pos % alignment) else pos

theorem padded_eq (pos alignment : Nat) : padded pos alignment = pos + padNeeded pos alignment := by
  unfold padded padNeeded
  split_ifs <;> omega

theorem padNeeded_one (pos : Nat) : padNeeded pos 1 = 0 := by
  rw [padNeeded, if_pos (Nat.mod_one pos)]

/-- Padding leads to a multiple of the alignment. -/
theorem padded_mod (pos : Nat) {alignment : Nat} (h : 0 < alignment) :
    padded pos alignment % alignment = 0 := by
  unfold padded
  split_ifs with hmod
  · have hlt := Nat.mod_lt pos h
    have hsplit := Nat.div_add_mod pos alignment
    have hsum : pos + (alignment - pos % alignment) = alignment * (pos / alignment + 1) := by
      rw [Nat.mul_add, Nat.mul_one]
      omega
    rw [hsum, Nat.mul_mod_right]
  · omega

theorem padNeeded_of_mod {pos alignment : Nat} (h : pos % alignment = 0) :
    padNeeded pos alignment = 0 := by
  rw [padNeeded, if_pos h]

/-- Only the offset from a multiple of the alignment counts. -/
theorem padNeeded_add_mul (pos k alignment : Nat) :
    padNeeded (pos + alignment * k) alignment = padNeeded pos alignment := by
  unfold padNeeded
  rw [Nat.add_mul_mod_self_left]

end ProtocolInformation

open ProtocolInformation

/-! ## §2. Byte order. -/

/-- `EndianFlag`: any byte can be cast to it. -/
abbrev EndianFlag := UInt8

namespace EndianFlag

/-- `'l'` -/
def little : EndianFlag := 108

/-- `'B'` -/
def big : EndianFlag := 66

end EndianFlag

/-- `Connection.NativeEndianness` on a machine of that byte order. -/
def nativeEndianness : ByteOrder → EndianFlag
  | .littleEndian => EndianFlag.little
  | .bigEndian => EndianFlag.big

/-- The byte order of a message with that flag: the machine's own, or else
    the other one, whatever the flag is. -/
def wireOrder (native : ByteOrder) (endianness : EndianFlag) : ByteOrder :=
  if endianness = nativeEndianness native then native else native.swap

/-- The two flags of the protocol mean the same on every machine. -/
theorem wireOrder_nativeEndianness (native other : ByteOrder) :
    wireOrder native (nativeEndianness other) = other := by
  cases native <;> cases other <;> rfl

/-! ## §3. Type codes. -/

/-- `DType`, with the bytes that name no member. -/
inductive DType where
  | invalid
  | byte
  | boolean
  | int16
  | uint16
  | int32
  | uint32
  | int64
  | uint64
  | single
  | double
  | string
  | objectPath
  | signature
  | array
  | variant
  | structBegin
  | structEnd
  | dictEntryBegin
  | dictEntryEnd
  | undefined (code : UInt8)
  deriving DecidableEq, Repr

namespace DType

/-- The members, with their codes and names. -/
def members : List (DType × UInt8 × Text) :=
  [(invalid, 0, text "Invalid"), (byte, 121, text "Byte"), (boolean, 98, text "Boolean"),
   (int16, 110, text "Int16"), (uint16, 113, text "UInt16"), (int32, 105, text "Int32"),
   (uint32, 117, text "UInt32"), (int64, 120, text "Int64"), (uint64, 116, text "UInt64"),
   (single, 102, text "Single"), (double, 100, text "Double"), (string, 115, text "String"),
   (objectPath, 111, text "ObjectPath"), (signature, 103, text "Signature"),
   (array, 97, text "Array"), (variant, 118, text "Variant"),
   (structBegin, 40, text "StructBegin"), (structEnd, 41, text "StructEnd"),
   (dictEntryBegin, 123, text "DictEntryBegin"), (dictEntryEnd, 125, text "DictEntryEnd")]

/-- `(byte)dtype` -/
def code : DType → UInt8
  | .undefined b => b
  | d => ((members.find? (·.1 == d)).map (·.2.1)).getD 0

/-- `(DType)b` -/
def ofByte (b : UInt8) : DType :=
  ((members.find? (·.2.1 == b)).map (·.1)).getD (.undefined b)

/-- `dtype.ToString ()` -/
def toText : DType → Text
  | .undefined b => decimal b.toNat
  | d => ((members.find? (·.1 == d)).map (·.2.2)).getD []

end DType

/-- `ProtocolInformation.GetAlignment`. -/
def getAlignment : DType → Except CSharpException Nat
  | .byte | .signature | .variant => .ok 1
  | .int16 | .uint16 => .ok 2
  | .boolean | .int32 | .uint32 | .single | .string | .objectPath | .array => .ok 4
  | .int64 | .uint64 | .double | .structBegin | .dictEntryBegin => .ok 8
  | d => .error (exception (text "Cannot determine alignment of " ++ d.toText))

/-! ## §4. The types of the program. -/

/-- The primitive types but `bool`. -/
inductive Primitive where
  | byte
  | int16
  | uint16
  | int32
  | uint32
  | int64
  | uint64
  | single
  | double
  deriving DecidableEq, Repr

namespace Primitive

/-- `TypeCodeToDType`. -/
def toDType : Primitive → DType
  | .byte => .byte
  | .int16 => .int16
  | .uint16 => .uint16
  | .int32 => .int32
  | .uint32 => .uint32
  | .int64 => .int64
  | .uint64 => .uint64
  | .single => .single
  | .double => .double

/-- `Marshal.SizeOf`. -/
def size : Primitive → Nat
  | .byte => 1
  | .int16 | .uint16 => 2
  | .int32 | .uint32 | .single => 4
  | .int64 | .uint64 | .double => 8

theorem size_pos (p : Primitive) : 0 < p.size := by cases p <;> decide

/-- Primitive types are aligned to their size. -/
theorem getAlignment_toDType (p : Primitive) : getAlignment p.toDType = .ok p.size := by
  cases p <;> rfl

end Primitive

/-- The types that are read and written, as far as reading and writing tell
    them apart: `struct` is any structure with fields of those types.
    `keyValuePair` is the open generic type `KeyValuePair<,>`, which has no
    values. -/
inductive ClrType where
  | primitive (p : Primitive)
  | boolean
  | string
  | objectPath
  | signature
  | object
  | array (element : ClrType)
  | dictionary (key value : ClrType)
  | struct (fields : List ClrType)
  | keyValuePair
  deriving Repr

namespace ClrType

/-- `typeof (object)`. -/
def isObject : ClrType → Bool
  | .object => true
  | _ => false

/-- `type.IsPrimitive && type != typeof (bool)`, with the type. -/
def asPrimitive : ClrType → Option Primitive
  | .primitive p => some p
  | _ => none

/-- `Signature.TypeToDType`: dictionaries pass for structures. -/
def toDType : ClrType → DType
  | .primitive p => p.toDType
  | .boolean => .boolean
  | .string => .string
  | .objectPath => .objectPath
  | .signature => .signature
  | .object => .variant
  | .array _ => .array
  | .dictionary _ _ | .struct _ | .keyValuePair => .structBegin

/-- The alignment of values of a type in the wire format. -/
def alignment : ClrType → Nat
  | .primitive p => p.size
  | .signature | .object => 1
  | .boolean | .string | .objectPath | .array _ | .dictionary _ _ => 4
  | .struct _ | .keyValuePair => 8

/-- `MessageReader.IsEligibleStruct` of a type with these fields: numbers of
    one size. -/
def isEligibleStruct : List ClrType → Bool
  | .primitive p :: fields =>
      fields.all fun t => match t.asPrimitive with
        | some q => q.size == p.size
        | none => false
  | _ => false

end ClrType

end SapDbLib
