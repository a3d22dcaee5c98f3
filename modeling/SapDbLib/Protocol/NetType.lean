/-
  SapDbLib.Protocol.NetType — THE TYPES OF A PROGRAM AND THEIR SIGNATURES.

  A program that sends values has more types than a message: enumerations,
  `char`, classes and structures of its own, `IDictionary`, and interfaces
  that are exported.  `GetSig` gives each of them a signature, and `ToType`
  comes back with one type for all that share it.

    * `NetType.wire` — the type that `ToType` has for a type of the program;
    * `NetType.getSig_wire` — **a type has the signature of its wire type**;
    * `type_of_signature` — **the wire type is what can be read off the
      signature**, and the types that have the signature are those with that
      wire type.
-/
import SapDbLib.Protocol.TypeSignature

namespace SapDbLib

open Library ProtocolInformation

/-! ## §1. Types. -/

/-- The types with `IsPrimitive`. -/
inductive PrimitiveType where
  | boolean
  | char
  | sbyte
  | byte
  | int16
  | uint16
  | int32
  | uint32
  | int64
  | uint64
  | single
  | double
  | intPtr
  | uintPtr
  deriving DecidableEq, Repr

/-- `TypeCodeToDType (Type.GetTypeCode (type))`: the type code of a pointer is
    `TypeCode.Object`. -/
def PrimitiveType.toDType : PrimitiveType → DType
  | .boolean => .boolean
  | .char => .uint16
  | .sbyte => .byte
  | .byte => .byte
  | .int16 => .int16
  | .uint16 => .uint16
  | .int32 => .int32
  | .uint32 => .uint32
  | .int64 => .int64
  | .uint64 => .uint64
  | .single => .single
  | .double => .double
  | .intPtr | .uintPtr => .invalid

/-- A type of a program, as far as `GetSig` looks at it.  Types of a kind are
    told apart by their names. -/
inductive NetType where
  | void
  | string
  | objectPath
  | signature
  | object
  | primitive (p : PrimitiveType)
  | enum (name : Text) (underlying : PrimitiveType)
  | array (element : NetType)
  /-- `Dictionary<,>` -/
  | dictionary (key value : NetType)
  /-- `IDictionary<,>` -/
  | idictionary (key value : NetType)
  /-- A type that `Mapper.IsPublic` finds exported. -/
  | exported (name : Text)
  /-- `DBusStruct<…>` -/
  | dbusStruct (items : List NetType)
  /-- Any other class or structure, with the types of its instance fields. -/
  | composite (name : Text) (fields : List NetType)
  deriving Repr

namespace NetType

mutual

/-- `GetSig` of a type. -/
def getSig : NetType → Except CSharpException Bytes
  | .signature => .ok [DType.signature.code]
  | .objectPath => .ok [DType.objectPath.code]
  | .void => .ok []
  | .string => .ok [DType.string.code]
  | .object => .ok [DType.variant.code]
  | .array t => do makeArray (← t.getSig)
  | .dictionary k v | .idictionary k v => do makeDict (← k.getSig) (← v.getSig)
  | .exported _ => .ok [DType.objectPath.code]
  | .dbusStruct ts | .composite _ ts => do makeStruct (← getSigs ts)
  -- `TypeToDType` takes the underlying type of an enumeration
  | .primitive p | .enum _ p => .ok [p.toDType.code]

/-- `GetSig` of some types, one after the other. -/
def getSigs : List NetType → Except CSharpException Bytes
  | [] => .ok []
  | t :: ts => do return (← t.getSig) ++ (← getSigs ts)

end

end NetType

/-! ## §2. What they are in a message. -/

/-- The type that is sent for a primitive type. -/
def PrimitiveType.wire : PrimitiveType → Option ClrType
  | .boolean => some .boolean
  | .char => some (.primitive .uint16)
  | .sbyte => some (.primitive .byte)
  | .byte => some (.primitive .byte)
  | .int16 => some (.primitive .int16)
  | .uint16 => some (.primitive .uint16)
  | .int32 => some (.primitive .int32)
  | .uint32 => some (.primitive .uint32)
  | .int64 => some (.primitive .int64)
  | .uint64 => some (.primitive .uint64)
  | .single => some (.primitive .single)
  | .double => some (.primitive .double)
  | .intPtr | .uintPtr => none

namespace NetType

mutual

/-- The type that stands in messages for a type: structures are their fields,
    enumerations their numbers, exported objects their paths.  Nothing stands
    for `void` and for pointers. -/
def wire : NetType → Option ClrType
  | .void => none
  | .string => some .string
  | .objectPath | .exported _ => some .objectPath
  | .signature => some .signature
  | .object => some .object
  | .primitive p | .enum _ p => p.wire
  | .array t => t.wire.map .array
  | .dictionary k v | .idictionary k v => do return .dictionary (← k.wire) (← v.wire)
  | .dbusStruct ts | .composite _ ts => (wires ts).map .struct

/-- The same of some types. -/
def wires : List NetType → Option (List ClrType)
  | [] => some []
  | t :: ts => do return (← t.wire) :: (← wires ts)

end

theorem getSig_primitive {p : PrimitiveType} {w : ClrType} (h : p.wire = some w) :
    (.ok [p.toDType.code] : Except CSharpException Bytes) = SapDbLib.getSig w := by
  cases p <;> cases h <;> rfl

theorem getSig_structure {ts : List NetType} {w : ClrType}
    (h : (wires ts).map ClrType.struct = some w)
    (hts : ∀ ws, wires ts = some ws → getSigs ts = SapDbLib.getSigs ws) :
    (do makeStruct (← getSigs ts)) = SapDbLib.getSig w := by
  obtain ⟨ws, hws, rfl⟩ := Option.map_eq_some_iff.mp h
  rw [SapDbLib.getSig, hts ws hws]

theorem getSig_pair {k v : NetType} {w : ClrType}
    (h : (do return ClrType.dictionary (← k.wire) (← v.wire)) = some w)
    (hk : ∀ wk, k.wire = some wk → k.getSig = SapDbLib.getSig wk)
    (hv : ∀ wv, v.wire = some wv → v.getSig = SapDbLib.getSig wv) :
    (do makeDict (← k.getSig) (← v.getSig)) = SapDbLib.getSig w := by
  obtain ⟨wk, hwk, h⟩ := Option.bind_eq_some_iff.mp h
  obtain ⟨wv, hwv, h⟩ := Option.bind_eq_some_iff.mp h
  cases h
  rw [SapDbLib.getSig, hk wk hwk, hv wv hwv]

mutual

/-- **A type has the signature of its wire type.** -/
theorem getSig_wire : (t : NetType) → {w : ClrType} → t.wire = some w →
    t.getSig = SapDbLib.getSig w
  | .void, _, h => by cases h
  | .string, _, h | .objectPath, _, h | .exported _, _, h | .signature, _, h | .object, _, h => by
      cases h
      rfl
  | .primitive _, _, h | .enum _ _, _, h => getSig_primitive h
  | .array t, _, h => by
      obtain ⟨w, hw, rfl⟩ := Option.map_eq_some_iff.mp h
      rw [getSig, SapDbLib.getSig, getSig_wire t hw]
  | .dictionary k v, _, h | .idictionary k v, _, h =>
      getSig_pair h (fun _ hk => getSig_wire k hk) fun _ hv => getSig_wire v hv
  | .dbusStruct ts, _, h | .composite _ ts, _, h =>
      getSig_structure h fun _ hws => getSigs_wires ts hws

theorem getSigs_wires : (ts : List NetType) → {ws : List ClrType} → wires ts = some ws →
    getSigs ts = SapDbLib.getSigs ws
  | [], _, h => by
      cases h
      rfl
  | t :: ts, _, h => by
      obtain ⟨w, hw, h⟩ := Option.bind_eq_some_iff.mp h
      obtain ⟨ws, hws, h⟩ := Option.bind_eq_some_iff.mp h
      cases h
      rw [getSigs, SapDbLib.getSigs, getSig_wire t hw, getSigs_wires ts hws]

end

end NetType

/-! ## §3. The types that `ToType` makes. -/

/-- The type of .NET that a primitive type is. -/
def Primitive.toNet : Primitive → PrimitiveType
  | .byte => .byte
  | .int16 => .int16
  | .uint16 => .uint16
  | .int32 => .int32
  | .uint32 => .uint32
  | .int64 => .int64
  | .uint64 => .uint64
  | .single => .single
  | .double => .double

mutual

/-- The type of .NET that `ToType` makes: of a structure a `DBusStruct`. -/
def ClrType.toNet : ClrType → NetType
  | .primitive p => .primitive p.toNet
  | .boolean => .primitive .boolean
  | .string => .string
  | .objectPath => .objectPath
  | .signature => .signature
  | .object => .object
  | .array t => .array t.toNet
  | .dictionary k v => .dictionary k.toNet v.toNet
  | .struct ts => .dbusStruct (ClrType.toNets ts)
  | .keyValuePair => .composite (text "KeyValuePair<,>") []

/-- The same of some types. -/
def ClrType.toNets : List ClrType → List NetType
  | [] => []
  | t :: ts => t.toNet :: ClrType.toNets ts

end

mutual

/-- Such a type is its own wire type. -/
theorem ClrType.wire_toNet {ok : Nat → Bool} : (t : ClrType) → t.fieldsOk ok = true →
    t.toNet.wire = some t
  | .primitive p, _ => by cases p <;> rfl
  | .boolean, _ | .string, _ | .objectPath, _ | .signature, _ | .object, _ => rfl
  | .array t, h => by
      rw [ClrType.toNet, NetType.wire, t.wire_toNet h]
      rfl
  | .dictionary k v, h => by
      rw [ClrType.fieldsOk, Bool.and_eq_true] at h
      rw [ClrType.toNet, NetType.wire, k.wire_toNet h.1, v.wire_toNet h.2]
      rfl
  | .struct ts, h => by
      rw [ClrType.fieldsOk, Bool.and_eq_true] at h
      rw [ClrType.toNet, NetType.wire, ClrType.wires_toNets ts h.2]
      rfl

theorem ClrType.wires_toNets {ok : Nat → Bool} : (ts : List ClrType) →
    ClrType.allFieldsOk ok ts = true → NetType.wires (ClrType.toNets ts) = some ts
  | [], _ => rfl
  | t :: ts, h => by
      rw [ClrType.allFieldsOk, Bool.and_eq_true] at h
      rw [ClrType.toNets, NetType.wires, t.wire_toNet h.1, ClrType.wires_toNets ts h.2]
      rfl

end

/-- **A type and its signature say the same up to the wire type**: the type has
    a signature, which the checker accepts; what is read off it is the wire
    type; and a type has that signature exactly if it has that wire type, as
    the type that was read has itself. -/
theorem type_of_signature {t : NetType} {w : ClrType} (hwire : t.wire = some w)
    (h : w.isDynamic = true) :
    ∃ sig, t.getSig = .ok sig ∧ isSingleCompleteType sig = .ok true
      ∧ signatureToType sig = .ok w ∧ w.toNet.wire = some w
      ∧ ∀ (u : NetType) (w' : ClrType), u.wire = some w' → w'.isDynamic = true →
        (u.getSig = .ok sig ↔ w' = w) := by
  have hsig : t.getSig = .ok w.code := by
    rw [t.getSig_wire hwire]
    exact getSig_of_signable w (ClrType.isSignable_of_isDynamic h)
  refine ⟨w.code, hsig, isSingleCompleteType_code w, signatureToType_code h,
    w.wire_toNet h, ?_⟩
  intro u w' hu hw'
  rw [u.getSig_wire hu, getSig_eq_ok]
  constructor
  · intro hcode
    -- both types are what is read off the signature
    have hback := signatureToType_code hw'
    rw [← hcode.2, signatureToType_code h, Except.ok.injEq] at hback
    exact hback.symm
  · intro heq
    rw [heq]
    exact ⟨ClrType.isSignable_of_isDynamic h, rfl⟩

/-- The fields of a message header: an array of `FieldCodeEntry`. -/
theorem type_of_signature_fields :
    ∃ sig, (NetType.array (.composite (text "FieldCodeEntry")
          [.primitive .byte, .object])).getSig = .ok sig
      ∧ isSingleCompleteType sig = .ok true
      ∧ signatureToType sig = .ok (.array (.struct [.primitive .byte, .object]))
      ∧ (ClrType.array (.struct [.primitive .byte, .object])).toNet.wire
        = some (.array (.struct [.primitive .byte, .object]))
      ∧ ∀ (u : NetType) (w' : ClrType), u.wire = some w' → w'.isDynamic = true →
        (u.getSig = .ok sig ↔ w' = .array (.struct [.primitive .byte, .object])) :=
  type_of_signature rfl rfl

end SapDbLib
