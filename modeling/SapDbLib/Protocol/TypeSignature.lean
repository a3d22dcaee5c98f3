/-
  SapDbLib.Protocol.TypeSignature — FROM TYPES TO SIGNATURES AND BACK.

  `getSig` writes the signature of a type, with the checks of `MakeArray`,
  `MakeStruct` and `MakeDictEntry`; `toType` reads a type off a signature,
  for values whose type the reader does not know beforehand.  The way back
  makes a structure out of `DBusStruct`, which exists for one to seven
  fields.

    * `getSig_of_signable` — a type without empty structures has a signature,
      and the checker accepts it;
    * `toType_code` — **the signature of a type gives the type back**, if its
      structures have at most seven fields.
-/
import SapDbLib.Library.Stateful
import SapDbLib.Protocol.Signature

namespace SapDbLib

open Library ProtocolInformation

/-! ## §1. The signature of a type. -/

mutual

/-- The tree of a type. -/
def ClrType.tree : ClrType → SigTree
  | .primitive .byte => .basic .byte rfl
  | .primitive .int16 => .basic .int16 rfl
  | .primitive .uint16 => .basic .uint16 rfl
  | .primitive .int32 => .basic .int32 rfl
  | .primitive .uint32 => .basic .uint32 rfl
  | .primitive .int64 => .basic .int64 rfl
  | .primitive .uint64 => .basic .uint64 rfl
  | .primitive .single => .basic .single rfl
  | .primitive .double => .basic .double rfl
  | .boolean => .basic .boolean rfl
  | .string => .basic .string rfl
  | .objectPath => .basic .objectPath rfl
  | .signature => .basic .signature rfl
  | .object => .basic .variant rfl
  | .array t => .array t.tree
  | .dictionary k v => .array (.dictEntry k.tree v.tree)
  | .struct ts => .struct (ClrType.trees ts)
  -- the open generic type has no signature of its own
  | .keyValuePair => .struct []

/-- The trees of some types. -/
def ClrType.trees : List ClrType → List SigTree
  | [] => []
  | t :: ts => t.tree :: ClrType.trees ts

end

/-- The signature of a type, in the grammar. -/
def ClrType.code (t : ClrType) : Bytes := t.tree.code

/-- The signature of some types. -/
def ClrType.codes (ts : List ClrType) : Bytes := SigTree.codes (ClrType.trees ts)

theorem ClrType.code_primitive (p : Primitive) :
    (ClrType.primitive p).code = [p.toDType.code] := by
  cases p <;> rfl

theorem ClrType.code_ne_nil (t : ClrType) : t.code ≠ [] := t.tree.code_ne_nil

/-- `Encoding.ASCII.GetString`. -/
def asciiText (data : Bytes) : Text := data.map fun b => if b.toNat < 128 then b.toUInt16 else 63

/-- `MakeArray`. -/
def makeArray (signature : Bytes) : Except CSharpException Bytes := do
  if (← isSingleCompleteType signature) = false then
    throw (argumentException (text "The type of an array must be a single complete type"))
  return DType.array.code :: signature

/-- `MakeStruct`. -/
def makeStruct (signature : Bytes) : Except CSharpException Bytes := do
  if signature = [] then
    throw (argumentException (text "Cannot create a struct with no fields"))
  return DType.structBegin.code :: (signature ++ [DType.structEnd.code])

/-- `MakeDictEntry`. -/
def makeDictEntry (keyType valueType : Bytes) : Except CSharpException Bytes := do
  if (← isSingleCompleteType keyType) = false then
    throw (argumentException (text "Signature must be a single complete type"))
  if (← isSingleCompleteType valueType) = false then
    throw (argumentException (text "Signature must be a single complete type"))
  return DType.dictEntryBegin.code :: (keyType ++ valueType ++ [DType.dictEntryEnd.code])

/-- `MakeDict`. -/
def makeDict (keyType valueType : Bytes) : Except CSharpException Bytes := do
  makeArray (← makeDictEntry keyType valueType)

mutual

/-- `GetSig` of a type that is sent. -/
def getSig : ClrType → Except CSharpException Bytes
  | .primitive p => .ok [p.toDType.code]
  | .boolean => .ok [DType.boolean.code]
  | .string => .ok [DType.string.code]
  | .objectPath => .ok [DType.objectPath.code]
  | .signature => .ok [DType.signature.code]
  | .object => .ok [DType.variant.code]
  | .array t => do makeArray (← getSig t)
  | .dictionary k v => do makeDict (← getSig k) (← getSig v)
  | .struct ts => do makeStruct (← getSigs ts)
  -- its fields have the types `TKey` and `TValue`, which have no fields
  | .keyValuePair => makeStruct []

/-- `GetSig` of some types, one after the other. -/
def getSigs : List ClrType → Except CSharpException Bytes
  | [] => .ok []
  | t :: ts => do return (← getSig t) ++ (← getSigs ts)

end

mutual

/-- Every structure in the type has a number of fields that `ok` allows, and
    no part of it is the open generic type. -/
def ClrType.fieldsOk (ok : Nat → Bool) : ClrType → Bool
  | .array t => t.fieldsOk ok
  | .dictionary k v => k.fieldsOk ok && v.fieldsOk ok
  | .struct ts => ok ts.length && ClrType.allFieldsOk ok ts
  | .keyValuePair => false
  | _ => true

/-- The same of some types. -/
def ClrType.allFieldsOk (ok : Nat → Bool) : List ClrType → Bool
  | [] => true
  | t :: ts => t.fieldsOk ok && ClrType.allFieldsOk ok ts

end

/-- No empty structures: the types that have a signature. -/
def ClrType.isSignable (t : ClrType) : Bool := t.fieldsOk fun n => n != 0

/-- One to seven fields: the types that can be read off a signature. -/
def ClrType.isDynamic (t : ClrType) : Bool := t.fieldsOk fun n => n != 0 && n ≤ 7

mutual

theorem ClrType.fieldsOk_mono {ok ok' : Nat → Bool} (hok : ∀ n, ok n = true → ok' n = true) :
    (t : ClrType) → t.fieldsOk ok = true → t.fieldsOk ok' = true
  | .primitive _, h | .boolean, h | .string, h | .objectPath, h | .signature, h | .object, h => h
  | .keyValuePair, h => h
  | .array t, h => ClrType.fieldsOk_mono hok t h
  | .dictionary k v, h => by
      rw [ClrType.fieldsOk, Bool.and_eq_true] at h ⊢
      exact ⟨k.fieldsOk_mono hok h.1, v.fieldsOk_mono hok h.2⟩
  | .struct ts, h => by
      rw [ClrType.fieldsOk, Bool.and_eq_true] at h ⊢
      exact ⟨hok _ h.1, ClrType.allFieldsOk_mono hok ts h.2⟩

theorem ClrType.allFieldsOk_mono {ok ok' : Nat → Bool} (hok : ∀ n, ok n = true → ok' n = true) :
    (ts : List ClrType) → ClrType.allFieldsOk ok ts = true → ClrType.allFieldsOk ok' ts = true
  | [], h => h
  | t :: ts, h => by
      rw [ClrType.allFieldsOk, Bool.and_eq_true] at h ⊢
      exact ⟨t.fieldsOk_mono hok h.1, ClrType.allFieldsOk_mono hok ts h.2⟩

end

theorem ClrType.isSignable_of_isDynamic {t : ClrType} (h : t.isDynamic = true) :
    t.isSignable = true := by
  refine t.fieldsOk_mono ?_ h
  intro n hn
  exact (Bool.and_eq_true _ _ ▸ hn).1

/-- The checker accepts the code of a type. -/
theorem isSingleCompleteType_code (t : ClrType) : isSingleCompleteType t.code = .ok true :=
  isSingleCompleteType_tree t.tree

theorem makeArray_code (u : SigTree) : makeArray u.code = .ok (SigTree.array u).code := by
  rw [makeArray, isSingleCompleteType_tree]
  rfl

theorem makeDictEntry_code (k v : SigTree) :
    makeDictEntry k.code v.code = .ok (SigTree.dictEntry k v).code := by
  rw [makeDictEntry, isSingleCompleteType_tree, isSingleCompleteType_tree]
  rfl

mutual

/-- **A type without empty structures has a signature**, the one of the
    grammar. -/
theorem getSig_of_signable : (t : ClrType) → t.isSignable = true → getSig t = .ok t.code
  | .primitive p, _ => by rw [getSig, ClrType.code_primitive]
  | .boolean, _ | .string, _ | .objectPath, _ | .signature, _ | .object, _ => rfl
  | .array t, h => by
      rw [getSig, getSig_of_signable t h]
      exact makeArray_code t.tree
  | .dictionary k v, h => by
      rw [ClrType.isSignable, ClrType.fieldsOk, Bool.and_eq_true] at h
      rw [getSig, getSig_of_signable k h.1, getSig_of_signable v h.2]
      show makeDict k.code v.code = _
      rw [makeDict, ClrType.code, ClrType.code, makeDictEntry_code]
      exact makeArray_code _
  | .struct ts, h => by
      rw [ClrType.isSignable, ClrType.fieldsOk, Bool.and_eq_true] at h
      rw [getSig, getSigs_of_signable ts h.2]
      show makeStruct (ClrType.codes ts) = _
      have hne : ClrType.codes ts ≠ [] := by
        cases ts with
        | nil => simp at h
        | cons t ts => simp [ClrType.codes, ClrType.trees, SigTree.codes, t.tree.code_ne_nil]
      rw [makeStruct, if_neg hne]
      rfl

theorem getSigs_of_signable : (ts : List ClrType) →
    ClrType.allFieldsOk (fun n => n != 0) ts = true → getSigs ts = .ok (ClrType.codes ts)
  | [], _ => rfl
  | t :: ts, h => by
      rw [ClrType.allFieldsOk, Bool.and_eq_true] at h
      rw [getSigs, getSig_of_signable t h.1, getSigs_of_signable ts h.2]
      rfl

end

mutual

/-- Only such a type has a signature. -/
theorem isSignable_of_getSig : (t : ClrType) → {sig : Bytes} → getSig t = .ok sig →
    t.isSignable = true
  | .primitive _, _, _ | .boolean, _, _ | .string, _, _ | .objectPath, _, _
  | .signature, _, _ | .object, _, _ => rfl
  | .array t, _, h => by
      rw [getSig] at h
      obtain ⟨s, hs, -⟩ := bind_eq_ok.mp h
      exact isSignable_of_getSig t hs
  | .dictionary k v, _, h => by
      rw [getSig] at h
      obtain ⟨sk, hk, h⟩ := bind_eq_ok.mp h
      obtain ⟨sv, hv, -⟩ := bind_eq_ok.mp h
      rw [ClrType.isSignable, ClrType.fieldsOk, Bool.and_eq_true]
      exact ⟨isSignable_of_getSig k hk, isSignable_of_getSig v hv⟩
  | .struct ts, _, h => by
      rw [getSig] at h
      obtain ⟨s, hs, h⟩ := bind_eq_ok.mp h
      rw [ClrType.isSignable, ClrType.fieldsOk, Bool.and_eq_true]
      refine ⟨?_, allSignable_of_getSigs ts hs⟩
      cases ts with
      | nil =>
          -- no fields, no signature
          rw [getSigs] at hs
          cases hs
          cases h
      | cons t ts => rfl
  | .keyValuePair, _, h => by cases h

theorem allSignable_of_getSigs : (ts : List ClrType) → {sig : Bytes} → getSigs ts = .ok sig →
    ClrType.allFieldsOk (fun n => n != 0) ts = true
  | [], _, _ => rfl
  | t :: ts, _, h => by
      rw [getSigs] at h
      obtain ⟨s, hs, h⟩ := bind_eq_ok.mp h
      obtain ⟨ss, hss, -⟩ := bind_eq_ok.mp h
      rw [ClrType.allFieldsOk, Bool.and_eq_true]
      exact ⟨isSignable_of_getSig t hs, allSignable_of_getSigs ts hss⟩

end

/-- **When a type has a signature**, and which. -/
theorem getSig_eq_ok {t : ClrType} {sig : Bytes} :
    getSig t = .ok sig ↔ t.isSignable = true ∧ sig = t.code := by
  constructor
  · intro h
    have hsign := isSignable_of_getSig t h
    rw [getSig_of_signable t hsign, Except.ok.injEq] at h
    exact ⟨hsign, h.symm⟩
  · intro h
    rw [h.2]
    exact getSig_of_signable t h.1

/-! ## §2. The type of a signature. -/

/-- `DBusStruct.FromInnerTypes`. -/
def fromInnerTypes (innerTypes : List ClrType) : Except CSharpException ClrType :=
  if innerTypes.length = 0 ∨ 7 < innerTypes.length then
    .error (notSupportedException (text "Can't create a valid type for the provided signature"))
  else .ok (.struct innerTypes)

mutual

/-- `ToType (ref pos)`: the type at a position and the position behind it.
    Every call moves on, and there is nothing to read behind the end, so twice
    the number of unread bytes bounds the depth of the calls. -/
def toType : Nat → Bytes → Nat → Except CSharpException (ClrType × Nat)
  | 0, _, _ => .error .indexOutOfRange
  | n + 1, data, pos =>
      match data[pos]? with
      | none => .error .indexOutOfRange
      | some b =>
          match DType.ofByte b with
          | .byte => .ok (.primitive .byte, pos + 1)
          | .boolean => .ok (.boolean, pos + 1)
          | .int16 => .ok (.primitive .int16, pos + 1)
          | .uint16 => .ok (.primitive .uint16, pos + 1)
          | .int32 => .ok (.primitive .int32, pos + 1)
          | .uint32 => .ok (.primitive .uint32, pos + 1)
          | .int64 => .ok (.primitive .int64, pos + 1)
          | .uint64 => .ok (.primitive .uint64, pos + 1)
          | .single => .ok (.primitive .single, pos + 1)
          | .double => .ok (.primitive .double, pos + 1)
          | .string => .ok (.string, pos + 1)
          | .objectPath => .ok (.objectPath, pos + 1)
          | .signature => .ok (.signature, pos + 1)
          | .array =>
              -- peek to see if this is in fact a dictionary
              match data[pos + 1]? with
              | none => .error .indexOutOfRange
              | some c =>
                  if DType.ofByte c = .dictEntryBegin then do
                    let (keyType, pos) ← toType n data (pos + 2)
                    let (valueType, pos) ← toType n data pos
                    -- skip over the `}` without a look at it
                    return (.dictionary keyType valueType, pos + 1)
                  else do
                    let (elementType, pos) ← toType n data (pos + 1)
                    return (.array elementType, pos)
          | .structBegin => do
              let (innerTypes, pos) ← toInnerTypes n data (pos + 1)
              return (← fromInnerTypes innerTypes, pos)
          | .dictEntryBegin => .ok (.keyValuePair, pos + 1)
          | .variant => .ok (.object, pos + 1)
          | d => .error (notSupportedException
              (text "Parsing or converting this signature is not yet supported (signature was '"
                ++ asciiText data ++ text "'), at DType." ++ d.toText))

/-- The loop over the fields of a structure. -/
def toInnerTypes : Nat → Bytes → Nat → Except CSharpException (List ClrType × Nat)
  | 0, _, _ => .error .indexOutOfRange
  | n + 1, data, pos =>
      match data[pos]? with
      | none => .error .indexOutOfRange
      | some b =>
          if DType.ofByte b = .structEnd then .ok ([], pos + 1)
          else do
            let (type, pos) ← toType n data pos
            let (innerTypes, pos) ← toInnerTypes n data pos
            return (type :: innerTypes, pos)

end

/-- `ToType ()`. -/
def signatureToType (data : Bytes) : Except CSharpException ClrType := do
  let (ret, pos) ← toType (2 * data.length) data 0
  if pos ≠ data.length then
    throw (exception (text "Signature '" ++ asciiText data
      ++ text "' is not a single complete type"))
  return ret

theorem ClrType.tree_head_ne_dictEntryBegin (t : ClrType) : t.tree.head ≠ .dictEntryBegin := by
  cases t with
  | primitive p => cases p <;> exact DType.noConfusion
  | _ => exact DType.noConfusion

mutual

/-- **The signature of a type gives the type back.** -/
theorem toType_code {data : Bytes} : (t : ClrType) → {n pos : Nat} → HasAt data pos t.code →
    t.isDynamic = true → 2 * t.code.length ≤ n →
    toType n data pos = .ok (t, pos + t.code.length)
  | .primitive p, n, pos, hat, _, hn => by
      rw [ClrType.code_primitive] at hat hn ⊢
      obtain ⟨m, rfl⟩ : ∃ m, n = m + 1 := ⟨n - 1, by simp only [List.length_singleton] at hn; omega⟩
      rw [toType, hat.getElem?]
      cases p <;> rfl
  | .boolean, n, pos, hat, _, hn | .string, n, pos, hat, _, hn | .objectPath, n, pos, hat, _, hn
  | .signature, n, pos, hat, _, hn | .object, n, pos, hat, _, hn => by
      have hone : 2 * 1 ≤ n := hn
      obtain ⟨m, rfl⟩ : ∃ m, n = m + 1 := ⟨n - 1, by omega⟩
      rw [toType, HasAt.getElem? hat]
      rfl
  | .array t, n, pos, hat, hdyn, hn => by
      have hcode : (ClrType.array t).code = DType.array.code :: t.code := rfl
      rw [hcode, List.length_cons] at hn ⊢
      rw [hcode] at hat
      obtain ⟨m, rfl⟩ : ∃ m, n = m + 1 := ⟨n - 1, by omega⟩
      obtain ⟨hb, hrest⟩ := hasAt_cons.mp hat
      -- an element type does not begin with the brace of a dictionary entry
      have hnext : data[pos + 1]? = some t.tree.head.code := by
        rw [ClrType.code, t.tree.code_eq] at hrest
        exact hrest.getElem?
      have hbrace : ¬ DType.ofByte t.tree.head.code = .dictEntryBegin := by
        rw [t.tree.ofByte_head]
        exact t.tree_head_ne_dictEntryBegin
      rw [toType, hb]
      show (match data[pos + 1]? with
        | none => _
        | some c => _) = _
      rw [hnext]
      dsimp only
      rw [if_neg hbrace, toType_code t hrest hdyn (by omega)]
      show Except.ok (ClrType.array t, pos + 1 + t.code.length) = _
      rw [Nat.add_assoc, Nat.add_comm 1]
  | .dictionary k v, n, pos, hat, hdyn, hn => by
      have hcode : (ClrType.dictionary k v).code = DType.array.code
          :: DType.dictEntryBegin.code :: (k.code ++ v.code ++ [DType.dictEntryEnd.code]) := rfl
      have hlen : (ClrType.dictionary k v).code.length = k.code.length + v.code.length + 3 := by
        rw [hcode]
        simp only [List.length_cons, List.length_append, List.length_nil]
      rw [hlen] at hn ⊢
      rw [hcode] at hat
      rw [ClrType.isDynamic, ClrType.fieldsOk, Bool.and_eq_true] at hdyn
      obtain ⟨m, rfl⟩ : ∃ m, n = m + 1 := ⟨n - 1, by omega⟩
      obtain ⟨hb, hrest⟩ := hasAt_cons.mp hat
      obtain ⟨hnext, hentry⟩ := hasAt_cons.mp hrest
      obtain ⟨hk, hv⟩ := hasAt_append.mp (hasAt_append.mp hentry).1
      rw [toType, hb]
      show (match data[pos + 1]? with
        | none => _
        | some c => _) = _
      rw [hnext]
      dsimp only
      rw [if_pos (by decide), toType_code k hk hdyn.1 (by omega)]
      dsimp only [bind, Except.bind]
      rw [toType_code v hv hdyn.2 (by omega)]
      show Except.ok (ClrType.dictionary k v, pos + 1 + 1 + k.code.length + v.code.length + 1) = _
      congr 2
      omega
  | .struct ts, n, pos, hat, hdyn, hn => by
      have hcode : (ClrType.struct ts).code = DType.structBegin.code
          :: (ClrType.codes ts ++ [DType.structEnd.code]) := rfl
      have hlen : (ClrType.struct ts).code.length = (ClrType.codes ts).length + 2 := by
        rw [hcode]
        simp only [List.length_cons, List.length_append, List.length_nil]
      rw [hlen] at hn ⊢
      rw [hcode] at hat
      rw [ClrType.isDynamic, ClrType.fieldsOk, Bool.and_eq_true, Bool.and_eq_true] at hdyn
      obtain ⟨m, rfl⟩ : ∃ m, n = m + 1 := ⟨n - 1, by omega⟩
      obtain ⟨hb, hrest⟩ := hasAt_cons.mp hat
      have hcount : ¬ (ts.length = 0 ∨ 7 < ts.length) := by
        have h0 := hdyn.1.1
        have h7 := hdyn.1.2
        simp only [bne_iff_ne, ne_eq, decide_eq_true_eq] at h0 h7
        omega
      rw [toType, hb]
      show (toInnerTypes m data (pos + 1) >>= _) = _
      rw [toInnerTypes_code ts hrest hdyn.2 (by omega)]
      show (fromInnerTypes ts >>= _) = _
      rw [fromInnerTypes, if_neg hcount]
      show Except.ok (ClrType.struct ts, pos + 1 + (ClrType.codes ts).length + 1) = _
      congr 2
      omega

theorem toInnerTypes_code {data : Bytes} : (ts : List ClrType) → {n pos : Nat} →
    HasAt data pos (ClrType.codes ts ++ [DType.structEnd.code]) →
    ClrType.allFieldsOk (fun n => n != 0 && n ≤ 7) ts = true →
    2 * (ClrType.codes ts).length + 1 ≤ n →
    toInnerTypes n data pos = .ok (ts, pos + (ClrType.codes ts).length + 1)
  | [], n, pos, hat, _, hn => by
      obtain ⟨m, rfl⟩ : ∃ m, n = m + 1 := ⟨n - 1, by omega⟩
      have hb : data[pos]? = some DType.structEnd.code := hat.getElem?
      rw [toInnerTypes, hb]
      rfl
  | t :: ts, n, pos, hat, hdyn, hn => by
      have hcode : ClrType.codes (t :: ts) = t.code ++ ClrType.codes ts := rfl
      rw [hcode, List.length_append] at hn ⊢
      rw [hcode, List.append_assoc] at hat
      rw [ClrType.allFieldsOk, Bool.and_eq_true] at hdyn
      obtain ⟨m, rfl⟩ : ∃ m, n = m + 1 := ⟨n - 1, by omega⟩
      obtain ⟨ht, hrest⟩ := hasAt_append.mp hat
      have hpos : 0 < t.code.length := List.length_pos_of_ne_nil t.code_ne_nil
      have hb : data[pos]? = some t.tree.head.code := by
        rw [ClrType.code, t.tree.code_eq] at ht
        exact ht.getElem?
      have hfirst : ¬ DType.ofByte t.tree.head.code = .structEnd := by
        rw [t.tree.ofByte_head]
        exact t.tree.head_ne_structEnd
      rw [toInnerTypes, hb]
      dsimp only
      rw [if_neg hfirst, toType_code t ht hdyn.1 (by omega)]
      dsimp only [bind, Except.bind]
      rw [toInnerTypes_code ts hrest hdyn.2 (by omega)]
      show Except.ok (t :: ts, pos + t.code.length + (ClrType.codes ts).length + 1) = _
      rw [Nat.add_assoc pos]

end

/-- A whole signature gives its type. -/
theorem signatureToType_code {t : ClrType} (h : t.isDynamic = true) :
    signatureToType t.code = .ok t := by
  have hat : HasAt t.code 0 t.code := List.prefix_rfl
  rw [signatureToType, toType_code t hat h (Nat.le_refl _)]
  show (if 0 + t.code.length ≠ t.code.length then _ else _) = _
  rw [if_neg (by omega)]
  rfl

end SapDbLib
