/-
  SapDbLib.Protocol.Signature — TYPE SIGNATURES.

  A signature is checked before anything is read under it
  (`isSingleCompleteType`).  The checker is a recursive descent over the bytes;
  the grammar it implements is stated on its own, as trees (`SigTree`) and
  their codes.

    * `singleType_complete`, `singleType_sound` — the descent takes exactly
      the code of one tree;
    * `isSingleCompleteType_iff` — **the checker accepts the empty signature
      and the codes of trees, and nothing else**;
    * `SigTree.code_prefix` — no code begins another, so what is accepted is
      accepted as one tree only.
-/
import SapDbLib.Protocol.DType

namespace SapDbLib

open Library ProtocolInformation

/-! ## §1. The grammar of the checker. -/

namespace DType

/-- The codes that are types by themselves. -/
def isBasic : DType → Bool
  | .byte | .boolean | .int16 | .uint16 | .int32 | .uint32 | .int64 | .uint64 | .single
  | .double | .string | .objectPath | .signature | .variant => true
  | _ => false

/-- A member is read back from its code. -/
theorem ofByte_code {d : DType} (h : ∀ b, d ≠ .undefined b) : ofByte d.code = d := by
  cases d with
  | undefined b => exact absurd rfl (h b)
  | _ => rfl

theorem ofByte_code_basic {d : DType} (h : d.isBasic = true) : ofByte d.code = d := by
  apply ofByte_code
  intro b hb
  rw [hb] at h
  cases h

/-- The cast loses nothing. -/
theorem code_ofByte (b : UInt8) : (ofByte b).code = b := by
  have hall : ∀ n : Fin 256, (ofByte (UInt8.ofNat n)).code = UInt8.ofNat n := by decide +kernel
  have hb := hall ⟨b.toNat, b.toNat_lt⟩
  rwa [UInt8.ofNat_toNat] at hb

end DType

/-- One complete type, as the checker sees it: entries of dictionaries may
    stand anywhere and structures may be empty. -/
inductive SigTree where
  | basic (d : DType) (h : d.isBasic = true)
  | array (element : SigTree)
  | struct (fields : List SigTree)
  | dictEntry (key value : SigTree)

mutual

/-- The bytes of a type. -/
def SigTree.code : SigTree → Bytes
  | .basic d _ => [d.code]
  | .array element => DType.array.code :: element.code
  | .struct fields => DType.structBegin.code :: (SigTree.codes fields ++ [DType.structEnd.code])
  | .dictEntry key value =>
      DType.dictEntryBegin.code :: (key.code ++ value.code ++ [DType.dictEntryEnd.code])

/-- The bytes of some types, one after the other. -/
def SigTree.codes : List SigTree → Bytes
  | [] => []
  | t :: ts => t.code ++ SigTree.codes ts

end

/-- The first code of a type. -/
def SigTree.head : SigTree → DType
  | .basic d _ => d
  | .array _ => .array
  | .struct _ => .structBegin
  | .dictEntry _ _ => .dictEntryBegin

/-- The other codes of a type. -/
def SigTree.tail : SigTree → Bytes
  | .basic _ _ => []
  | .array element => element.code
  | .struct fields => SigTree.codes fields ++ [DType.structEnd.code]
  | .dictEntry key value => key.code ++ value.code ++ [DType.dictEntryEnd.code]

theorem SigTree.code_eq (t : SigTree) : t.code = t.head.code :: t.tail := by
  cases t <;> rfl

theorem SigTree.code_ne_nil (t : SigTree) : t.code ≠ [] := by
  rw [t.code_eq]
  exact List.cons_ne_nil _ _

theorem SigTree.ofByte_head (t : SigTree) : DType.ofByte t.head.code = t.head := by
  cases t with
  | basic d hd => exact DType.ofByte_code_basic hd
  | _ => rfl

/-- A type does not begin with the bracket that closes a structure. -/
theorem SigTree.head_ne_structEnd (t : SigTree) : t.head ≠ .structEnd := by
  cases t with
  | basic d hd =>
      intro hend
      rw [show d = .structEnd from hend] at hd
      cases hd
  | _ => exact DType.noConfusion

/-- Equal codes begin equally. -/
theorem SigTree.head_eq {t u : SigTree} {r s : Bytes} (h : t.code ++ r = u.code ++ s) :
    t.head = u.head ∧ t.tail ++ r = u.tail ++ s := by
  rw [t.code_eq, u.code_eq, List.cons_append, List.cons_append, List.cons.injEq] at h
  refine ⟨?_, h.2⟩
  rw [← t.ofByte_head, h.1, u.ofByte_head]

/-! ## §2. `SignatureChecker`. -/

mutual

/-- `SingleType` at position `pos`: the position behind the type, or `none`
    for `false`.  The first argument bounds the depth of the calls; twice the
    number of unread bytes is always enough (`isSingleCompleteType_iff`). -/
def singleType : Nat → Bytes → Nat → Except CSharpException (Option Nat)
  | 0, _, _ => .ok none
  | n + 1, data, pos =>
      match data[pos]? with
      | none => .ok none
      | some b =>
          match DType.ofByte b with
          | .byte | .boolean | .int16 | .uint16 | .int32 | .uint32 | .int64 | .uint64 | .single
          | .double | .string | .objectPath | .signature | .variant => .ok (some (pos + 1))
          | .array => singleType n data (pos + 1)
          | .structBegin => structType n data (pos + 1)
          | .dictEntryBegin => dictType n data (pos + 1)
          | _ => .ok none

/-- `DictType`: the byte behind the two types is read without a look at the
    length. -/
def dictType : Nat → Bytes → Nat → Except CSharpException (Option Nat)
  | 0, _, _ => .ok none
  | n + 1, data, pos => do
      let some pos ← singleType n data pos | return none
      let some pos ← singleType n data pos | return none
      match data[pos]? with
      | none => .error .indexOutOfRange
      | some b => if DType.ofByte b = .dictEntryEnd then return some (pos + 1) else return none

/-- `StructType`. -/
def structType : Nat → Bytes → Nat → Except CSharpException (Option Nat)
  | 0, _, _ => .ok none
  | n + 1, data, pos =>
      match data[pos]? with
      | none => .ok none
      | some b =>
          if DType.ofByte b = .structEnd then .ok (some (pos + 1))
          else do
            let some pos ← singleType n data pos | return none
            structType n data pos

end

/-- `IsSingleCompleteType`. -/
def isSingleCompleteType (data : Bytes) : Except CSharpException Bool :=
  if data.length = 0 then .ok true
  else do
    match ← singleType (2 * data.length) data 0 with
    | some pos => return pos == data.length
    | none => return false

/-! ## §3. The checker takes exactly one tree. -/

/-- When `SingleType` takes something. -/
theorem singleType_succ {n : Nat} {data : Bytes} {pos pos' : Nat} :
    singleType (n + 1) data pos = .ok (some pos') ↔ ∃ b, data[pos]? = some b
      ∧ ((DType.ofByte b).isBasic = true ∧ pos' = pos + 1
        ∨ DType.ofByte b = .array ∧ singleType n data (pos + 1) = .ok (some pos')
        ∨ DType.ofByte b = .structBegin ∧ structType n data (pos + 1) = .ok (some pos')
        ∨ DType.ofByte b = .dictEntryBegin ∧ dictType n data (pos + 1) = .ok (some pos')) := by
  rw [singleType]
  cases data[pos]? with
  | none => simp
  | some b =>
      simp only [Option.some.injEq, exists_eq_left']
      cases DType.ofByte b <;> simp [DType.isBasic, eq_comm]

/-- When the loop of `StructType` ends well. -/
theorem structType_succ {n : Nat} {data : Bytes} {pos pos' : Nat} :
    structType (n + 1) data pos = .ok (some pos') ↔ ∃ b, data[pos]? = some b
      ∧ (DType.ofByte b = .structEnd ∧ pos' = pos + 1
        ∨ DType.ofByte b ≠ .structEnd ∧ ∃ mid, singleType n data pos = .ok (some mid)
          ∧ structType n data mid = .ok (some pos')) := by
  rw [structType]
  cases data[pos]? with
  | none => simp
  | some b =>
      simp only [Option.some.injEq, exists_eq_left']
      by_cases hend : DType.ofByte b = .structEnd
      · simp [hend, eq_comm]
      · rw [if_neg hend]
        simp only [hend, false_and, false_or, ne_eq, not_false_eq_true, true_and]
        cases singleType n data pos with
        | error e => simp [bind, Except.bind]
        | ok r => cases r <;> simp [bind, Except.bind, pure, Except.pure]

/-- When `DictType` takes something. -/
theorem dictType_succ {n : Nat} {data : Bytes} {pos pos' : Nat} :
    dictType (n + 1) data pos = .ok (some pos') ↔ ∃ mid last b,
      singleType n data pos = .ok (some mid) ∧ singleType n data mid = .ok (some last)
        ∧ data[last]? = some b ∧ DType.ofByte b = .dictEntryEnd ∧ pos' = last + 1 := by
  rw [dictType]
  cases singleType n data pos with
  | error e => simp [bind, Except.bind]
  | ok r =>
      cases r with
      | none => simp [bind, Except.bind, pure, Except.pure]
      | some mid =>
          simp only [bind, Except.bind]
          cases hlast : singleType n data mid with
          | error e => simp [hlast]
          | ok r =>
              cases r with
              | none => simp [hlast, pure, Except.pure]
              | some last =>
                  cases hb : data[last]? with
                  | none => simp [hlast, hb]
                  | some b =>
                      by_cases hend : DType.ofByte b = .dictEntryEnd
                      · simp [hlast, hb, hend, pure, Except.pure, eq_comm]
                      · simp [hlast, hb, hend, pure, Except.pure]

mutual

/-- **The descent takes the code of a tree.** -/
theorem singleType_complete {data : Bytes} : (t : SigTree) → {n pos : Nat} →
    HasAt data pos t.code → 2 * t.code.length ≤ n →
    singleType n data pos = .ok (some (pos + t.code.length))
  | .basic d hd, n, pos, hat, hn => by
      rw [SigTree.code, List.length_singleton] at hn
      obtain ⟨m, rfl⟩ : ∃ m, n = m + 1 := ⟨n - 1, by omega⟩
      have hof := DType.ofByte_code_basic hd
      exact singleType_succ.mpr ⟨_, hat.getElem?, Or.inl ⟨by rw [hof]; exact hd, rfl⟩⟩
  | .array t, n, pos, hat, hn => by
      rw [SigTree.code, List.length_cons] at hn ⊢
      obtain ⟨m, rfl⟩ : ∃ m, n = m + 1 := ⟨n - 1, by omega⟩
      rw [SigTree.code] at hat
      obtain ⟨hb, hrest⟩ := hasAt_cons.mp hat
      have ht := singleType_complete t hrest (n := m) (by omega)
      rw [Nat.add_assoc, Nat.add_comm 1] at ht
      exact singleType_succ.mpr ⟨_, hb, Or.inr (Or.inl ⟨by decide, ht⟩)⟩
  | .struct ts, n, pos, hat, hn => by
      have hlen : (SigTree.struct ts).code.length = (SigTree.codes ts).length + 2 := by
        simp [SigTree.code]
      rw [hlen] at hn ⊢
      obtain ⟨m, rfl⟩ : ∃ m, n = m + 1 := ⟨n - 1, by omega⟩
      rw [SigTree.code] at hat
      obtain ⟨hb, hrest⟩ := hasAt_cons.mp hat
      have hts := structType_complete ts hrest (n := m) (by omega)
      have hpos : pos + 1 + (SigTree.codes ts).length + 1
          = pos + ((SigTree.codes ts).length + 2) := by omega
      rw [hpos] at hts
      exact singleType_succ.mpr ⟨_, hb, Or.inr (Or.inr (Or.inl ⟨by decide, hts⟩))⟩
  | .dictEntry k v, n, pos, hat, hn => by
      have hlen : (SigTree.dictEntry k v).code.length = k.code.length + v.code.length + 2 := by
        simp [SigTree.code, Nat.add_assoc]
      rw [hlen] at hn ⊢
      obtain ⟨m, rfl⟩ : ∃ m, n = m + 2 := ⟨n - 2, by omega⟩
      rw [SigTree.code] at hat
      obtain ⟨hb, hrest⟩ := hasAt_cons.mp hat
      obtain ⟨hkv, hend⟩ := hasAt_append.mp hrest
      obtain ⟨hk, hv⟩ := hasAt_append.mp hkv
      rw [List.length_append, ← Nat.add_assoc] at hend
      have hdict : dictType (m + 1) data (pos + 1)
          = .ok (some (pos + (k.code.length + v.code.length + 2))) :=
        dictType_succ.mpr ⟨_, _, _, singleType_complete k hk (by omega),
          singleType_complete v hv (by omega), hend.getElem?, by decide, by omega⟩
      exact singleType_succ.mpr ⟨_, hb, Or.inr (Or.inr (Or.inr ⟨by decide, hdict⟩))⟩

/-- The loop of `StructType` takes the codes of its fields and the bracket. -/
theorem structType_complete {data : Bytes} : (ts : List SigTree) → {n pos : Nat} →
    HasAt data pos (SigTree.codes ts ++ [DType.structEnd.code]) →
    2 * (SigTree.codes ts).length + 1 ≤ n →
    structType n data pos = .ok (some (pos + (SigTree.codes ts).length + 1))
  | [], n, pos, hat, hn => by
      obtain ⟨m, rfl⟩ : ∃ m, n = m + 1 := ⟨n - 1, by omega⟩
      exact structType_succ.mpr ⟨_, hat.getElem?, Or.inl ⟨by decide, rfl⟩⟩
  | t :: ts, n, pos, hat, hn => by
      rw [SigTree.codes, List.length_append] at hn ⊢
      obtain ⟨m, rfl⟩ : ∃ m, n = m + 1 := ⟨n - 1, by omega⟩
      rw [SigTree.codes, List.append_assoc] at hat
      obtain ⟨ht, hrest⟩ := hasAt_append.mp hat
      have hpos : 0 < t.code.length := List.length_pos_of_ne_nil t.code_ne_nil
      have hb : data[pos]? = some t.head.code := by
        rw [t.code_eq] at ht
        exact ht.getElem?
      have hfirst : DType.ofByte t.head.code ≠ .structEnd := by
        rw [t.ofByte_head]
        exact t.head_ne_structEnd
      have hts := structType_complete ts hrest (n := m) (by omega)
      rw [Nat.add_assoc pos] at hts
      exact structType_succ.mpr
        ⟨_, hb, Or.inr ⟨hfirst, _, singleType_complete t ht (by omega), hts⟩⟩

end

/-- **What the descent takes is the code of a tree.**  The induction is on the
    depth of the calls, for all three functions at once. -/
theorem singleType_sound {data : Bytes} (n : Nat) :
    (∀ pos pos', singleType n data pos = .ok (some pos') →
        ∃ t : SigTree, HasAt data pos t.code ∧ pos' = pos + t.code.length)
      ∧ (∀ pos pos', structType n data pos = .ok (some pos') →
        ∃ ts, HasAt data pos (SigTree.codes ts ++ [DType.structEnd.code])
          ∧ pos' = pos + (SigTree.codes ts).length + 1)
      ∧ ∀ pos pos', dictType n data pos = .ok (some pos') →
        ∃ k v : SigTree, HasAt data pos (k.code ++ v.code ++ [DType.dictEntryEnd.code])
          ∧ pos' = pos + k.code.length + v.code.length + 1 := by
  induction n with
  | zero =>
      refine ⟨?_, ?_, ?_⟩ <;> intro pos pos' h
      · simp [singleType] at h
      · simp [structType] at h
      · simp [dictType] at h
  | succ n ih =>
      obtain ⟨ihSingle, ihStruct, ihDict⟩ := ih
      refine ⟨?_, ?_, ?_⟩ <;> intro pos pos' h
      · obtain ⟨b, hb, h⟩ := singleType_succ.mp h
        have hcode := DType.code_ofByte b
        rcases h with ⟨hbasic, rfl⟩ | ⟨hd, h⟩ | ⟨hd, h⟩ | ⟨hd, h⟩
        · refine ⟨.basic (DType.ofByte b) hbasic, ?_, rfl⟩
          rw [SigTree.code, hcode]
          exact hasAt_cons.mpr ⟨hb, hasAt_nil⟩
        · obtain ⟨t, hat, rfl⟩ := ihSingle _ _ h
          rw [hd] at hcode
          refine ⟨.array t, ?_, ?_⟩
          · rw [SigTree.code, hcode]
            exact hasAt_cons.mpr ⟨hb, hat⟩
          · rw [SigTree.code, List.length_cons]
            omega
        · obtain ⟨ts, hat, rfl⟩ := ihStruct _ _ h
          rw [hd] at hcode
          refine ⟨.struct ts, ?_, ?_⟩
          · rw [SigTree.code, hcode]
            exact hasAt_cons.mpr ⟨hb, hat⟩
          · simp only [SigTree.code, List.length_cons, List.length_append, List.length_nil]
            omega
        · obtain ⟨k, v, hat, rfl⟩ := ihDict _ _ h
          rw [hd] at hcode
          refine ⟨.dictEntry k v, ?_, ?_⟩
          · rw [SigTree.code, hcode]
            exact hasAt_cons.mpr ⟨hb, hat⟩
          · simp only [SigTree.code, List.length_cons, List.length_append, List.length_nil]
            omega
      · obtain ⟨b, hb, h⟩ := structType_succ.mp h
        rcases h with ⟨hend, rfl⟩ | ⟨-, mid, hone, h⟩
        · refine ⟨[], ?_, rfl⟩
          rw [← hend, DType.code_ofByte]
          exact hasAt_cons.mpr ⟨hb, hasAt_nil⟩
        · obtain ⟨t, ht, rfl⟩ := ihSingle _ _ hone
          obtain ⟨ts, hts, rfl⟩ := ihStruct _ _ h
          refine ⟨t :: ts, ?_, ?_⟩
          · rw [SigTree.codes, List.append_assoc]
            exact hasAt_append.mpr ⟨ht, hts⟩
          · rw [SigTree.codes, List.length_append]
            omega
      · obtain ⟨mid, last, b, hk, hv, hb, hend, rfl⟩ := dictType_succ.mp h
        obtain ⟨k, hkat, rfl⟩ := ihSingle _ _ hk
        obtain ⟨v, hvat, rfl⟩ := ihSingle _ _ hv
        refine ⟨k, v, ?_, rfl⟩
        rw [← hend, DType.code_ofByte]
        refine hasAt_append.mpr ⟨hasAt_append.mpr ⟨hkat, hvat⟩, ?_⟩
        rw [List.length_append, ← Nat.add_assoc]
        exact hasAt_cons.mpr ⟨hb, hasAt_nil⟩

/-- The checker accepts the code of a tree. -/
theorem isSingleCompleteType_tree (t : SigTree) : isSingleCompleteType t.code = .ok true := by
  have hat : HasAt t.code 0 t.code := List.prefix_rfl
  have hne : ¬ t.code.length = 0 := fun h => t.code_ne_nil (List.eq_nil_of_length_eq_zero h)
  rw [isSingleCompleteType, if_neg hne, singleType_complete t hat (by omega)]
  show Except.ok (0 + t.code.length == t.code.length) = _
  rw [Nat.zero_add, beq_self_eq_true]

/-- **The checker accepts the empty signature and the codes of trees**, and
    nothing else. -/
theorem isSingleCompleteType_iff (data : Bytes) :
    isSingleCompleteType data = .ok true ↔ data = [] ∨ ∃ t : SigTree, data = t.code := by
  constructor
  · intro h
    unfold isSingleCompleteType at h
    by_cases hnil : data.length = 0
    · exact Or.inl (List.eq_nil_of_length_eq_zero hnil)
    · rw [if_neg hnil] at h
      cases hone : singleType (2 * data.length) data 0 with
      | error e =>
          rw [hone] at h
          cases h
      | ok r =>
          rw [hone] at h
          cases r with
          | none => cases h
          | some pos =>
              obtain ⟨t, hat, hpos⟩ := (singleType_sound _).1 _ _ hone
              have hlen : pos = data.length := by
                have hok : (pos == data.length) = true := Except.ok.inj h
                simpa using hok
              refine Or.inr ⟨t, ?_⟩
              -- a tree at the start that is as long as the signature is all of it
              exact (List.IsPrefix.eq_of_length hat (by rw [List.drop_zero]; omega)).symm
  · intro h
    rcases h with rfl | ⟨t, rfl⟩
    · rfl
    · exact isSingleCompleteType_tree t

mutual

/-- **No code begins another.** -/
theorem SigTree.code_prefix : (t u : SigTree) → {r s : Bytes} → t.code ++ r = u.code ++ s →
    t = u ∧ r = s
  | .basic d hd, u, r, s, h => by
      obtain ⟨hhead, htail⟩ := SigTree.head_eq h
      cases u with
      | basic d' hd' =>
          refine ⟨?_, htail⟩
          simp only [SigTree.basic.injEq]
          exact hhead
      | _ =>
          rw [show d = _ from hhead] at hd
          cases hd
  | .array t, u, r, s, h => by
      obtain ⟨hhead, htail⟩ := SigTree.head_eq h
      cases u with
      | basic d hd =>
          rw [← show _ = d from hhead] at hd
          cases hd
      | array u =>
          obtain ⟨rfl, hrs⟩ := SigTree.code_prefix t u htail
          exact ⟨rfl, hrs⟩
      | _ => cases hhead
  | .struct ts, u, r, s, h => by
      obtain ⟨hhead, htail⟩ := SigTree.head_eq h
      cases u with
      | basic d hd =>
          rw [← show _ = d from hhead] at hd
          cases hd
      | struct us =>
          simp only [SigTree.tail, List.append_assoc] at htail
          obtain ⟨rfl, hrs⟩ := SigTree.codes_prefix ts us htail
          exact ⟨rfl, hrs⟩
      | _ => cases hhead
  | .dictEntry k v, u, r, s, h => by
      obtain ⟨hhead, htail⟩ := SigTree.head_eq h
      cases u with
      | basic d hd =>
          rw [← show _ = d from hhead] at hd
          cases hd
      | dictEntry k' v' =>
          simp only [SigTree.tail, List.append_assoc] at htail
          obtain ⟨rfl, hv⟩ := SigTree.code_prefix k k' htail
          obtain ⟨rfl, hrs⟩ := SigTree.code_prefix v v' hv
          exact ⟨rfl, (List.cons.inj hrs).2⟩
      | _ => cases hhead

/-- The closing bracket ends the fields of a structure. -/
theorem SigTree.codes_prefix : (ts us : List SigTree) → {r s : Bytes} →
    SigTree.codes ts ++ ([DType.structEnd.code] ++ r)
      = SigTree.codes us ++ ([DType.structEnd.code] ++ s) → ts = us ∧ r = s
  | [], [], r, s, h => ⟨rfl, (List.cons.inj h).2⟩
  | [], u :: us, r, s, h => by
      rw [SigTree.codes, SigTree.codes, u.code_eq] at h
      have hend : DType.ofByte DType.structEnd.code = DType.ofByte u.head.code :=
        congrArg DType.ofByte (List.cons.inj h).1
      rw [u.ofByte_head] at hend
      exact absurd hend.symm u.head_ne_structEnd
  | t :: ts, [], r, s, h => by
      rw [SigTree.codes, SigTree.codes, t.code_eq] at h
      have hend : DType.ofByte t.head.code = DType.ofByte DType.structEnd.code :=
        congrArg DType.ofByte (List.cons.inj h).1
      rw [t.ofByte_head] at hend
      exact absurd hend t.head_ne_structEnd
  | t :: ts, u :: us, r, s, h => by
      rw [SigTree.codes, SigTree.codes, List.append_assoc, List.append_assoc] at h
      obtain ⟨rfl, hrest⟩ := SigTree.code_prefix t u h
      obtain ⟨rfl, hrs⟩ := SigTree.codes_prefix ts us hrest
      exact ⟨rfl, hrs⟩

end

end SapDbLib
