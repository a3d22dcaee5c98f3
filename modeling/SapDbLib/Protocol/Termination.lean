/-
  SapDbLib.Protocol.Termination — THE READER COMES TO AN END.

  Whatever the data are, reading a value of a type stops, with the value or
  with an exception: every value takes at least one byte, and a type that is
  read from a signature is not larger than four times its length.

    * `readValue_moves` — **a value is read forward**, by a byte at least;
    * `readValue_finishes` — **the depth of the calls is bounded** by the size
      of the type and the bytes in front of the reader;
    * `readValue_extends` — a larger depth changes nothing, so that
      `ReadFault.unfinished` is no outcome of the program.

  Structures without fields are left out: they take no bytes.
    * `emptyStructs_endless_iff` — **an array of them is read for ever** if it
      has a length that is not 0.
-/
import SapDbLib.Protocol.RoundTrip

namespace SapDbLib

open Library ProtocolInformation MessageReader

/-! ## §1. Readers that move on and finish. -/

/-- `x` moves by `k` bytes at least, and only where there are bytes if `k` is
    not zero. -/
def Moves {α : Type} (data : Bytes) (k : Nat) (x : Reader α) : Prop :=
  ∀ pos a pos', Runs x pos a pos' → pos + k ≤ pos' ∧ (0 < k → pos < data.length)

/-- `x` never ends with a fault. -/
def Never {α : Type} (fault : ReadFault) (x : Reader α) : Prop := ∀ pos, Avoids fault x pos

/-- `x` never runs out of depth. -/
abbrev Finishes {α : Type} (x : Reader α) : Prop := Never .unfinished x

/-- `x` fails with exceptions of the code only. -/
def Raises {α : Type} (x : Reader α) : Prop :=
  ∀ fault, (∀ ex, fault ≠ .exception ex) → Never fault x

section Parts

variable {α β : Type} {data : Bytes} {j k : Nat} {x : Reader α} {f : α → Reader β}
  {fault : ReadFault}

theorem Moves.mono (h : Moves data k x) (hj : j ≤ k) : Moves data j x := by
  intro pos a pos' hrun
  obtain ⟨hmove, hroom⟩ := h pos a pos' hrun
  exact ⟨by omega, fun hpos => hroom (by omega)⟩

theorem moves_pure (a : α) : Moves data 0 (pure a : Reader α) := by
  intro pos b pos' hrun
  obtain ⟨-, rfl⟩ := runs_pure.mp hrun
  exact ⟨Nat.le_refl _, fun h => absurd h (Nat.lt_irrefl 0)⟩

theorem moves_throw {fault : ReadFault} : Moves data k (throw fault : Reader α) :=
  fun _ _ _ hrun => absurd hrun runs_throw

/-- **A sequence moves as far as its first part**, if the rest does not go
    back. -/
theorem Moves.bind (hx : Moves data k x) (hf : ∀ a, Moves data 0 (f a)) :
    Moves data k (x >>= f) := by
  intro pos b pos'' hrun
  obtain ⟨a, pos', hrun, hrest⟩ := runs_bind.mp hrun
  obtain ⟨hmove, hroom⟩ := hx pos a pos' hrun
  have hkeep := (hf a pos' b pos'' hrest).1
  exact ⟨by omega, hroom⟩

/-- A sequence moves as far as its rest, if the first part does not go back. -/
theorem Moves.keep_bind (hx : Moves data 0 x) (hf : ∀ a, Moves data k (f a)) :
    Moves data k (x >>= f) := by
  intro pos b pos'' hrun
  obtain ⟨a, pos', hrun, hrest⟩ := runs_bind.mp hrun
  have hkeep := (hx pos a pos' hrun).1
  obtain ⟨hmove, hroom⟩ := hf a pos' b pos'' hrest
  refine ⟨by omega, fun hk => ?_⟩
  have hlt := hroom hk
  omega

theorem Moves.ite {c : Prop} [Decidable c] {y : Reader α} (hx : Moves data k x)
    (hy : Moves data k y) : Moves data k (if c then x else y) := by
  by_cases hc : c
  · rwa [if_pos hc]
  · rwa [if_neg hc]

theorem moves_get_bind {g : Nat → Reader β} (h : ∀ pos, Moves data k (g pos)) :
    Moves data k (do let pos ← get; g pos) := by
  intro pos b pos' hrun
  rw [runs_get_bind] at hrun
  exact h pos pos b pos' hrun

theorem never_pure (a : α) : Never fault (pure a : Reader α) := fun _ => avoids_pure a

theorem never_throwEx {ex : CSharpException} (h : ∀ ex, fault ≠ .exception ex) :
    Never fault (throwEx ex : Reader α) := fun _ => avoids_throw fun heq => h ex heq.symm

theorem Never.bind (hx : Never fault x) (hf : ∀ a, Never fault (f a)) : Never fault (x >>= f) :=
  fun pos => avoids_bind (hx pos) fun a pos' _ => hf a pos'

theorem never_get_bind {g : Nat → Reader β} (h : ∀ pos, Never fault (g pos)) :
    Never fault (do let pos ← get; g pos) := fun pos => avoids_get_bind (h pos pos)

theorem never_set_bind {t : Nat} {y : Reader β} (h : Never fault y) :
    Never fault (do set t; y) := fun _ => avoids_set_bind (h t)

theorem Never.ite {c : Prop} [Decidable c] {y : Reader α} (hx : Never fault x)
    (hy : Never fault y) : Never fault (if c then x else y) := by
  by_cases hc : c
  · rwa [if_pos hc]
  · rwa [if_neg hc]

theorem finishes_throwEx {ex : CSharpException} : Finishes (throwEx ex : Reader α) :=
  never_throwEx fun _ => ReadFault.noConfusion

theorem Raises.finishes (h : Raises x) : Finishes x := h _ fun _ => ReadFault.noConfusion

/-- What stops such a computation is an exception. -/
theorem Raises.exception {pos : Nat} (h : Raises x) (hx : x pos = .error fault) :
    ∃ ex, fault = .exception ex := by
  by_contra hne
  exact h fault (fun ex heq => hne ⟨ex, heq⟩) pos hx

end Parts

/-! ## §2. The parts of the format. -/

section Format

variable {e : Endian} {data : Bytes}

theorem readByte_moves : Moves data 1 (readByte data) := by
  intro pos b pos' hrun
  rw [readByte, runs_get_bind] at hrun
  cases hb : data[pos]? with
  | none =>
      rw [hb] at hrun
      exact absurd hrun runs_throw
  | some c =>
      rw [hb] at hrun
      obtain ⟨-, rfl⟩ := runs_pure.mp (runs_set_bind.mp hrun)
      obtain ⟨hlt, -⟩ := List.getElem?_eq_some_iff.mp hb
      exact ⟨Nat.le_refl _, fun _ => hlt⟩

theorem readByte_finishes : Finishes (readByte data) := by
  refine never_get_bind fun pos => ?_
  cases data[pos]? with
  | none => exact finishes_throwEx
  | some b => exact never_set_bind (never_pure b)

theorem readPad_moves {alignment : Nat} : Moves data 0 (readPad data alignment) := by
  intro pos u pos' hrun
  rw [runs_readPad hrun, padded_eq]
  exact ⟨by omega, fun h => absurd h (Nat.lt_irrefl 0)⟩

theorem readPad_raises {alignment : Nat} : Raises (readPad data alignment) := by
  intro fault h
  refine never_get_bind fun pos => ?_
  induction padded pos alignment - pos with
  | zero => exact never_pure _
  | succ n ih =>
      refine never_get_bind fun p => ?_
      cases data[p]? with
      | none => exact never_throwEx h
      | some b => exact Never.ite (never_throwEx h) (never_set_bind ih)

theorem readPad_finishes {alignment : Nat} : Finishes (readPad data alignment) :=
  readPad_raises.finishes

theorem readNull_moves : Moves data 1 (readNull data) := by
  intro pos u pos' hrun
  rw [readNull, runs_get_bind] at hrun
  cases hb : data[pos]? with
  | none =>
      rw [hb] at hrun
      exact absurd hrun runs_throw
  | some b =>
      rw [hb] at hrun
      dsimp only at hrun
      rw [runs_ite] at hrun
      split_ifs at hrun
      · exact absurd hrun runs_throw
      · obtain rfl := runs_set.mp hrun
        obtain ⟨hlt, -⟩ := List.getElem?_eq_some_iff.mp hb
        exact ⟨Nat.le_refl _, fun _ => hlt⟩

theorem readNull_raises : Raises (readNull data) := by
  intro fault h
  refine never_get_bind fun pos => ?_
  cases data[pos]? with
  | none => exact never_throwEx h
  | some b => exact Never.ite (never_throwEx h) fun _ => avoids_set

theorem readNull_finishes : Finishes (readNull data) := readNull_raises.finishes

theorem liftEx_moves {α : Type} (r : Except CSharpException α) : Moves data 0 (liftEx r) := by
  cases r with
  | error ex => exact moves_throw
  | ok a => exact moves_pure a

theorem liftEx_finishes {α : Type} (r : Except CSharpException α) : Finishes (liftEx r) := by
  cases r with
  | error ex => exact finishes_throwEx
  | ok a => exact never_pure a

theorem unmarshal_moves {size : Nat} (h : 0 < size) : Moves data 1 (unmarshal e data size) := by
  intro pos v pos'' hrun
  obtain ⟨u, pos', hpad, hrun⟩ := runs_bind.mp hrun
  have hle := (readPad_moves _ _ _ hpad).1
  rw [runs_get_bind, runs_ite] at hrun
  by_cases hroom : data.length < pos' + size
  · rw [if_pos hroom] at hrun
    exact absurd hrun runs_throw
  · rw [if_neg hroom] at hrun
    obtain ⟨-, rfl⟩ := runs_pure.mp (runs_set_bind.mp hrun)
    exact ⟨by omega, fun _ => by omega⟩

theorem unmarshal_raises {size : Nat} : Raises (unmarshal e data size) :=
  fun fault h => (readPad_raises fault h).bind fun _ => never_get_bind fun _ =>
    Never.ite (never_throwEx h) (never_set_bind (never_pure _))

theorem unmarshal_finishes {size : Nat} : Finishes (unmarshal e data size) :=
  unmarshal_raises.finishes

theorem readPrimitive_moves {p : Primitive} : Moves data 1 (readPrimitive e data p) := by
  cases p with
  | byte => exact readByte_moves.bind fun b => moves_pure _
  | _ => exact (unmarshal_moves (by decide)).bind fun v => moves_pure _

theorem readPrimitive_finishes {p : Primitive} : Finishes (readPrimitive e data p) := by
  cases p with
  | byte => exact readByte_finishes.bind fun b => never_pure _
  | _ => exact unmarshal_finishes.bind fun v => never_pure _

theorem readBoolean_moves : Moves data 1 (readBoolean e data) :=
  (unmarshal_moves (by decide)).bind fun _ => (moves_pure _).ite ((moves_pure _).ite
    (moves_get_bind fun _ => moves_throw))

theorem readBoolean_finishes : Finishes (readBoolean e data) :=
  unmarshal_finishes.bind fun _ => (never_pure _).ite ((never_pure _).ite
    (never_get_bind fun _ => finishes_throwEx))

theorem readString_moves : Moves data 1 (readString e data) := by
  refine (unmarshal_moves (by decide : 0 < 4)).bind fun ln => ?_
  intro pos s pos' hrun
  rw [runs_get_bind, runs_ite] at hrun
  by_cases hroom : 2147483648 ≤ ln ∨ data.length < pos + ln
  · rw [if_pos hroom] at hrun
    exact absurd hrun runs_throw
  · rw [if_neg hroom, runs_set_bind] at hrun
    have hnull := (readNull_moves.bind fun _ => moves_pure _) _ _ _ hrun
    exact ⟨by omega, fun h => absurd h (Nat.lt_irrefl 0)⟩

/-- Reading a text fails with an exception, if it does. -/
theorem readString_raises : Raises (readString e data) :=
  fun fault h => (unmarshal_raises fault h).bind fun _ => never_get_bind fun _ =>
    Never.ite (never_throwEx h)
      (never_set_bind ((readNull_raises fault h).bind fun _ => never_pure _))

theorem readString_finishes : Finishes (readString e data) := readString_raises.finishes

theorem readObjectPath_moves : Moves data 1 (readObjectPath e data) :=
  readString_moves.bind fun _ => liftEx_moves _

theorem readObjectPath_finishes : Finishes (readObjectPath e data) :=
  readString_finishes.bind fun _ => liftEx_finishes _

theorem readSignature_moves : Moves data 1 (readSignature data) := by
  refine readByte_moves.bind fun ln => Moves.ite ?_ ?_
  · exact (readByte_moves.bind fun _ => (readNull_moves.bind fun _ => moves_pure _).mono
      (Nat.zero_le _)).mono (Nat.zero_le _)
  · intro pos sig pos' hrun
    rw [runs_get_bind, runs_ite] at hrun
    by_cases hroom : data.length < pos + ln.toNat
    · rw [if_pos hroom] at hrun
      exact absurd hrun runs_throw
    · rw [if_neg hroom, runs_set_bind] at hrun
      have hnull := (readNull_moves.bind fun _ => moves_pure _) _ _ _ hrun
      exact ⟨by omega, fun h => absurd h (Nat.lt_irrefl 0)⟩

theorem readSignature_finishes : Finishes (readSignature data) :=
  readByte_finishes.bind fun _ => Never.ite
    (readByte_finishes.bind fun _ => readNull_finishes.bind fun _ => never_pure _)
    (never_get_bind fun _ => Never.ite finishes_throwEx
      (never_set_bind (readNull_finishes.bind fun _ => never_pure _)))

/-- The length of a signature is one byte. -/
theorem length_readSignature {pos pos' : Nat} {sig : Bytes}
    (hrun : Runs (readSignature data) pos sig pos') : sig.length ≤ maxSignatureLength := by
  obtain ⟨ln, p, -, hrun⟩ := runs_bind.mp hrun
  have hln : ln.toNat < 256 := ln.toNat_lt
  have hmax : maxSignatureLength = 255 := rfl
  rw [runs_ite] at hrun
  split_ifs at hrun
  · obtain ⟨b, q, -, hrun⟩ := runs_bind.mp hrun
    obtain ⟨u, q', -, hrun⟩ := runs_bind.mp hrun
    rw [← (runs_pure.mp hrun).1, List.length_singleton]
    omega
  · rw [runs_get_bind, runs_ite] at hrun
    split_ifs at hrun
    · exact absurd hrun runs_throw
    · obtain ⟨u, q, -, hrun⟩ := runs_bind.mp (runs_set_bind.mp hrun)
      rw [← (runs_pure.mp hrun).1, slice, List.length_take]
      omega

theorem directCopy_moves {sof length : Nat} : Moves data 0 (directCopy e data sof length) := by
  intro pos bytes pos' hrun
  rw [(directCopy_position hrun).1]
  exact ⟨Nat.le_add_right _ _, fun h => absurd h (Nat.lt_irrefl 0)⟩

theorem directCopy_finishes {sof length : Nat} : Finishes (directCopy e data sof length) :=
  never_get_bind fun _ => Never.ite finishes_throwEx (never_set_bind (never_pure _))

theorem marshalArray_moves {p : Primitive} {length : Nat} :
    Moves data 0 (marshalArray e data p length) := by
  intro pos vs pos' hrun
  rw [marshalArray, runs_get_bind, runs_ite] at hrun
  by_cases hnative : e.isNative = true
  · rw [if_pos hnative, runs_ite] at hrun
    split_ifs at hrun
    · exact absurd hrun runs_throw
    · obtain ⟨-, rfl⟩ := runs_pure.mp (runs_set_bind.mp hrun)
      exact ⟨by omega, fun h => absurd h (Nat.lt_irrefl 0)⟩
  · rw [if_neg hnative, runs_ite] at hrun
    split_ifs at hrun
    · exact absurd hrun runs_throw
    · exact (directCopy_moves.bind fun _ => moves_pure _) _ _ _ hrun

theorem marshalArray_finishes {p : Primitive} {length : Nat} :
    Finishes (marshalArray e data p length) :=
  never_get_bind fun _ => Never.ite
    (Never.ite finishes_throwEx (never_set_bind (never_pure _)))
    (Never.ite (fun _ => avoids_throw ReadFault.noConfusion)
      (directCopy_finishes.bind fun _ => never_pure _))

theorem marshalBoolArray_moves {length : Nat} : Moves data 0 (marshalBoolArray e data length) := by
  induction length with
  | zero => exact moves_pure _
  | succ length ih =>
      exact readBoolean_moves.mono (Nat.zero_le _) |>.bind fun _ => ih.bind fun _ => moves_pure _

theorem marshalBoolArray_finishes {length : Nat} :
    Finishes (marshalBoolArray e data length) := by
  induction length with
  | zero => exact never_pure _
  | succ length ih => exact readBoolean_finishes.bind fun _ => ih.bind fun _ => never_pure _

theorem readLength_moves {kind : Text} {alignment : Nat} :
    Moves data 1 (readLength e data kind alignment) :=
  (unmarshal_moves (by decide)).bind fun _ =>
    Moves.ite moves_throw (readPad_moves.bind fun _ => moves_pure _)

theorem readLength_finishes {kind : Text} {alignment : Nat} :
    Finishes (readLength e data kind alignment) :=
  unmarshal_finishes.bind fun _ =>
    Never.ite finishes_throwEx (readPad_finishes.bind fun _ => never_pure _)

theorem readArrayLength_moves {t : ClrType} : Moves data 1 (readArrayLength e data t) := by
  exact (liftEx_moves _).keep_bind fun _ => readLength_moves

theorem readArrayLength_finishes {t : ClrType} : Finishes (readArrayLength e data t) :=
  (liftEx_finishes _).bind fun _ => readLength_finishes

theorem checkEnd_moves {endPos : Nat} : Moves data 0 (checkEnd endPos) :=
  moves_get_bind fun _ => Moves.ite moves_throw (moves_pure _)

theorem checkEnd_finishes {endPos : Nat} : Finishes (checkEnd endPos) :=
  never_get_bind fun _ => Never.ite finishes_throwEx (never_pure _)

end Format

/-! ## §3. Values are read forward. -/

mutual

/-- Every structure in the type has fields. -/
def ClrType.hasFields : ClrType → Bool
  | .array t => t.hasFields
  | .dictionary k v => k.hasFields && v.hasFields
  | .struct ts => !ts.isEmpty && ClrType.allHaveFields ts
  | _ => true

/-- The same of some types. -/
def ClrType.allHaveFields : List ClrType → Bool
  | [] => true
  | t :: ts => t.hasFields && ClrType.allHaveFields ts

end

/-- The bytes that a value takes at least. -/
def ClrType.leastBytes (t : ClrType) : Nat := if t.hasFields = true then 1 else 0

/-- The bytes that some fields take at least. -/
def ClrType.leastFieldBytes (ts : List ClrType) : Nat :=
  if ts ≠ [] ∧ ClrType.allHaveFields ts = true then 1 else 0

theorem ClrType.leastBytes_le (t : ClrType) : t.leastBytes ≤ 1 := by
  unfold ClrType.leastBytes
  split_ifs <;> omega

theorem ClrType.leastFieldBytes_le (ts : List ClrType) : ClrType.leastFieldBytes ts ≤ 1 := by
  unfold ClrType.leastFieldBytes
  split_ifs <;> omega

theorem ClrType.leastFieldBytes_cons_le (t : ClrType) (ts : List ClrType) :
    ClrType.leastFieldBytes (t :: ts) ≤ t.leastBytes := by
  unfold ClrType.leastFieldBytes ClrType.leastBytes
  split_ifs with h ht
  · exact Nat.le_refl _
  · have hall := h.2
    rw [ClrType.allHaveFields, Bool.and_eq_true] at hall
    exact absurd hall.1 ht
  · omega
  · omega

theorem ClrType.leastBytes_struct (ts : List ClrType) :
    (ClrType.struct ts).leastBytes = ClrType.leastFieldBytes ts := by
  unfold ClrType.leastFieldBytes ClrType.leastBytes
  simp [ClrType.hasFields]

section Forward

variable {sameKey : {k : ClrType} → Value k → Value k → Bool} {e : Endian} {data : Bytes}

/-- A structure that is copied takes bytes. -/
theorem directCopy_advances {sof length : Nat} (hsof : 0 < sof) (hlength : 0 < length) :
    Moves data 1 (directCopy e data sof length) := by
  intro pos bytes pos' hrun
  have hmove := (directCopy_position hrun).1
  have hmul := Nat.mul_pos hlength hsof
  rw [directCopy, runs_get_bind, runs_ite] at hrun
  by_cases hroom : data.length < pos + length
  · rw [if_pos hroom] at hrun
    exact absurd hrun runs_throw
  · exact ⟨by omega, fun _ => by omega⟩

theorem firstSize_pos {ts : List ClrType} (h : ClrType.isEligibleStruct ts = true) :
    0 < ClrType.firstSize ts := by
  unfold ClrType.isEligibleStruct at h
  split at h
  next p ts => exact p.size_pos
  next => cases h

mutual

/-- **A value is read forward**, by a byte at least if its structures have
    fields. -/
theorem readValue_moves : (n : Nat) → (t : ClrType) →
    Moves data t.leastBytes (readValue sameKey e data n t)
  | 0, _ => by
      rw [readValue]
      exact moves_throw
  | n + 1, .primitive p => by
      rw [readValue]
      exact readPrimitive_moves.bind fun _ => moves_pure _
  | n + 1, .boolean => by
      rw [readValue]
      exact readBoolean_moves.bind fun _ => moves_pure _
  | n + 1, .string => by
      rw [readValue]
      exact readString_moves.bind fun _ => moves_pure _
  | n + 1, .objectPath => by
      rw [readValue]
      exact readObjectPath_moves.bind fun _ => moves_pure _
  | n + 1, .signature => by
      rw [readValue]
      exact readSignature_moves.bind fun _ => moves_pure _
  | n + 1, .object => by
      rw [readValue]
      refine readSignature_moves.bind fun sig => (liftEx_moves _).bind fun single => ?_
      exact Moves.ite moves_throw ((liftEx_moves _).bind fun t => readBoxed_moves n t)
  | n + 1, .array t => by
      refine Moves.mono ?_ (ClrType.leastBytes_le _)
      by_cases hprim : ∃ p, t = .primitive p
      · obtain ⟨p, rfl⟩ := hprim
        rw [readValue]
        exact readArrayLength_moves.bind fun _ => marshalArray_moves.bind fun _ => moves_pure _
      · by_cases hbool : t = .boolean
        · subst hbool
          rw [readValue]
          exact readArrayLength_moves.bind fun _ =>
            marshalBoolArray_moves.bind fun _ => moves_pure _
        · have hnone : t.asPrimitive = none := by
            cases t with
            | primitive p => exact absurd ⟨p, rfl⟩ hprim
            | _ => rfl
          rw [readValue_array hnone hbool]
          exact readArrayLength_moves.bind fun _ => moves_get_bind fun _ =>
            (readElements_moves n t _).bind fun _ => checkEnd_moves.bind fun _ => moves_pure _
  | n + 1, .dictionary k v => by
      refine Moves.mono ?_ (ClrType.leastBytes_le _)
      rw [readValue]
      exact readLength_moves.bind fun _ => moves_get_bind fun _ =>
        (readEntries_moves n k v _ _).bind fun _ => checkEnd_moves.bind fun _ => moves_pure _
  | n + 1, .struct ts => by
      have hfields : Moves data (ClrType.leastFieldBytes ts)
          (do let fs ← readFields sameKey e data n ts; return Value.struct fs) :=
        (readFields_moves n ts).bind fun _ => moves_pure _
      rw [readValue, ClrType.leastBytes_struct]
      refine readPad_moves.keep_bind fun _ => ?_
      by_cases hnone : ts.length = 0
      · rw [if_pos hnone]
        exact hfields
      · rw [if_neg hnone]
        by_cases heligible : ClrType.isEligibleStruct ts = true
        · rw [if_pos heligible]
          refine Moves.mono ?_ (ClrType.leastFieldBytes_le _)
          have hfirst := firstSize_pos heligible
          have hcopy : Moves data 1
              (directCopy e data (ClrType.firstSize ts) (ts.length * ClrType.firstSize ts)) :=
            directCopy_advances hfirst (Nat.mul_pos (by omega) hfirst)
          refine hcopy.bind fun bytes => ?_
          cases fieldsOf e ts bytes with
          | none => exact moves_throw
          | some fs => exact moves_pure _
        · rw [if_neg heligible]
          exact hfields
  | n + 1, .keyValuePair => by
      rw [readValue]
      exact readPad_moves.keep_bind fun _ => moves_throw

theorem readBoxed_moves : (n : Nat) → (t : ClrType) →
    Moves data 0 (readBoxed sameKey e data n t)
  | 0, _ => by
      rw [readBoxed]
      exact moves_throw
  | n + 1, t => by
      rw [readBoxed]
      refine ((readValue_moves n t).mono (Nat.zero_le _)).bind fun v => ?_
      cases t <;> exact moves_pure _

theorem readElements_moves : (n : Nat) → (t : ClrType) → (endPos : Nat) →
    Moves data 0 (readElements sameKey e data n t endPos)
  | 0, _, _ => by
      rw [readElements]
      exact moves_throw
  | n + 1, t, endPos => by
      rw [readElements]
      exact moves_get_bind fun _ => Moves.ite
        (((readValue_moves n t).mono (Nat.zero_le _)).bind fun _ =>
          (readElements_moves n t endPos).bind fun _ => moves_pure _) (moves_pure _)

theorem readEntries_moves : (n : Nat) → (k v : ClrType) → (endPos : Nat) →
    (keys : List (Value k)) → Moves data 0 (readEntries sameKey e data n k v endPos keys)
  | 0, _, _, _, _ => by
      rw [readEntries]
      exact moves_throw
  | n + 1, k, v, endPos, keys => by
      rw [readEntries]
      refine moves_get_bind fun pos => Moves.ite (readPad_moves.bind fun _ => ?_) (moves_pure _)
      refine ((readValue_moves n k).mono (Nat.zero_le _)).bind fun key => ?_
      refine ((readValue_moves n v).mono (Nat.zero_le _)).bind fun value => ?_
      exact Moves.ite moves_throw
        ((readEntries_moves n k v endPos (key :: keys)).bind fun _ => moves_pure _)

theorem readFields_moves : (n : Nat) → (ts : List ClrType) →
    Moves data (ClrType.leastFieldBytes ts) (readFields sameKey e data n ts)
  | 0, _ => by
      rw [readFields]
      exact moves_throw
  | n + 1, [] => by
      rw [readFields]
      exact moves_pure _
  | n + 1, t :: ts => by
      rw [readFields]
      refine ((readValue_moves n t).mono (ClrType.leastFieldBytes_cons_le t ts)).bind fun _ => ?_
      exact ((readFields_moves n ts).mono (Nat.zero_le _)).bind fun _ => moves_pure _

end

end Forward

/-! ## §4. The size of a type. -/

mutual

/-- How deep the calls for a type nest, its values apart. -/
def ClrType.weight : ClrType → Nat
  | .array t => t.weight + 2
  | .dictionary k v => k.weight + v.weight + 2
  | .struct ts => ClrType.weights ts + 1
  | _ => 1

def ClrType.weights : List ClrType → Nat
  | [] => 1
  | t :: ts => t.weight + ClrType.weights ts + 1

end

theorem runs_fromInnerTypes {ts : List ClrType} {t : ClrType} (h : fromInnerTypes ts = .ok t) :
    t = .struct ts ∧ ts ≠ [] := by
  rw [fromInnerTypes] at h
  split_ifs at h with hcount
  refine ⟨(Except.ok.inj h).symm, ?_⟩
  intro hnil
  exact hcount (Or.inl (by rw [hnil, List.length_nil]))

mutual

/-- **A type that is read from a signature is not larger than it**, by more
    than a factor of four, and its structures have fields. -/
theorem toType_weight {data : Bytes} : (n : Nat) → {pos pos' : Nat} → {t : ClrType} →
    toType n data pos = .ok (t, pos') →
    t.hasFields = true ∧ t.weight + 1 + 4 * pos ≤ 4 * pos'
  | 0, _, _, _, h => by cases h
  | n + 1, pos, pos', t, h => by
      rw [toType] at h
      cases hb : data[pos]? with
      | none =>
          rw [hb] at h
          cases h
      | some b =>
          rw [hb] at h
          dsimp only at h
          cases hd : DType.ofByte b with
          | array =>
              rw [hd] at h
              dsimp only at h
              cases hc : data[pos + 1]? with
              | none =>
                  rw [hc] at h
                  cases h
              | some c =>
                  rw [hc] at h
                  dsimp only at h
                  split_ifs at h
                  · obtain ⟨⟨k, p⟩, hk, h⟩ := bind_eq_ok.mp h
                    obtain ⟨⟨v, q⟩, hv, h⟩ := bind_eq_ok.mp h
                    cases h
                    obtain ⟨hkf, hkw⟩ := toType_weight n hk
                    obtain ⟨hvf, hvw⟩ := toType_weight n hv
                    rw [ClrType.hasFields, hkf, hvf, ClrType.weight]
                    exact ⟨rfl, by dsimp only; omega⟩
                  · obtain ⟨⟨u, p⟩, hu, h⟩ := bind_eq_ok.mp h
                    cases h
                    obtain ⟨huf, huw⟩ := toType_weight n hu
                    rw [ClrType.hasFields, ClrType.weight]
                    exact ⟨huf, by dsimp only; omega⟩
          | structBegin =>
              rw [hd] at h
              obtain ⟨⟨ts, p⟩, hts, h⟩ := bind_eq_ok.mp h
              obtain ⟨u, hu, h⟩ := bind_eq_ok.mp h
              cases h
              obtain ⟨rfl, hne⟩ := runs_fromInnerTypes hu
              obtain ⟨htsf, htsw⟩ := toInnerTypes_weight n hts
              rw [ClrType.hasFields, htsf, ClrType.weight]
              exact ⟨by simpa using hne, by dsimp only; omega⟩
          | _ =>
              rw [hd] at h
              first
                | cases h
                  exact ⟨rfl, by simp only [ClrType.weight]; omega⟩
                | cases h

theorem toInnerTypes_weight {data : Bytes} : (n : Nat) → {pos pos' : Nat} → {ts : List ClrType} →
    toInnerTypes n data pos = .ok (ts, pos') →
    ClrType.allHaveFields ts = true ∧ ClrType.weights ts + 4 * pos ≤ 4 * pos'
  | 0, _, _, _, h => by cases h
  | n + 1, pos, pos', ts, h => by
      rw [toInnerTypes] at h
      cases hb : data[pos]? with
      | none =>
          rw [hb] at h
          cases h
      | some b =>
          rw [hb] at h
          dsimp only at h
          split_ifs at h
          · cases h
            exact ⟨rfl, by rw [ClrType.weights]; omega⟩
          · obtain ⟨⟨u, p⟩, hu, h⟩ := bind_eq_ok.mp h
            obtain ⟨⟨us, q⟩, hus, h⟩ := bind_eq_ok.mp h
            cases h
            obtain ⟨huf, huw⟩ := toType_weight n hu
            obtain ⟨husf, husw⟩ := toInnerTypes_weight n hus
            rw [ClrType.allHaveFields, huf, husf, ClrType.weights]
            exact ⟨rfl, by dsimp only; omega⟩

end

/-- The types of signatures that the reader accepts. -/
theorem signatureToType_weight {sig : Bytes} {t : ClrType} (h : signatureToType sig = .ok t) :
    t.hasFields = true ∧ t.weight + 1 ≤ 4 * sig.length := by
  obtain ⟨⟨u, p⟩, hu, h⟩ := bind_eq_ok.mp h
  obtain ⟨hf, hw⟩ := toType_weight _ hu
  dsimp only at h
  split_ifs at h with hp
  · cases h
  · cases h
    rw [not_ne_iff.mp hp] at hw
    exact ⟨hf, by omega⟩

theorem runs_liftEx {α : Type} {r : Except CSharpException α} {a : α} {pos pos' : Nat}
    (h : Runs (liftEx r) pos a pos') : r = .ok a ∧ pos = pos' := by
  cases r with
  | error ex => exact absurd h runs_throw
  | ok b =>
      obtain ⟨rfl, rfl⟩ := runs_pure.mp h
      exact ⟨rfl, rfl⟩

/-! ## §5. The depth that suffices. -/

/-- No type that is read from a signature is larger. -/
def dynamicWeight : Nat := 4 * maxSignatureLength

/-- The depth that suffices for the bytes in front of the reader. -/
def byteDepth (data : Bytes) (pos : Nat) : Nat := (data.length - pos) * dynamicWeight

theorem byteDepth_mono {data : Bytes} {pos pos' : Nat} (h : pos ≤ pos') :
    byteDepth data pos' ≤ byteDepth data pos :=
  Nat.mul_le_mul_right _ (by omega)

/-- Each byte makes room for a type that is read from a signature. -/
theorem byteDepth_step {data : Bytes} {pos pos' : Nat} (h : pos + 1 ≤ pos')
    (hroom : pos < data.length) : byteDepth data pos' + dynamicWeight ≤ byteDepth data pos := by
  unfold byteDepth
  rw [← Nat.succ_mul]
  exact Nat.mul_le_mul_right _ (by omega)

section Finish

variable {sameKey : {k : ClrType} → Value k → Value k → Bool} {e : Endian} {data : Bytes}

theorem Moves.byteDepth_le {α : Type} {x : Reader α} {k pos pos' : Nat} {a : α}
    (h : Moves data k x) (hrun : Runs x pos a pos') :
    byteDepth data pos' ≤ byteDepth data pos :=
  byteDepth_mono (Nat.le_trans (Nat.le_add_right _ _) (h pos a pos' hrun).1)

/-- The fields of a copied structure are numbers. -/
theorem fieldsOf_isSome {size : Nat} : {ts : List ClrType} → (bytes : Bytes) →
    ClrType.AllOfSize size ts → ∃ fs, fieldsOf e ts bytes = some fs
  | [], _, _ => ⟨.nil, rfl⟩
  | t :: ts, bytes, hall => by
      obtain ⟨p, rfl, -⟩ := hall t (by simp)
      obtain ⟨fs, hfs⟩ := fieldsOf_isSome (bytes.drop p.size)
        fun u hu => hall u (List.mem_cons_of_mem _ hu)
      exact ⟨_, by rw [fieldsOf, hfs]; rfl⟩

mutual

/-- **The depth of the calls is bounded** by the size of the type and the
    bytes in front of the reader. -/
theorem readValue_finishes : (n : Nat) → (t : ClrType) → (pos : Nat) → t.hasFields = true →
    t.weight + byteDepth data pos ≤ n →
    Avoids .unfinished (readValue sameKey e data n t) pos
  | 0, t, pos, _, hn => by
      have hpos : 0 < t.weight := by cases t <;> simp [ClrType.weight]
      omega
  | n + 1, .primitive p, pos, _, _ => by
      rw [readValue]
      exact (readPrimitive_finishes.bind fun _ => never_pure _) pos
  | n + 1, .boolean, pos, _, _ => by
      rw [readValue]
      exact (readBoolean_finishes.bind fun _ => never_pure _) pos
  | n + 1, .string, pos, _, _ => by
      rw [readValue]
      exact (readString_finishes.bind fun _ => never_pure _) pos
  | n + 1, .objectPath, pos, _, _ => by
      rw [readValue]
      exact (readObjectPath_finishes.bind fun _ => never_pure _) pos
  | n + 1, .signature, pos, _, _ => by
      rw [readValue]
      exact (readSignature_finishes.bind fun _ => never_pure _) pos
  | n + 1, .object, pos, _, hn => by
      have hweight : ClrType.object.weight = 1 := rfl
      rw [readValue]
      refine avoids_bind (readSignature_finishes pos) fun sig p hsig => ?_
      refine avoids_bind (liftEx_finishes _ p) fun single q hsingle => ?_
      split_ifs
      · exact finishes_throwEx q
      · refine avoids_bind (liftEx_finishes _ q) fun t r htype => ?_
        -- the bytes of the signature make room for its type
        obtain ⟨-, rfl⟩ := runs_liftEx hsingle
        obtain ⟨ht, rfl⟩ := runs_liftEx htype
        obtain ⟨htf, htw⟩ := signatureToType_weight ht
        obtain ⟨hmove, hroom⟩ := readSignature_moves _ _ _ hsig
        have hstep := byteDepth_step hmove (hroom (by decide))
        have hlen := length_readSignature hsig
        have hdynamic : dynamicWeight = 4 * maxSignatureLength := rfl
        exact readBoxed_finishes n t p htf (by omega)
  | n + 1, .array t, pos, hf, hn => by
      rw [ClrType.weight] at hn
      by_cases hprim : ∃ p, t = .primitive p
      · obtain ⟨p, rfl⟩ := hprim
        rw [readValue]
        exact (readArrayLength_finishes.bind fun _ =>
          marshalArray_finishes.bind fun _ => never_pure _) pos
      · by_cases hbool : t = .boolean
        · subst hbool
          rw [readValue]
          exact (readArrayLength_finishes.bind fun _ =>
            marshalBoolArray_finishes.bind fun _ => never_pure _) pos
        · have hnone : t.asPrimitive = none := by
            cases t with
            | primitive p => exact absurd ⟨p, rfl⟩ hprim
            | _ => rfl
          rw [readValue_array hnone hbool]
          refine avoids_bind (readArrayLength_finishes pos) fun ln p hln => ?_
          have hdepth := readArrayLength_moves.byteDepth_le hln
          refine avoids_get_bind (avoids_bind
            (readElements_finishes n t _ p hf (by omega)) fun vs q _ => ?_)
          exact (checkEnd_finishes.bind fun _ => never_pure _) q
  | n + 1, .dictionary k v, pos, hf, hn => by
      rw [ClrType.weight] at hn
      rw [ClrType.hasFields, Bool.and_eq_true] at hf
      rw [readValue]
      refine avoids_bind (readLength_finishes pos) fun ln p hln => ?_
      have hdepth := readLength_moves.byteDepth_le hln
      refine avoids_get_bind (avoids_bind
        (readEntries_finishes n k v _ [] p hf.1 hf.2 (by omega)) fun es q _ => ?_)
      exact (checkEnd_finishes.bind fun _ => never_pure _) q
  | n + 1, .struct ts, pos, hf, hn => by
      rw [ClrType.weight] at hn
      rw [ClrType.hasFields, Bool.and_eq_true] at hf
      rw [readValue]
      refine avoids_bind (readPad_finishes pos) fun u p hpad => ?_
      have hdepth := readPad_moves.byteDepth_le hpad
      have hfields : Avoids .unfinished
          (do let fs ← readFields sameKey e data n ts; return Value.struct fs) p :=
        avoids_bind (readFields_finishes n ts p hf.2 (by omega)) fun fs q _ => avoids_pure _
      by_cases hnone : ts.length = 0
      · rw [if_pos hnone]
        exact hfields
      · rw [if_neg hnone]
        by_cases heligible : ClrType.isEligibleStruct ts = true
        · rw [if_pos heligible]
          obtain ⟨q, hall, -⟩ := ClrType.allOfSize_of_eligible heligible
          refine avoids_bind (directCopy_finishes p) fun bytes r _ => ?_
          obtain ⟨fs, hfs⟩ := fieldsOf_isSome bytes hall
          rw [hfs]
          exact avoids_pure _
        · rw [if_neg heligible]
          exact hfields
  | n + 1, .keyValuePair, pos, _, _ => by
      rw [readValue]
      exact (readPad_finishes.bind fun _ => finishes_throwEx) pos

theorem readBoxed_finishes : (n : Nat) → (t : ClrType) → (pos : Nat) → t.hasFields = true →
    t.weight + 1 + byteDepth data pos ≤ n →
    Avoids .unfinished (readBoxed sameKey e data n t) pos
  | 0, _, _, _, hn => by omega
  | n + 1, t, pos, hf, hn => by
      rw [readBoxed]
      refine avoids_bind (readValue_finishes n t pos hf (by omega)) fun v p _ => ?_
      cases t <;> exact avoids_pure _

theorem readElements_finishes : (n : Nat) → (t : ClrType) → (endPos pos : Nat) →
    t.hasFields = true → t.weight + 1 + byteDepth data pos ≤ n →
    Avoids .unfinished (readElements sameKey e data n t endPos) pos
  | 0, _, _, _, _, hn => by omega
  | n + 1, t, endPos, pos, hf, hn => by
      rw [readElements]
      refine avoids_get_bind ?_
      split_ifs
      · refine avoids_bind (readValue_finishes n t pos hf (by omega)) fun v p hv => ?_
        obtain ⟨hmove, hroom⟩ := readValue_moves n t pos v p hv
        rw [ClrType.leastBytes, if_pos hf] at hmove hroom
        have hstep := byteDepth_step hmove (hroom (by decide))
        have hdynamic : dynamicWeight = 1020 := rfl
        exact avoids_bind (readElements_finishes n t endPos p hf (by omega))
          fun vs q _ => avoids_pure _
      · exact avoids_pure _

theorem readEntries_finishes : (n : Nat) → (k v : ClrType) → (endPos : Nat) →
    (keys : List (Value k)) → (pos : Nat) → k.hasFields = true → v.hasFields = true →
    k.weight + v.weight + 1 + byteDepth data pos ≤ n →
    Avoids .unfinished (readEntries sameKey e data n k v endPos keys) pos
  | 0, _, _, _, _, _, _, _, hn => by omega
  | n + 1, k, v, endPos, keys, pos, hk, hv, hn => by
      rw [readEntries]
      refine avoids_get_bind ?_
      split_ifs
      · refine avoids_bind (readPad_finishes pos) fun u p hpad => ?_
        have hdepth := readPad_moves.byteDepth_le hpad
        refine avoids_bind (readValue_finishes n k p hk (by omega)) fun key q hkey => ?_
        obtain ⟨hmove, hroom⟩ := readValue_moves n k p key q hkey
        rw [ClrType.leastBytes, if_pos hk] at hmove hroom
        have hstep := byteDepth_step hmove (hroom (by decide))
        have hdynamic : dynamicWeight = 1020 := rfl
        refine avoids_bind (readValue_finishes n v q hv (by omega)) fun value r hvalue => ?_
        have hdepth' := (readValue_moves n v).byteDepth_le hvalue
        split_ifs
        · exact finishes_throwEx r
        · exact avoids_bind (readEntries_finishes n k v endPos (key :: keys) r hk hv (by omega))
            fun es s _ => avoids_pure _
      · exact avoids_pure _

theorem readFields_finishes : (n : Nat) → (ts : List ClrType) → (pos : Nat) →
    ClrType.allHaveFields ts = true → ClrType.weights ts + byteDepth data pos ≤ n →
    Avoids .unfinished (readFields sameKey e data n ts) pos
  | 0, ts, pos, _, hn => by
      have hpos : 0 < ClrType.weights ts := by cases ts <;> simp [ClrType.weights]
      omega
  | n + 1, [], pos, _, _ => by
      rw [readFields]
      exact avoids_pure _
  | n + 1, t :: ts, pos, h, hn => by
      rw [ClrType.weights] at hn
      rw [ClrType.allHaveFields, Bool.and_eq_true] at h
      rw [readFields]
      refine avoids_bind (readValue_finishes n t pos h.1 (by omega)) fun v p hv => ?_
      have hdepth := (readValue_moves n t).byteDepth_le hv
      exact avoids_bind (readFields_finishes n ts p h.2 (by omega)) fun fs q _ => avoids_pure _

end

end Finish

/-! ## §6. A larger depth changes nothing. -/

section Deeper

variable {sameKey : {k : ClrType} → Value k → Value k → Bool} {e : Endian} {data : Bytes}

mutual

/-- One level more. -/
theorem readValue_extends_succ : (n : Nat) → (t : ClrType) →
    Extends .unfinished (readValue sameKey e data n t) (readValue sameKey e data (n + 1) t)
  | 0, t => by
      rw [readValue]
      exact extends_throw
  | n + 1, .primitive p | n + 1, .boolean | n + 1, .string | n + 1, .objectPath
  | n + 1, .signature | n + 1, .keyValuePair => by
      rw [readValue, readValue]
      exact Extends.refl _ _
  | n + 1, .object => by
      rw [readValue, readValue]
      refine (Extends.refl _ _).bind fun sig => (Extends.refl _ _).bind fun single => ?_
      exact (Extends.refl _ _).ite ((Extends.refl _ _).bind fun t => readBoxed_extends_succ n t)
  | n + 1, .array t => by
      by_cases hprim : ∃ p, t = .primitive p
      · obtain ⟨p, rfl⟩ := hprim
        rw [readValue, readValue]
        exact Extends.refl _ _
      · by_cases hbool : t = .boolean
        · subst hbool
          rw [readValue, readValue]
          exact Extends.refl _ _
        · have hnone : t.asPrimitive = none := by
            cases t with
            | primitive p => exact absurd ⟨p, rfl⟩ hprim
            | _ => rfl
          rw [readValue_array hnone hbool, readValue_array hnone hbool]
          refine (Extends.refl _ _).bind fun ln => (Extends.refl _ _).bind fun pos => ?_
          exact (readElements_extends_succ n t _).bind fun vs => Extends.refl _ _
  | n + 1, .dictionary k v => by
      rw [readValue, readValue]
      refine (Extends.refl _ _).bind fun ln => (Extends.refl _ _).bind fun pos => ?_
      exact (readEntries_extends_succ n k v _ _).bind fun es => Extends.refl _ _
  | n + 1, .struct ts => by
      rw [readValue, readValue]
      have hfields := (readFields_extends_succ n ts).bind fun fs =>
        Extends.refl .unfinished (pure (Value.struct fs) : Reader (Value (.struct ts)))
      exact (Extends.refl _ _).bind fun u => hfields.ite ((Extends.refl _ _).ite hfields)

theorem readBoxed_extends_succ : (n : Nat) → (t : ClrType) →
    Extends .unfinished (readBoxed sameKey e data n t) (readBoxed sameKey e data (n + 1) t)
  | 0, t => by
      rw [readBoxed]
      exact extends_throw
  | n + 1, t => by
      rw [readBoxed, readBoxed]
      exact (readValue_extends_succ n t).bind fun v => Extends.refl _ _

theorem readElements_extends_succ : (n : Nat) → (t : ClrType) → (endPos : Nat) →
    Extends .unfinished (readElements sameKey e data n t endPos)
      (readElements sameKey e data (n + 1) t endPos)
  | 0, t, endPos => by
      rw [readElements]
      exact extends_throw
  | n + 1, t, endPos => by
      rw [readElements, readElements]
      refine (Extends.refl _ _).bind fun pos => Extends.ite ?_ (Extends.refl _ _)
      exact (readValue_extends_succ n t).bind fun v =>
        (readElements_extends_succ n t endPos).bind fun vs => Extends.refl _ _

theorem readEntries_extends_succ : (n : Nat) → (k v : ClrType) → (endPos : Nat) →
    (keys : List (Value k)) → Extends .unfinished (readEntries sameKey e data n k v endPos keys)
      (readEntries sameKey e data (n + 1) k v endPos keys)
  | 0, k, v, endPos, keys => by
      rw [readEntries]
      exact extends_throw
  | n + 1, k, v, endPos, keys => by
      rw [readEntries, readEntries]
      refine (Extends.refl _ _).bind fun pos => Extends.ite ?_ (Extends.refl _ _)
      refine (Extends.refl _ _).bind fun u => (readValue_extends_succ n k).bind fun key => ?_
      refine (readValue_extends_succ n v).bind fun value => (Extends.refl _ _).ite ?_
      exact (readEntries_extends_succ n k v endPos (key :: keys)).bind fun es => Extends.refl _ _

theorem readFields_extends_succ : (n : Nat) → (ts : List ClrType) →
    Extends .unfinished (readFields sameKey e data n ts) (readFields sameKey e data (n + 1) ts)
  | 0, ts => by
      rw [readFields]
      exact extends_throw
  | n + 1, [] => by
      rw [readFields, readFields]
      exact Extends.refl _ _
  | n + 1, t :: ts => by
      rw [readFields, readFields]
      exact (readValue_extends_succ n t).bind fun v =>
        (readFields_extends_succ n ts).bind fun fs => Extends.refl _ _

end

/-- **A larger depth changes nothing** but an unfinished run. -/
theorem readValue_extends {n m : Nat} (h : n ≤ m) (t : ClrType) :
    Extends .unfinished (readValue sameKey e data n t) (readValue sameKey e data m t) := by
  induction h with
  | refl => exact Extends.refl _ _
  | step _ ih => exact ih.trans (readValue_extends_succ _ t)

/-- The depth that suffices for all data, from any position. -/
def readDepth (data : Bytes) (t : ClrType) : Nat := t.weight + byteDepth data 0

variable (sameKey e data) in
/-- `ReadValue (type)`, as deep as it goes. -/
def MessageReader.read (t : ClrType) : Reader (Value t) :=
  readValue sameKey e data (readDepth data t) t

theorem read_finishes {t : ClrType} (h : t.hasFields = true) (pos : Nat) :
    Avoids .unfinished (MessageReader.read sameKey e data t) pos := by
  refine readValue_finishes _ t pos h ?_
  exact Nat.add_le_add_left (byteDepth_mono (Nat.zero_le pos)) _

/-- What is read at some depth is read. -/
theorem read_of_runs {n pos pos' : Nat} {t : ClrType} {v : Value t} (ht : t.hasFields = true)
    (h : Runs (readValue sameKey e data n t) pos v pos') :
    Runs (MessageReader.read sameKey e data t) pos v pos' := by
  rcases Nat.le_total n (readDepth data t) with hle | hle
  · exact (readValue_extends hle t).runs h
  · have hread : Avoids .unfinished (readValue sameKey e data (readDepth data t) t) pos :=
      read_finishes ht pos
    exact (readValue_extends hle t pos hread).symm.trans h

/-- **Reading comes to an end**, whatever the data are: at every depth that
    suffices there is an outcome, and it is the same. -/
theorem reading_ends {t : ClrType} (ht : t.hasFields = true) {n m : Nat}
    {pos : Nat} (hn : t.weight + byteDepth data pos ≤ n) (hm : n ≤ m) :
    readValue sameKey e data n t pos ≠ .error .unfinished
      ∧ readValue sameKey e data m t pos = readValue sameKey e data n t pos := by
  have hfinishes : Avoids .unfinished (readValue sameKey e data n t) pos :=
    readValue_finishes n t pos ht hn
  exact ⟨hfinishes, readValue_extends hm t pos hfinishes⟩

theorem reading_ends_variant :
    readValue (fun _ _ => false) (Endian.own .littleEndian) [1, 118, 0] 3061 .object 0
        ≠ .error .unfinished
      ∧ readValue (fun _ _ => false) (Endian.own .littleEndian) [1, 118, 0] 4000 .object 0
        = readValue (fun _ _ => false) (Endian.own .littleEndian) [1, 118, 0] 3061 .object 0 :=
  reading_ends (by rfl) (by decide) (by decide)

end Deeper

end SapDbLib
