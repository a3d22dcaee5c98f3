/-
  SapDbLib.Library.Utf8 — TEXTS AS UTF-8.

  UTF-16 texts written as UTF-8 bytes and read back, with the replacement
  character U+FFFD where a text or the bytes are not well formed: a lone
  surrogate is written as U+FFFD, and every maximal broken sequence of bytes
  is read as one.

    * `decode_scalarBytes` — the reading machine takes the bytes of one
      scalar value and is back between characters;
    * `ofScalars_scalars` — splitting a text into scalar values loses its
      lone surrogates only;
    * `utf8Decode_utf8Encode` — **what is read back is the text with its lone
      surrogates replaced**, so a well-formed text is read back as it is;
    * `decodeFrom_append_ascii` — a byte below 128 stands for itself,
      whatever is in front of it;
    * `wellFormed_ascii` — a text of units below 128 is well formed.
-/
import SapDbLib.Library.Bytes
import SapDbLib.Library.Text

namespace SapDbLib.Library

/-! ## §1. Scalar values and UTF-16. -/

/-- A Unicode scalar value. -/
def IsScalar (c : Nat) : Prop := c < 0xD800 ∨ 0xE000 ≤ c ∧ c < 0x110000

instance (c : Nat) : Decidable (IsScalar c) := inferInstanceAs (Decidable (_ ∨ _))

/-- U+FFFD. -/
def replacement : Nat := 0xFFFD

/-- The first unit of a surrogate pair. -/
def isHigh (u : UInt16) : Bool := 0xD800 ≤ u.toNat && u.toNat < 0xDC00

/-- The second unit of a surrogate pair. -/
def isLow (u : UInt16) : Bool := 0xDC00 ≤ u.toNat && u.toNat < 0xE000

/-- The scalar value of a surrogate pair. -/
def pairValue (u v : UInt16) : Nat := 0x10000 + (u.toNat - 0xD800) * 1024 + (v.toNat - 0xDC00)

/-- The scalar value of a unit outside any pair. -/
def unitValue (u : UInt16) : Nat := if isHigh u || isLow u then replacement else u.toNat

/-- The scalar values of a text. -/
def scalars : Text → List Nat
  | [] => []
  | [u] => [unitValue u]
  | u :: v :: rest =>
      if isHigh u && isLow v then pairValue u v :: scalars rest
      else unitValue u :: scalars (v :: rest)

/-- The units of a scalar value. -/
def scalarUnits (c : Nat) : Text :=
  if c < 0x10000 then [UInt16.ofNat c]
  else [UInt16.ofNat (0xD800 + (c - 0x10000) / 1024), UInt16.ofNat (0xDC00 + (c - 0x10000) % 1024)]

/-- The text of some scalar values. -/
def ofScalars (cs : List Nat) : Text := cs.flatMap scalarUnits

/-- The text with every lone surrogate replaced. -/
def toWellFormed : Text → Text
  | [] => []
  | [u] => [UInt16.ofNat (unitValue u)]
  | u :: v :: rest =>
      if isHigh u && isLow v then u :: v :: toWellFormed rest
      else UInt16.ofNat (unitValue u) :: toWellFormed (v :: rest)

/-- No lone surrogates. -/
def WellFormed (s : Text) : Prop := toWellFormed s = s

instance (s : Text) : Decidable (WellFormed s) := inferInstanceAs (Decidable (_ = _))

theorem unitValue_lt (u : UInt16) : unitValue u < 0x10000 := by
  unfold unitValue replacement
  have hu : u.toNat < 65536 := u.toNat_lt
  split <;> omega

theorem isScalar_unitValue (u : UInt16) : IsScalar (unitValue u) := by
  have hu : u.toNat < 65536 := u.toNat_lt
  unfold unitValue IsScalar replacement
  split
  next => omega
  next h =>
    simp only [isHigh, isLow, Bool.or_eq_true, Bool.and_eq_true, decide_eq_true_eq] at h
    omega

theorem isScalar_pairValue {u v : UInt16} (hu : isHigh u) (hv : isLow v) :
    IsScalar (pairValue u v) := by
  simp only [isHigh, isLow, Bool.and_eq_true, decide_eq_true_eq] at hu hv
  unfold pairValue IsScalar
  omega

/-- All of them are scalar values. -/
theorem isScalar_scalars (s : Text) : ∀ c ∈ scalars s, IsScalar c := by
  induction s using scalars.induct with
  | case1 => simp [scalars]
  | case2 u =>
      intro c hc
      rw [scalars, List.mem_singleton] at hc
      exact hc ▸ isScalar_unitValue u
  | case3 u v rest hpair ih =>
      intro c hc
      rw [scalars, if_pos hpair, List.mem_cons] at hc
      rw [Bool.and_eq_true] at hpair
      rcases hc with hc | hc
      · rw [hc]
        exact isScalar_pairValue hpair.1 hpair.2
      · exact ih c hc
  | case4 u v rest hpair ih =>
      intro c hc
      rw [scalars, if_neg hpair, List.mem_cons] at hc
      rcases hc with rfl | hc
      · exact isScalar_unitValue u
      · exact ih c hc

theorem scalarUnits_unitValue (u : UInt16) :
    scalarUnits (unitValue u) = [UInt16.ofNat (unitValue u)] := by
  rw [scalarUnits, if_pos (unitValue_lt u)]

theorem scalarUnits_pairValue {u v : UInt16} (hu : isHigh u) (hv : isLow v) :
    scalarUnits (pairValue u v) = [u, v] := by
  simp only [isHigh, isLow, Bool.and_eq_true, decide_eq_true_eq] at hu hv
  have hbig : ¬ pairValue u v < 0x10000 := by
    unfold pairValue
    omega
  have hhigh : 0xD800 + (pairValue u v - 0x10000) / 1024 = u.toNat := by
    unfold pairValue
    omega
  have hlow : 0xDC00 + (pairValue u v - 0x10000) % 1024 = v.toNat := by
    unfold pairValue
    omega
  generalize pairValue u v = c at hbig hhigh hlow ⊢
  rw [scalarUnits, if_neg hbig, hhigh, hlow, UInt16.ofNat_toNat, UInt16.ofNat_toNat]

/-- **Splitting a text into scalar values** loses its lone surrogates only. -/
theorem ofScalars_scalars (s : Text) : ofScalars (scalars s) = toWellFormed s := by
  unfold ofScalars
  induction s using scalars.induct with
  | case1 => rfl
  | case2 u => simp [scalars, toWellFormed, scalarUnits_unitValue]
  | case3 u v rest hpair ih =>
      rw [scalars, toWellFormed, if_pos hpair, if_pos hpair, List.flatMap_cons, ih]
      rw [Bool.and_eq_true] at hpair
      rw [scalarUnits_pairValue hpair.1 hpair.2]
      rfl
  | case4 u v rest hpair ih =>
      rw [scalars, toWellFormed, if_neg hpair, if_neg hpair, List.flatMap_cons, ih,
          scalarUnits_unitValue]
      rfl

/-! ## §2. UTF-8. -/

/-- The bytes of a scalar value. -/
def scalarBytes (c : Nat) : Bytes :=
  if c < 0x80 then [UInt8.ofNat c]
  else if c < 0x800 then [UInt8.ofNat (0xC0 + c / 64), UInt8.ofNat (0x80 + c % 64)]
  else if c < 0x10000 then
    [UInt8.ofNat (0xE0 + c / 4096), UInt8.ofNat (0x80 + c / 64 % 64), UInt8.ofNat (0x80 + c % 64)]
  else
    [UInt8.ofNat (0xF0 + c / 262144), UInt8.ofNat (0x80 + c / 4096 % 64),
     UInt8.ofNat (0x80 + c / 64 % 64), UInt8.ofNat (0x80 + c % 64)]

/-- The bytes of a text. -/
def utf8Encode (s : Text) : Bytes := (scalars s).flatMap scalarBytes

/-- A character begun: its value so far, how many bytes are missing and the
    bounds of the next one. -/
structure Partial where
  acc : Nat
  missing : Nat
  low : Nat
  high : Nat
  deriving DecidableEq, Repr

/-- A byte between characters: what it ends and what it begins. -/
def firstByte (b : Nat) : List Nat × Option Partial :=
  if b < 0x80 then ([b], none)
  else if 0xC2 ≤ b ∧ b ≤ 0xDF then ([], some ⟨b - 0xC0, 1, 0x80, 0xBF⟩)
  else if 0xE0 ≤ b ∧ b ≤ 0xEF then
    ([], some ⟨b - 0xE0, 2, if b = 0xE0 then 0xA0 else 0x80, if b = 0xED then 0x9F else 0xBF⟩)
  else if 0xF0 ≤ b ∧ b ≤ 0xF4 then
    ([], some ⟨b - 0xF0, 3, if b = 0xF0 then 0x90 else 0x80, if b = 0xF4 then 0x8F else 0xBF⟩)
  else ([replacement], none)

/-- A byte inside a character.  One that does not belong there ends the
    character as broken and counts as the first of the next. -/
def nextByte (p : Partial) (b : Nat) : List Nat × Option Partial :=
  if p.low ≤ b ∧ b ≤ p.high then
    if p.missing = 1 then ([p.acc * 64 + (b - 0x80)], none)
    else ([], some ⟨p.acc * 64 + (b - 0x80), p.missing - 1, 0x80, 0xBF⟩)
  else (replacement :: (firstByte b).1, (firstByte b).2)

/-- The scalar values of some bytes. -/
def decodeFrom : Option Partial → Bytes → List Nat
  | none, [] => []
  | some _, [] => [replacement]
  | none, b :: bs => (firstByte b.toNat).1 ++ decodeFrom (firstByte b.toNat).2 bs
  | some p, b :: bs => (nextByte p b.toNat).1 ++ decodeFrom (nextByte p b.toNat).2 bs

/-- The text of some bytes. -/
def utf8Decode (bs : Bytes) : Text := ofScalars (decodeFrom none bs)

/-- A byte inside its bounds goes on with the character. -/
theorem decodeFrom_inside {p : Partial} {b : Nat} (bs : Bytes) (h : p.low ≤ b ∧ b ≤ p.high)
    (hb : b < 256) (hmore : p.missing ≠ 1) :
    decodeFrom (some p) (UInt8.ofNat b :: bs)
      = decodeFrom (some ⟨p.acc * 64 + (b - 0x80), p.missing - 1, 0x80, 0xBF⟩) bs := by
  have hval : (UInt8.ofNat b).toNat = b := by
    rw [UInt8.toNat_ofNat']
    omega
  rw [decodeFrom, hval, nextByte, if_pos h, if_neg hmore]
  rfl

/-- The last byte of a character ends it. -/
theorem decodeFrom_last {p : Partial} {b : Nat} (bs : Bytes) (h : p.low ≤ b ∧ b ≤ p.high)
    (hb : b < 256) (hlast : p.missing = 1) :
    decodeFrom (some p) (UInt8.ofNat b :: bs)
      = (p.acc * 64 + (b - 0x80)) :: decodeFrom none bs := by
  have hval : (UInt8.ofNat b).toNat = b := by
    rw [UInt8.toNat_ofNat']
    omega
  rw [decodeFrom, hval, nextByte, if_pos h, if_pos hlast]
  rfl

/-- The first byte of a character. -/
theorem decodeFrom_first {b : Nat} {p : Partial} (bs : Bytes) (hb : b < 256)
    (h : firstByte b = ([], some p)) :
    decodeFrom none (UInt8.ofNat b :: bs) = decodeFrom (some p) bs := by
  have hval : (UInt8.ofNat b).toNat = b := by
    rw [UInt8.toNat_ofNat']
    omega
  rw [decodeFrom, hval, h]
  rfl

/-- **The machine takes the bytes of a scalar value** and is back between
    characters. -/
theorem decode_scalarBytes {c : Nat} (h : IsScalar c) (bs : Bytes) :
    decodeFrom none (scalarBytes c ++ bs) = c :: decodeFrom none bs := by
  unfold IsScalar at h
  unfold scalarBytes
  split_ifs with h1 h2 h3
  · -- one byte
    have hval : (UInt8.ofNat c).toNat = c := by
      rw [UInt8.toNat_ofNat']
      omega
    rw [List.singleton_append, decodeFrom, hval, firstByte, if_pos h1]
    rfl
  · -- two
    have hfirst : firstByte (0xC0 + c / 64) = ([], some ⟨c / 64, 1, 0x80, 0xBF⟩) := by
      have hval : 0xC0 + c / 64 - 0xC0 = c / 64 := by omega
      rw [firstByte, if_neg (by omega), if_pos (by omega), hval]
    have hval : c / 64 * 64 + (0x80 + c % 64 - 0x80) = c := by omega
    have hlast : 0x80 ≤ 0x80 + c % 64 ∧ 0x80 + c % 64 ≤ 0xBF := by omega
    show decodeFrom none (_ :: _ :: bs) = _
    rw [decodeFrom_first _ (by omega) hfirst,
        decodeFrom_last _ hlast (by omega) rfl]
    dsimp only
    rw [hval]
  · -- three: the bounds of the second byte rule out overlong forms and surrogates
    have hfirst : firstByte (0xE0 + c / 4096)
        = ([], some ⟨c / 4096, 2, if 0xE0 + c / 4096 = 0xE0 then 0xA0 else 0x80,
            if 0xE0 + c / 4096 = 0xED then 0x9F else 0xBF⟩) := by
      have hval : 0xE0 + c / 4096 - 0xE0 = c / 4096 := by omega
      rw [firstByte, if_neg (by omega), if_neg (by omega), if_pos (by omega), hval]
    have hsecond : (if 0xE0 + c / 4096 = 0xE0 then 0xA0 else 0x80) ≤ 0x80 + c / 64 % 64
        ∧ 0x80 + c / 64 % 64 ≤ (if 0xE0 + c / 4096 = 0xED then 0x9F else 0xBF) := by
      split_ifs <;> omega
    have hval : (c / 4096 * 64 + (0x80 + c / 64 % 64 - 0x80)) * 64 + (0x80 + c % 64 - 0x80)
        = c := by
      omega
    have hlast : 0x80 ≤ 0x80 + c % 64 ∧ 0x80 + c % 64 ≤ 0xBF := by omega
    show decodeFrom none (_ :: _ :: _ :: bs) = _
    rw [decodeFrom_first _ (by omega) hfirst,
        decodeFrom_inside _ hsecond (by omega) (Nat.succ_ne_self 1),
        decodeFrom_last _ hlast (by omega) rfl]
    dsimp only
    rw [hval]
  · -- four: likewise for values above U+10FFFF
    have hfirst : firstByte (0xF0 + c / 262144)
        = ([], some ⟨c / 262144, 3, if 0xF0 + c / 262144 = 0xF0 then 0x90 else 0x80,
            if 0xF0 + c / 262144 = 0xF4 then 0x8F else 0xBF⟩) := by
      have hval : 0xF0 + c / 262144 - 0xF0 = c / 262144 := by omega
      rw [firstByte, if_neg (by omega), if_neg (by omega), if_neg (by omega), if_pos (by omega),
          hval]
    have hsecond : (if 0xF0 + c / 262144 = 0xF0 then 0x90 else 0x80) ≤ 0x80 + c / 4096 % 64
        ∧ 0x80 + c / 4096 % 64 ≤ (if 0xF0 + c / 262144 = 0xF4 then 0x8F else 0xBF) := by
      split_ifs <;> omega
    have hval : ((c / 262144 * 64 + (0x80 + c / 4096 % 64 - 0x80)) * 64
        + (0x80 + c / 64 % 64 - 0x80)) * 64 + (0x80 + c % 64 - 0x80) = c := by
      omega
    have hthird : 0x80 ≤ 0x80 + c / 64 % 64 ∧ 0x80 + c / 64 % 64 ≤ 0xBF := by omega
    have hlast : 0x80 ≤ 0x80 + c % 64 ∧ 0x80 + c % 64 ≤ 0xBF := by omega
    show decodeFrom none (_ :: _ :: _ :: _ :: bs) = _
    rw [decodeFrom_first _ (by omega) hfirst,
        decodeFrom_inside _ hsecond (by omega) (by simp),
        decodeFrom_inside _ hthird (by omega) (by simp),
        decodeFrom_last _ hlast (by omega) rfl]
    dsimp only
    rw [hval]

theorem decodeFrom_flatMap {cs : List Nat} (h : ∀ c ∈ cs, IsScalar c) :
    decodeFrom none (cs.flatMap scalarBytes) = cs := by
  induction cs with
  | nil => rfl
  | cons c cs ih =>
      rw [List.flatMap_cons, decode_scalarBytes (h c (by simp)),
          ih fun x hx => h x (List.mem_cons_of_mem c hx)]

/-- **What is read back is the text with its lone surrogates replaced.** -/
theorem utf8Decode_utf8Encode (s : Text) : utf8Decode (utf8Encode s) = toWellFormed s := by
  rw [utf8Decode, utf8Encode, decodeFrom_flatMap (isScalar_scalars s), ofScalars_scalars]

/-- A well-formed text is read back as it is. -/
theorem utf8Decode_of_wellFormed {s : Text} (h : WellFormed s) :
    utf8Decode (utf8Encode s) = s := by
  rw [utf8Decode_utf8Encode]
  exact h

/-- What a byte begins goes on with bytes from 128 up. -/
theorem firstByte_low (b : Nat) : ∀ p ∈ (firstByte b).2, 0x80 ≤ p.low := by
  intro p hp
  unfold firstByte at hp
  split_ifs at hp <;> simp only [Option.mem_def, reduceCtorEq, Option.some.injEq] at hp
  all_goals
    have hlow := congrArg Partial.low hp
    dsimp only at hlow
    omega

theorem nextByte_low (p : Partial) (b : Nat) : ∀ q ∈ (nextByte p b).2, 0x80 ≤ q.low := by
  intro q hq
  unfold nextByte at hq
  by_cases hin : p.low ≤ b ∧ b ≤ p.high
  · rw [if_pos hin] at hq
    split_ifs at hq <;> simp only [Option.mem_def, reduceCtorEq, Option.some.injEq] at hq
    rw [← hq]
  · rw [if_neg hin] at hq
    exact firstByte_low b q hq

/-- A byte below 128 is a character of its own, whatever is in front of it. -/
theorem decodeFrom_append_ascii {b : UInt8} (hb : b.toNat < 0x80) (xs ys : Bytes)
    (st : Option Partial) (hst : ∀ p ∈ st, 0x80 ≤ p.low) :
    decodeFrom st (xs ++ b :: ys) = decodeFrom st xs ++ b.toNat :: decodeFrom none ys := by
  have hfirst : firstByte b.toNat = ([b.toNat], none) := if_pos hb
  induction xs generalizing st with
  | nil =>
      cases st with
      | none =>
          show (firstByte b.toNat).1 ++ decodeFrom (firstByte b.toNat).2 ys = _
          rw [hfirst]
          rfl
      | some p =>
          have hlow := hst p rfl
          have hnext : nextByte p b.toNat = ([replacement, b.toNat], none) := by
            rw [nextByte, if_neg (by omega), hfirst]
          show (nextByte p b.toNat).1 ++ decodeFrom (nextByte p b.toNat).2 ys = _
          rw [hnext]
          rfl
  | cons x xs ih =>
      cases st with
      | none =>
          show (firstByte x.toNat).1 ++ decodeFrom (firstByte x.toNat).2 (xs ++ b :: ys) = _
          rw [ih _ (firstByte_low x.toNat), ← List.append_assoc]
          rfl
      | some p =>
          show (nextByte p x.toNat).1 ++ decodeFrom (nextByte p x.toNat).2 (xs ++ b :: ys) = _
          rw [ih _ (nextByte_low p x.toNat), ← List.append_assoc]
          rfl

/-- Bytes in front of one below 128 give a shorter text. -/
theorem length_utf8Decode_lt {b : UInt8} (hb : b.toNat < 0x80) (xs ys : Bytes) :
    (utf8Decode xs).length < (utf8Decode (xs ++ b :: ys)).length := by
  have hsplit := decodeFrom_append_ascii hb xs ys none fun p hp => by cases hp
  have hone : scalarUnits b.toNat = [UInt16.ofNat b.toNat] := if_pos (by omega)
  unfold utf8Decode ofScalars
  rw [hsplit, List.flatMap_append, List.flatMap_cons, hone]
  simp only [List.length_append, List.length_cons, List.length_nil]
  omega

/-! ## §3. ASCII. -/

/-- Every unit is below 128. -/
def IsAscii (s : Text) : Prop := ∀ u ∈ s, u.toNat < 0x80

theorem unitValue_ascii {u : UInt16} (h : u.toNat < 0x80) : unitValue u = u.toNat := by
  have hhigh : isHigh u = false := by
    unfold isHigh
    simp only [Bool.and_eq_false_iff, decide_eq_false_iff_not]
    omega
  have hlow : isLow u = false := by
    unfold isLow
    simp only [Bool.and_eq_false_iff, decide_eq_false_iff_not]
    omega
  rw [unitValue, hhigh, hlow]
  rfl

theorem scalars_ascii {s : Text} (h : IsAscii s) : scalars s = s.map UInt16.toNat := by
  induction s using scalars.induct with
  | case1 => rfl
  | case2 u => rw [scalars, unitValue_ascii (h u (by simp))]; rfl
  | case3 u v rest hpair ih =>
      -- a unit below 128 begins no pair
      have hu := h u (by simp)
      simp only [isHigh, Bool.and_eq_true, decide_eq_true_eq] at hpair
      omega
  | case4 u v rest hpair ih =>
      rw [scalars, if_neg hpair, unitValue_ascii (h u (by simp)),
          ih fun x hx => h x (List.mem_cons_of_mem u hx)]
      rfl

theorem wellFormed_ascii {s : Text} (h : IsAscii s) : WellFormed s := by
  unfold WellFormed
  rw [← ofScalars_scalars, scalars_ascii h, ofScalars, List.flatMap_map]
  induction s with
  | nil => rfl
  | cons u s ih =>
      have hu := h u (by simp)
      rw [List.flatMap_cons, ih fun x hx => h x (List.mem_cons_of_mem u hx), scalarUnits,
          if_pos (by omega), UInt16.ofNat_toNat]
      rfl

end SapDbLib.Library
