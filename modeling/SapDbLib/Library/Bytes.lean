/-
  SapDbLib.Library.Bytes — BYTES OF NUMBERS, PIECES OF A LIST, STREAMS.

  What a binary format rests on, in no format's terms:

    * `ByteOrder.bytes` and `ByteOrder.value` — a number in a fixed count of
      bytes, in either order; `value_bytes` and `bytes_value` make them
      inverse, `bytes_swap` says that the other order is the reverse;
    * `HasAt` — a list has a piece at a position; `hasAt_append` splits it,
      so that a reader can be followed piece by piece;
    * `overwrite` — a write into the middle of a buffer; `overwrite_end` and
      `overwrite_middle` are the two ways in which writers use it.
-/
import Mathlib.Data.List.Infix
import Mathlib.Data.Nat.Digits.Defs
import Mathlib.Tactic.Ring

namespace SapDbLib.Library

/-- A byte sequence. -/
abbrev Bytes := List UInt8

/-! ## §1. Numbers in a fixed count of bytes. -/

/-- The order of the bytes of a number. -/
inductive ByteOrder where
  | littleEndian
  | bigEndian
  deriving DecidableEq, Repr

/-- The other order. -/
def ByteOrder.swap : ByteOrder → ByteOrder
  | .littleEndian => .bigEndian
  | .bigEndian => .littleEndian

/-- `n` bytes of a number, the least significant first. -/
def leastFirst : Nat → Nat → Bytes
  | 0, _ => []
  | n + 1, v => UInt8.ofNat v :: leastFirst n (v / 256)

/-- The number of bytes whose least significant comes first. -/
def ofLeastFirst : Bytes → Nat
  | [] => 0
  | b :: bs => b.toNat + 256 * ofLeastFirst bs

@[simp] theorem length_leastFirst (n v : Nat) : (leastFirst n v).length = n := by
  induction n generalizing v with
  | zero => rfl
  | succ n ih => simp [leastFirst, ih]

theorem ofLeastFirst_lt (bs : Bytes) : ofLeastFirst bs < 256 ^ bs.length := by
  induction bs with
  | nil => simp [ofLeastFirst]
  | cons b bs ih =>
      have hb : b.toNat < 256 := b.toNat_lt
      have hpow : 256 ^ (b :: bs).length = 256 * 256 ^ bs.length := by
        rw [List.length_cons, Nat.pow_succ, Nat.mul_comm]
      rw [hpow, ofLeastFirst]
      omega

theorem ofLeastFirst_leastFirst {n v : Nat} (h : v < 256 ^ n) :
    ofLeastFirst (leastFirst n v) = v := by
  induction n generalizing v with
  | zero =>
      rw [Nat.pow_zero] at h
      show 0 = v
      omega
  | succ n ih =>
      have hdiv : v / 256 < 256 ^ n := by
        rw [Nat.pow_succ, Nat.mul_comm] at h
        exact Nat.div_lt_of_lt_mul h
      have hlow : (UInt8.ofNat v).toNat = v % 256 := UInt8.toNat_ofNat'
      rw [leastFirst, ofLeastFirst, ih hdiv, hlow]
      omega

theorem leastFirst_ofLeastFirst (bs : Bytes) :
    leastFirst bs.length (ofLeastFirst bs) = bs := by
  induction bs with
  | nil => rfl
  | cons b bs ih =>
      have hb : b.toNat < 256 := b.toNat_lt
      have hhigh : (b.toNat + 256 * ofLeastFirst bs) / 256 = ofLeastFirst bs := by omega
      have hlow : UInt8.ofNat (b.toNat + 256 * ofLeastFirst bs) = b := by
        apply UInt8.toNat_inj.mp
        rw [UInt8.toNat_ofNat']
        omega
      rw [List.length_cons, ofLeastFirst, leastFirst, hlow, hhigh, ih]

namespace ByteOrder

/-- `n` bytes of a number. -/
def bytes (o : ByteOrder) (n v : Nat) : Bytes :=
  match o with
  | .littleEndian => leastFirst n v
  | .bigEndian => (leastFirst n v).reverse

/-- The number of some bytes. -/
def value (o : ByteOrder) (bs : Bytes) : Nat :=
  match o with
  | .littleEndian => ofLeastFirst bs
  | .bigEndian => ofLeastFirst bs.reverse

@[simp] theorem length_bytes (o : ByteOrder) (n v : Nat) : (o.bytes n v).length = n := by
  cases o <;> simp [bytes]

theorem value_lt (o : ByteOrder) (bs : Bytes) : o.value bs < 256 ^ bs.length := by
  cases o
  · exact ofLeastFirst_lt bs
  · rw [← List.length_reverse]
    exact ofLeastFirst_lt bs.reverse

/-- **A number is read back from its bytes.** -/
theorem value_bytes (o : ByteOrder) {n v : Nat} (h : v < 256 ^ n) :
    o.value (o.bytes n v) = v := by
  cases o
  · exact ofLeastFirst_leastFirst h
  · show ofLeastFirst (leastFirst n v).reverse.reverse = v
    rw [List.reverse_reverse]
    exact ofLeastFirst_leastFirst h

/-- Bytes are those of their number. -/
theorem bytes_value (o : ByteOrder) (bs : Bytes) : o.bytes bs.length (o.value bs) = bs := by
  cases o
  · exact leastFirst_ofLeastFirst bs
  · show (leastFirst bs.length (ofLeastFirst bs.reverse)).reverse = bs
    rw [← List.length_reverse, leastFirst_ofLeastFirst, List.reverse_reverse]

/-- **The other order is the reverse.** -/
theorem bytes_swap (o : ByteOrder) (n v : Nat) : o.swap.bytes n v = (o.bytes n v).reverse := by
  cases o
  · rfl
  · exact (List.reverse_reverse _).symm

theorem value_swap (o : ByteOrder) (bs : Bytes) : o.swap.value bs = o.value bs.reverse := by
  cases o
  · rfl
  · show ofLeastFirst bs = ofLeastFirst bs.reverse.reverse
    rw [List.reverse_reverse]

@[simp] theorem bytes_one (o : ByteOrder) (v : Nat) : o.bytes 1 v = [UInt8.ofNat v] := by
  cases o <;> rfl

end ByteOrder

/-! ## §2. Pieces of a list. -/

section HasAt

variable {α : Type*} {data piece rest : List α} {pos : Nat} {a : α}

/-- `data` has `piece` at position `pos`. -/
def HasAt (data : List α) (pos : Nat) (piece : List α) : Prop := piece <+: data.drop pos

theorem hasAt_nil : HasAt data pos [] := List.nil_prefix

/-- A list has its middle part behind its first. -/
theorem hasAt_middle (before : List α) : HasAt (before ++ piece ++ rest) before.length piece := by
  unfold HasAt
  rw [List.append_assoc, List.drop_left]
  exact List.prefix_append _ _

theorem hasAt_cons :
    HasAt data pos (a :: rest) ↔ data[pos]? = some a ∧ HasAt data (pos + 1) rest := by
  unfold HasAt
  have hhead : data[pos]? = (data.drop pos).head? := by simp
  rw [hhead, ← List.tail_drop]
  cases data.drop pos with
  | nil => simp
  | cons b bs => simp [List.cons_prefix_cons, eq_comm]

/-- **Two pieces, one behind the other.** -/
theorem hasAt_append : HasAt data pos (piece ++ rest)
    ↔ HasAt data pos piece ∧ HasAt data (pos + piece.length) rest := by
  induction piece generalizing pos with
  | nil => simp [hasAt_nil]
  | cons a piece ih =>
      have hlen : pos + (a :: piece).length = pos + 1 + piece.length := by
        rw [List.length_cons]
        omega
      rw [List.cons_append, hasAt_cons, ih, hasAt_cons, hlen, and_assoc]

theorem HasAt.take (h : HasAt data pos piece) : (data.drop pos).take piece.length = piece :=
  (List.prefix_iff_eq_take.mp h).symm

theorem HasAt.length_le_drop (h : HasAt data pos piece) : piece.length ≤ data.length - pos := by
  rw [← List.length_drop]
  exact List.IsPrefix.length_le h

/-- A piece that is not empty lies inside the list. -/
theorem HasAt.length_le (h : HasAt data pos piece) (hne : piece ≠ []) :
    pos + piece.length ≤ data.length := by
  have hle := h.length_le_drop
  have hpos := List.length_pos_of_ne_nil hne
  omega

theorem HasAt.getElem? (h : HasAt data pos (a :: rest)) : data[pos]? = some a :=
  (hasAt_cons.mp h).1

end HasAt

/-! ## §3. Writing into a buffer. -/

section Overwrite

variable {α : Type*}

/-- A write at a position: it replaces what stands there and may go on past
    the end. -/
def overwrite (buffer : List α) (pos : Nat) (new : List α) : List α :=
  buffer.take pos ++ new ++ buffer.drop (pos + new.length)

/-- A write at the end appends. -/
theorem overwrite_end (buffer new : List α) :
    overwrite buffer buffer.length new = buffer ++ new := by
  unfold overwrite
  rw [List.take_length, List.drop_eq_nil_of_le (Nat.le_add_right _ _), List.append_nil]

/-- A write of equal length replaces. -/
theorem overwrite_middle (before after : List α) {old new : List α} (h : old.length = new.length) :
    overwrite (before ++ old ++ after) before.length new = before ++ new ++ after := by
  unfold overwrite
  have hdrop : (before ++ old ++ after).drop (before.length + new.length) = after := by
    rw [← h, ← List.length_append, List.drop_left]
  rw [hdrop, List.append_assoc before old, List.take_left]

end Overwrite

end SapDbLib.Library
