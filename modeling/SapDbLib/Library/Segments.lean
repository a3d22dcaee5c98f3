/-
  SapDbLib.Library.Segments — BYTES THAT ARRIVE PIECE BY PIECE.

  A stream gives what has arrived, not what was asked for: a reader that needs
  a count of bytes asks again until it has them or the stream ends.  `receive`
  is that loop over the pieces that are still to come.

    * `receive_fst`, `bytes_receive_snd` — **where the pieces are cut does not
      matter**: what is received, and what is left, is known by the bytes.
-/
import SapDbLib.Library.Bytes

namespace SapDbLib.Library

/-- What is still to arrive, in pieces; none of them is empty. -/
abbrev Segments := List (UInt8 × Bytes)

namespace Segments

/-- The bytes of a piece. -/
def piece (p : UInt8 × Bytes) : Bytes := p.1 :: p.2

/-- All bytes. -/
def bytes (a : Segments) : Bytes := a.flatMap piece

/-- The pieces when the first is cut. -/
def cut (rest : Bytes) (a : Segments) : Segments :=
  match rest with
  | [] => a
  | b :: bs => (b, bs) :: a

/-- `count` bytes, or all there are: one step takes as much of the next piece
    as fits. -/
def receive : Nat → Segments → Bytes × Segments
  | _, [] => ([], [])
  | count, p :: a =>
      if count ≤ (piece p).length then ((piece p).take count, cut ((piece p).drop count) a)
      else
        let (more, rest) := receive (count - (piece p).length) a
        (piece p ++ more, rest)

@[simp] theorem bytes_nil : bytes [] = [] := rfl

@[simp] theorem bytes_cons (p : UInt8 × Bytes) (a : Segments) : bytes (p :: a) = piece p ++ bytes a :=
  rfl

theorem bytes_cut (rest : Bytes) (a : Segments) : bytes (cut rest a) = rest ++ bytes a := by
  cases rest with
  | nil => rfl
  | cons b bs => rfl

/-- **What is received** are the first bytes. -/
theorem receive_fst (count : Nat) (a : Segments) : (receive count a).1 = a.bytes.take count := by
  induction a generalizing count with
  | nil => simp [receive]
  | cons p a ih =>
      rw [receive, bytes_cons]
      split_ifs with h
      · rw [List.take_append_of_le_length h]
      · show piece p ++ (receive (count - (piece p).length) a).1 = _
        rw [ih, List.take_append, List.take_of_length_le (Nat.le_of_not_le h)]

/-- **What is left** are the others. -/
theorem bytes_receive_snd (count : Nat) (a : Segments) :
    bytes (receive count a).2 = a.bytes.drop count := by
  induction a generalizing count with
  | nil => simp [receive]
  | cons p a ih =>
      rw [receive, bytes_cons]
      split_ifs with h
      · show bytes (cut _ a) = _
        rw [bytes_cut, List.drop_append_of_le_length h]
      · show bytes (receive (count - (piece p).length) a).2 = _
        rw [ih, List.drop_append, List.drop_of_length_le (Nat.le_of_not_le h), List.nil_append]

end Segments

end SapDbLib.Library
