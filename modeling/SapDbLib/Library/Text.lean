/-
  SapDbLib.Library.Text — UTF-16 TEXTS AND THEIR LIST OPERATIONS.

  A text is the list of its UTF-16 code units: the indexing that `length`,
  `PadLeft`, `Split` and `IndexOf` count in both languages of the program.
  The operations themselves are core and Mathlib list functions
  (`List.leftpad`, `List.rdropWhile`, `List.splitOn`); this file adds the
  facts about their combinations that records and keys rest on:

    * `mem_leftpad`, `leftpad_eq_of_le`, `leftpad_replicate_append` — what
      padding may add, and when it adds the same;
    * `rdropWhile_append_cons` — trimming stops at a kept element;
    * `splitOn_rdropWhile_intercalate` — **the trimmed record splits back
      into its fields**, the last one trimmed;
    * `idxOf?_eq_length_before`, `getElem?_splitOn_zero` — the text before a
      separator, cut at its index and as the head of a split;
    * `hasInOrder_concat_iff` — when a text that is the last of some pieces
      contains all of them.

  Everything but `unit`/`text` is polymorphic in the element type.
-/
import Mathlib.Data.List.DropRight
import Mathlib.Data.List.Infix

namespace SapDbLib.Library

/-! ## §1. Code units. -/

/-- A text as its UTF-16 code units. -/
abbrev Text := List UInt16

/-- The code unit of a character of the Basic Multilingual Plane. -/
def unit (c : Char) : UInt16 := c.toNat.toUInt16

/-- The code units of a source literal (all literals of the program are
    inside the Basic Multilingual Plane). -/
def text (s : String) : Text := s.toList.map unit

/-- The blank `' '`. -/
def blank : UInt16 := 32

/-- A blank is what trailing-blank trimming removes. -/
def isBlank (c : UInt16) : Bool := c == blank

/-! ## §2. Padding. -/

section Padding

variable {α : Type*} {w : Nat} {c x : α} {s : List α}

theorem leftpad_eq_of_le (h : w ≤ s.length) : s.leftpad w c = s := by
  rw [List.leftpad, Nat.sub_eq_zero_of_le h, List.replicate_zero, List.nil_append]

/-- Fill elements that stand there already are the first of those that
    padding adds. -/
theorem leftpad_replicate_append {k : Nat} (h : k + s.length ≤ w) :
    (List.replicate k c ++ s).leftpad w c = s.leftpad w c := by
  unfold List.leftpad
  have hlen : (List.replicate k c ++ s).length = k + s.length := by simp
  have hfill : w - (k + s.length) + k = w - s.length := by omega
  rw [hlen, ← List.append_assoc, List.replicate_append_replicate, hfill]

/-- Padding adds nothing but the fill element. -/
theorem mem_leftpad (h : x ∈ s.leftpad w c) : x = c ∨ x ∈ s := by
  rw [List.leftpad, List.mem_append] at h
  rcases h with h | h
  · exact Or.inl (List.eq_of_mem_replicate h)
  · exact Or.inr h

end Padding

/-! ## §3. Trimming at the end. -/

section Trimming

variable {α : Type*} (p : α → Bool)

/-- Trimming stops at the last kept element: whatever stands before it is
    untouched. -/
theorem rdropWhile_append_cons (l r : List α) {x : α} (hx : p x = false) :
    (l ++ x :: r).rdropWhile p = l ++ x :: r.rdropWhile p := by
  -- the induction is on what stands behind `x`, taken off from its end
  induction r using List.reverseRecOn with
  | nil => rw [List.rdropWhile_concat_neg p l x (by simp [hx]), List.rdropWhile_nil]
  | append_singleton r y ih =>
      have hassoc : l ++ x :: (r ++ [y]) = (l ++ x :: r) ++ [y] := by simp
      rw [hassoc]
      by_cases hy : p y
      · rw [List.rdropWhile_concat_pos p _ y hy, List.rdropWhile_concat_pos p r y hy, ih]
      · rw [List.rdropWhile_concat_neg p _ y hy, List.rdropWhile_concat_neg p r y hy, hassoc]

theorem mem_of_mem_rdropWhile {l : List α} {x : α} (h : x ∈ l.rdropWhile p) : x ∈ l :=
  (List.rdropWhile_prefix p (l := l)).subset h

end Trimming

/-! ## §4. Records: fields joined by a separator. -/

section Records

variable {α : Type*} (p : α → Bool) {sep : α}

/-- **Trimming a joined record trims its last field only**, as the
    separators in front of it are kept. -/
theorem rdropWhile_intercalate (hsep : p sep = false) (last : List α) :
    ∀ init : List (List α),
      ([sep].intercalate (init ++ [last])).rdropWhile p
        = [sep].intercalate (init ++ [last.rdropWhile p])
  | [] => by simp
  | f :: init => by
      have hcons : ∀ l, [sep].intercalate (f :: (init ++ [l]))
          = f ++ sep :: [sep].intercalate (init ++ [l]) := by
        intro l
        rw [List.intercalate_cons_of_ne_nil (by simp)]
        simp
      rw [List.cons_append, List.cons_append, hcons, hcons,
          rdropWhile_append_cons p f _ hsep, rdropWhile_intercalate hsep last init]

/-- **The trimmed record splits back into its fields**, the last one
    trimmed: `splitOn` is the inverse of joining on separator-free fields. -/
theorem splitOn_rdropWhile_intercalate [BEq α] [LawfulBEq α] (hsep : p sep = false)
    (init : List (List α)) (last : List α)
    (hinit : ∀ f ∈ init, sep ∉ f) (hlast : sep ∉ last) :
    (([sep].intercalate (init ++ [last])).rdropWhile p).splitOn sep
      = init ++ [last.rdropWhile p] := by
  rw [rdropWhile_intercalate p hsep]
  refine List.splitOn_intercalate sep ?_ (by simp)
  intro f hf
  rcases List.mem_append.mp hf with hf | hf
  · exact hinit f hf
  · rw [List.mem_singleton.mp hf]
    exact fun hmem => hlast (mem_of_mem_rdropWhile p hmem)

end Records

/-! ## §5. The text before a separator. -/

section Before

variable {α : Type*} [BEq α] [LawfulBEq α]

/-- The text before the first separator; all of it if there is none. -/
def before (sep : α) (s : List α) : List α := s.takeWhile (· != sep)

theorem before_cons_self (sep : α) (s : List α) : before sep (sep :: s) = [] := by
  unfold before
  rw [List.takeWhile_cons_of_neg (by simp)]

theorem before_cons_of_ne {sep c : α} (hc : c ≠ sep) (s : List α) :
    before sep (c :: s) = c :: before sep s := by
  unfold before
  rw [List.takeWhile_cons_of_pos (by simpa using hc)]

/-- A separator that is there stands right behind the text before it. -/
theorem idxOf?_eq_length_before {sep : α} {s : List α} (h : sep ∈ s) :
    s.idxOf? sep = some (before sep s).length := by
  induction s with
  | nil => cases h
  | cons c s ih =>
      rw [List.idxOf?_cons]
      by_cases hc : c = sep
      · subst hc
        rw [if_pos (by simp), before_cons_self]
        rfl
      · have hs : sep ∈ s := (List.mem_cons.mp h).resolve_left (Ne.symm hc)
        rw [if_neg (by simpa using hc), ih hs, before_cons_of_ne hc]
        rfl

/-- The first piece of a split is the text before the first separator. -/
theorem getElem?_splitOn_zero (sep : α) (s : List α) :
    (s.splitOn sep)[0]? = some (before sep s) := by
  induction s with
  | nil => rfl
  | cons c s ih =>
      rw [List.splitOn_cons_eq_if_modifyHead]
      by_cases hc : c = sep
      · subst hc
        rw [if_pos (by simp), before_cons_self]
        rfl
      · rw [if_neg (by simpa using hc), before_cons_of_ne hc, List.getElem?_modifyHead_zero, ih]
        rfl

end Before

/-! ## §6. Pieces in order. -/

section Pieces

variable {α : Type*}

/-- `s` contains the given pieces one after the other, none overlapping
    another. -/
def HasInOrder : List α → List (List α) → Prop
  | _, [] => True
  | s, p :: ps => ∃ pre rest, s = pre ++ (p ++ rest) ∧ HasInOrder rest ps

/-- Pieces that do not overlap are together no longer than the whole. -/
theorem HasInOrder.length_le : ∀ {ps : List (List α)} {s : List α},
    HasInOrder s ps → ps.flatten.length ≤ s.length
  | [], s, _ => Nat.zero_le s.length
  | p :: ps, s, h => by
      obtain ⟨pre, rest, hs, hrest⟩ := h
      have hle := hrest.length_le
      rw [hs, List.flatten_cons]
      simp only [List.length_append]
      omega

/-- Empty pieces stand in front of anything. -/
theorem hasInOrder_append {empties : List (List α)} (h : ∀ p ∈ empties, p = [])
    {s : List α} {ps : List (List α)} (hs : HasInOrder s ps) : HasInOrder s (empties ++ ps) := by
  induction empties with
  | nil => exact hs
  | cons p empties ih =>
      have hp : p = [] := h p (by simp)
      have hrest := ih fun x hx => h x (List.mem_cons_of_mem p hx)
      refine ⟨[], s, ?_, hrest⟩
      rw [hp]
      rfl

/-- **A text that is itself the last piece** has room for empty ones only in
    front of it. -/
theorem hasInOrder_concat_iff (init : List (List α)) (last : List α) :
    HasInOrder last (init ++ [last]) ↔ ∀ p ∈ init, p = [] := by
  constructor
  · intro h
    have hle := h.length_le
    rw [List.flatten_append, List.flatten_singleton, List.length_append] at hle
    have hnil : init.flatten = [] := List.eq_nil_of_length_eq_zero (by omega)
    exact List.flatten_eq_nil_iff.mp hnil
  · intro h
    refine hasInOrder_append h ⟨[], [], ?_, trivial⟩
    simp

end Pieces

end SapDbLib.Library
