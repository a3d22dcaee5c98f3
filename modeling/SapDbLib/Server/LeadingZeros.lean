/-
  SapDbLib.Server.LeadingZeros — ONE RECORD UNDER ALL SPELLINGS OF ITS KEY.

  A SAP key is a number in a field of fixed width, so zeros in front of it
  are no part of the number.  Five of the six keyed methods pad their
  argument themselves; `getMatKurzText` leaves that to its caller.

    * `orderKey_zeros` — padding absorbs the zeros that are there already;
    * `leading_zeros_iff` — **when zeros in front of a key change nothing**:
      always for an order number; for a material number only if there are
      none.
-/
import SapDbLib.Server.Condition
import SapDbLib.ReadTable

namespace SapDbLib

open Library Library.Condition

/-! ## §1. Zeros in front of a key. -/

/-- `k` zeros. -/
def zeros (k : Nat) : Text := List.replicate k zero

/-- The width of the key field in SAP. -/
def KeyQuery.keyWidth : KeyQuery → Nat
  | .getMatKurzText => 18
  | _ => 12

/-- `k` zeros in front of an argument change neither the condition sent nor
    the answer, whatever the server reads from. -/
structure KeyQuery.ZerosIgnored (q : KeyQuery) (s : Text) (k : Nat) : Prop where
  condition : (q.request (zeros k ++ s)).options = (q.request s).options
  answer : ∀ srv : SapServerQuery, q.perform srv (zeros k ++ s) = q.perform srv s

theorem orderKey_zeros {s : Text} {k : Nat} (h : k + s.length ≤ 12) :
    orderKey (zeros k ++ s) = orderKey s :=
  leftpad_replicate_append h

/-- The key of every method but `getMatKurzText` absorbs zeros. -/
theorem KeyQuery.key_zeros {q : KeyQuery} (hq : q ≠ .getMatKurzText) {s : Text} {k : Nat}
    (h : k + s.length ≤ 12) : q.key (zeros k ++ s) = q.key s := by
  cases q
  case getMatKurzText => exact absurd rfl hq
  all_goals exact orderKey_zeros h

/-- A method whose key absorbs the zeros sends one read for both. -/
theorem KeyQuery.zerosIgnored_of_key {q : KeyQuery} {s : Text} {k : Nat}
    (h : q.key (zeros k ++ s) = q.key s) : q.ZerosIgnored s k := by
  have hrequest : q.request (zeros k ++ s) = q.request s := by
    unfold KeyQuery.request KeyQuery.line
    rw [h]
  constructor
  · rw [hrequest]
  · intro srv
    rw [q.perform_eq, q.perform_eq, hrequest]

/-- `getMatKurzText` sends its argument as it is, so that a different length
    is a different condition. -/
theorem eq_zero_of_options {s : Text} {k : Nat}
    (h : (KeyQuery.getMatKurzText.request (zeros k ++ s)).options
      = (KeyQuery.getMatKurzText.request s).options) : k = 0 := by
  have hline : KeyQuery.getMatKurzText.line (zeros k ++ s) = KeyQuery.getMatKurzText.line s :=
    List.singleton_inj.mp h
  have hlen := congrArg List.length hline
  unfold KeyQuery.line KeyQuery.key zeros at hlen
  simp only [List.length_append, List.length_cons, List.length_replicate] at hlen
  omega

/-- **When zeros in front of a key change nothing.**  Whatever the argument,
    a method is one read under the condition of its argument; and for zeros
    that the key field has room for, condition and answer stay the same
    exactly if the method pads its argument itself or there are no zeros. -/
theorem leading_zeros_iff (q : KeyQuery) (s : Text) (k : Nat) (hk : k + s.length ≤ q.keyWidth) :
    (∀ (srv : SapServerQuery) (a : Text), q.perform srv a = srv.readLast (q.request a))
      ∧ (q.ZerosIgnored s k ↔ q ≠ .getMatKurzText ∨ k = 0) := by
  refine ⟨fun srv a => q.perform_eq srv a, ?_⟩
  constructor
  · intro h
    by_cases hq : q = .getMatKurzText
    · subst hq
      exact Or.inr (eq_zero_of_options h.condition)
    · exact Or.inl hq
  · intro h
    apply KeyQuery.zerosIgnored_of_key
    rcases h with hq | hzero
    · -- the key fields of the other methods have twelve places
      have hwidth : q.keyWidth = 12 := by
        cases q
        case getMatKurzText => exact absurd rfl hq
        all_goals rfl
      exact KeyQuery.key_zeros hq (hwidth ▸ hk)
    · rw [hzero]
      rfl

/-! ## §2. A short text. -/

/-- The order number `60098052` is read under its key of twelve places. -/
theorem leading_zeros_60098052 :
    KeyQuery.getOrderQty.ZerosIgnored (text "60098052") 4 :=
  (leading_zeros_iff .getOrderQty (text "60098052") 4 (by decide)).2.mpr (Or.inl (by decide))

/-- The German short text of the material `605229`. -/
def shortText605229 : SapRow := fun field =>
  if field = text "MATNR" then text "000000000000605229"
  else if field = text "SPRAS" then text "D"
  else if field = text "MAKTX" then text "SFCA120GH1AA2TO-I-HC-216-STD"
  else []

/-- Tables with that one text. -/
def oneShortText : Text → List SapRow := fun table =>
  if table = text "MAKT" then [shortText605229] else []

/-- A server connected to them. -/
def oneShortTextServer : SapServerQuery :=
  { m_destconfig := none, m_rfcdestination := some (tableDestination oneShortText) }

/-- Its one row meets the condition exactly if the number is given as it
    stands in the row. -/
theorem tableSelect_oneShortText {m : Text} (hm : quote ∉ m) :
    tableSelect oneShortText (text "MAKT") [matCondition m]
      = .ok (if sameChar (text "000000000000605229") m then [shortText605229] else []) := by
  have hread : read (matCondition m)
      = some (.and (.eq (text "MATNR") m) (.eq (text "SPRAS") (text "D"))) :=
    KeyQuery.getMatKurzText.read_line_of_notMem hm
  have htable : oneShortText (text "MAKT") = [shortText605229] := if_pos rfl
  have hmatnr : shortText605229 (text "MATNR") = text "000000000000605229" := if_pos rfl
  have hspras : sameChar (shortText605229 (text "SPRAS")) (text "D") = true := by decide +kernel
  simp only [tableSelect, hread, htable, List.filter_singleton, holds, hmatnr, hspras,
    Bool.and_true, Bool.cond_eq_ite]

/-- What that server answers for a quote-free spelling of a number. -/
theorem getMatKurzText_oneShortText {m : Text} (hm : quote ∉ m) :
    oneShortTextServer.getMatKurzText m
      = .ok (if sameChar (text "000000000000605229") m then text "SFCA120GH1AA2TO-I-HC-216-STD"
          else []) := by
  have hfit : (joinedFields (text "~") [text "MAKTX"] shortText605229).length ≤ lineLimit := by
    decide +kernel
  have hmaktx : workArea (text "~") [text "MAKTX"] shortText605229
      = text "SFCA120GH1AA2TO-I-HC-216-STD" := by
    decide +kernel
  have hcall := readTable_tableDestination oneShortText
    (queryRequest "MAKT" ["MAKTX"] (matCondition m)) _ (tableSelect_oneShortText hm)
  rw [getMatKurzText_eq]
  show lastLine <$> (tableDestination oneShortText).readTable _ = _
  split at hcall
  next hsame =>
    rw [hcall (List.forall_mem_singleton.mpr hfit), if_pos hsame, ← hmaktx]
    rfl
  next hdiffers =>
    rw [hcall (List.forall_mem_nil _), if_neg hdiffers]
    rfl

/-- **The unpadded number reads no short text.** -/
theorem unpadded_number_not_read :
    ¬ KeyQuery.getMatKurzText.ZerosIgnored (text "605229") 12 := by
  intro h
  have hanswer : oneShortTextServer.getMatKurzText (zeros 12 ++ text "605229")
      = oneShortTextServer.getMatKurzText (text "605229") := h.answer oneShortTextServer
  rw [getMatKurzText_oneShortText (by decide), getMatKurzText_oneShortText (by decide)] at hanswer
  exact absurd hanswer (by decide +kernel)

end SapDbLib
