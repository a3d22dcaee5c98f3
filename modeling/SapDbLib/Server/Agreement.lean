/-
  SapDbLib.Server.Agreement — ONE COMBINED QUERY AND THREE SINGLE ONES.

  `getMatNrFromPa` reads three columns of an order in one line, the single
  queries read one column each.  All four send the same condition, so SAP
  selects the same rows for them (`ordersFound`), and each keeps the last.

    * `readLast_order` — what a column list makes of the rows found;
    * `record_splits` — **the combined line splits back into the columns**;
    * `combined_agrees` — **the three pieces are the three single answers**,
      from one row; without a row all answers are empty.
-/
import SapDbLib.Server.Condition
import SapDbLib.ReadTable

namespace SapDbLib

open Library Library.Condition

/-- The delimiter `'~'`. -/
def tilde : UInt16 := 126

/-! ## §1. The rows behind the four queries. -/

/-- The columns of an order record. -/
def stlbez : Text := text "STLBEZ"
def gamng : Text := text "GAMNG"
def gasmg : Text := text "GASMG"

/-- The rows of `AFKO` that an order number selects at a destination. -/
def ordersFound (dest : RfcDestination) (select : Selection) (a : Text) :
    Except CSharpException (List SapRow) := do
  dest.createFunction (text "RFC_READ_TABLE")
  select (text "AFKO") [orderCondition a]

/-- The text kept of the rows found: the line of the last one. -/
def lastText (columns : List Text) (rows : List SapRow) : Text :=
  match rows.getLast? with
  | some row => workArea (text "~") columns row
  | none => []

theorem lastLine_map (columns : List Text) (rows : List SapRow) :
    lastLine (rows.map (workArea (text "~") columns)) = lastText columns rows := by
  unfold lastLine lastText
  rw [List.getLastD_eq_getLast?, List.getLast?_map]
  cases rows.getLast? <;> rfl

/-- **What a column list makes of the rows found.** -/
theorem readLast_order {srv : SapServerQuery} {dest : RfcDestination} {select : Selection}
    (hsrv : srv.m_rfcdestination = some dest) (hreads : ReadsTable dest select) (a : Text)
    (columns : List String)
    (hfit : ∀ rows, ordersFound dest select a = .ok rows → ∀ row ∈ rows,
      (joinedFields (text "~") (columns.map text) row).length ≤ lineLimit) :
    srv.readLast (queryRequest "AFKO" columns (orderCondition a))
      = lastText (columns.map text) <$> ordersFound dest select a := by
  unfold SapServerQuery.readLast RfcDestination.readTable ordersFound at *
  rw [hsrv]
  show lastLine <$> (do
      dest.createFunction (text "RFC_READ_TABLE")
      dest.call (queryRequest "AFKO" columns (orderCondition a)))
    = lastText (columns.map text) <$> (do
      dest.createFunction (text "RFC_READ_TABLE")
      select (text "AFKO") [orderCondition a])
  cases hcreate : dest.createFunction (text "RFC_READ_TABLE") with
  | error e => rfl
  | ok u =>
      rw [hcreate] at hfit
      show lastLine <$> dest.call (queryRequest "AFKO" columns (orderCondition a))
        = lastText (columns.map text) <$> select (text "AFKO") [orderCondition a]
      cases hsel : select (text "AFKO") [orderCondition a] with
      | error e =>
          -- a rejected selection is an exception of the call
          rw [hreads.rejected (queryRequest "AFKO" columns (orderCondition a)) e hsel]
          rfl
      | ok rows =>
          have hcall := hreads.call_eq (r := queryRequest "AFKO" columns (orderCondition a)) hsel
            (hfit rows (by show select (text "AFKO") [orderCondition a] = _; exact hsel))
          rw [hcall]
          exact congrArg Except.ok (lastLine_map (columns.map text) rows)

/-! ## §2. The record and its pieces. -/

/-- The three columns of a row, joined. -/
theorem joinedFields_record (row : SapRow) :
    joinedFields (text "~") [stlbez, gamng, gasmg] row
      = [tilde].intercalate ([row stlbez, row gamng] ++ [row gasmg]) := rfl

/-- Each column alone is no longer than the record. -/
theorem length_column_le (row : SapRow) {field : Text} (hf : field ∈ [stlbez, gamng, gasmg]) :
    (joinedFields (text "~") [field] row).length
      ≤ (joinedFields (text "~") [stlbez, gamng, gasmg] row).length := by
  have hrecord : joinedFields (text "~") [stlbez, gamng, gasmg] row
      = row stlbez ++ (tilde :: (row gamng ++ (tilde :: row gasmg))) := by
    rw [joinedFields_record]
    simp [List.intercalate, List.intersperse]
  have hsingle : joinedFields (text "~") [field] row = row field := by
    simp [joinedFields]
  rw [hrecord, hsingle]
  simp only [List.length_append, List.length_cons]
  simp only [List.mem_cons, List.not_mem_nil, or_false] at hf
  rcases hf with rfl | rfl | rfl
  · omega
  · omega
  · omega

/-- The pieces of a combined text are the three single texts, up to trailing
    blanks. -/
def SplitsInto (combined typeNr qty failQty : Text) : Prop :=
  ∃ m q f, combined.splitOn tilde = [m, q, f]
    ∧ sameChar m typeNr = true ∧ sameChar q qty = true ∧ sameChar f failQty = true

theorem rdropWhile_idem (s : Text) :
    (s.rdropWhile isBlank).rdropWhile isBlank = s.rdropWhile isBlank :=
  List.rdropWhile_idempotent isBlank s

/-- **The record of a row splits back into its columns**: only the last
    column is trimmed by the trimming of the line. -/
theorem record_splits {row : SapRow} (hclean : ∀ f ∈ [stlbez, gamng, gasmg], tilde ∉ row f) :
    SplitsInto (workArea (text "~") [stlbez, gamng, gasmg] row)
      (row.value stlbez) (row.value gamng) (row.value gasmg) := by
  have hsplit : (workArea (text "~") [stlbez, gamng, gasmg] row).splitOn tilde
      = [row stlbez, row gamng] ++ [(row gasmg).rdropWhile isBlank] := by
    unfold workArea
    rw [joinedFields_record]
    refine splitOn_rdropWhile_intercalate isBlank (by decide) _ _ ?_ (hclean gasmg (by simp))
    intro f hf
    simp only [List.mem_cons, List.not_mem_nil, or_false] at hf
    rcases hf with rfl | rfl
    · exact hclean stlbez (by simp)
    · exact hclean gamng (by simp)
  refine ⟨row stlbez, row gamng, (row gasmg).rdropWhile isBlank, hsplit, ?_, ?_, ?_⟩
  · simp [sameChar, SapRow.value, rdropWhile_idem]
  · simp [sameChar, SapRow.value, rdropWhile_idem]
  · simp [sameChar, SapRow.value, rdropWhile_idem]

/-! ## §3. Agreement. -/

/-- The four answers agree on the rows found. -/
structure AnswersAgree (srv : SapServerQuery) (found : Except CSharpException (List SapRow))
    (a : Text) : Prop where
  /-- All fail alike. -/
  failed : ∀ e, found = .error e →
    srv.getMatNrFromPa a = .error e ∧ srv.getOrderTypeNr a = .error e
      ∧ srv.getOrderQty a = .error e ∧ srv.getOrderFailQty a = .error e
  /-- Without a row all are empty. -/
  empty : found = .ok [] →
    srv.getMatNrFromPa a = .ok [] ∧ srv.getOrderTypeNr a = .ok []
      ∧ srv.getOrderQty a = .ok [] ∧ srv.getOrderFailQty a = .ok []
  /-- Else the combined text splits into exactly the three single answers, up
      to trailing blanks, and all are taken from one row. -/
  record : ∀ r rs, found = .ok (r :: rs) →
    ∃ row ∈ r :: rs, ∃ combined, srv.getMatNrFromPa a = .ok combined
      ∧ srv.getOrderTypeNr a = .ok (row.value stlbez)
      ∧ srv.getOrderQty a = .ok (row.value gamng)
      ∧ srv.getOrderFailQty a = .ok (row.value gasmg)
      ∧ SplitsInto combined (row.value stlbez) (row.value gamng) (row.value gasmg)

/-- The rows found are rows of the table. -/
theorem ordersFound_subset {dest : RfcDestination} {select : Selection} {afko : List SapRow}
    {a : Text}
    (hcontent : ∀ rows, select (text "AFKO") [orderCondition a] = .ok rows → rows ⊆ afko)
    {rows : List SapRow} (hrows : ordersFound dest select a = .ok rows) : rows ⊆ afko := by
  unfold ordersFound at hrows
  cases hcreate : dest.createFunction (text "RFC_READ_TABLE") with
  | error e =>
      rw [hcreate] at hrows
      cases hrows
  | ok u =>
      rw [hcreate] at hrows
      exact hcontent rows hrows

/-- The four answers, as texts of the same rows. -/
theorem order_answers {srv : SapServerQuery} {dest : RfcDestination} {select : Selection}
    (hsrv : srv.m_rfcdestination = some dest) (hreads : ReadsTable dest select) {a : Text}
    (hfit : ∀ rows, ordersFound dest select a = .ok rows → ∀ row ∈ rows,
      (joinedFields (text "~") [stlbez, gamng, gasmg] row).length ≤ lineLimit) :
    srv.getMatNrFromPa a = lastText [stlbez, gamng, gasmg] <$> ordersFound dest select a
      ∧ srv.getOrderTypeNr a = lastText [stlbez] <$> ordersFound dest select a
      ∧ srv.getOrderQty a = lastText [gamng] <$> ordersFound dest select a
      ∧ srv.getOrderFailQty a = lastText [gasmg] <$> ordersFound dest select a := by
  -- a single column fits wherever the record of three does
  have hcolumn : ∀ column : String, text column ∈ [stlbez, gamng, gasmg] →
      srv.readLast (queryRequest "AFKO" [column] (orderCondition a))
        = lastText [text column] <$> ordersFound dest select a := by
    intro column hmem
    refine readLast_order hsrv hreads a [column] ?_
    intro rows hrows row hrow
    exact (length_column_le row hmem).trans (hfit rows hrows row hrow)
  refine ⟨?_, ?_, ?_, ?_⟩
  · rw [getMatNrFromPa_eq]
    exact readLast_order hsrv hreads a ["STLBEZ", "GAMNG", "GASMG"] hfit
  · rw [getOrderTypeNr_eq]
    exact hcolumn "STLBEZ" (by simp [stlbez])
  · rw [getOrderQty_eq]
    exact hcolumn "GAMNG" (by simp [gamng])
  · rw [getOrderFailQty_eq]
    exact hcolumn "GASMG" (by simp [gasmg])

/-- Whatever the columns, the text kept is the line of the last row found. -/
theorem exists_lastText (r : SapRow) (rs : List SapRow) :
    ∃ row ∈ r :: rs, ∀ columns, lastText columns (r :: rs) = workArea (text "~") columns row := by
  refine ⟨(r :: rs).getLast (by simp), List.getLast_mem _, ?_⟩
  intro columns
  unfold lastText
  rw [List.getLast?_eq_some_getLast (by simp)]

/-- **The combined query and the single queries agree**, over any content of
    `AFKO` without `'~'` in the three columns and for any order number. -/
theorem combined_agrees (srv : SapServerQuery) (dest : RfcDestination) (select : Selection)
    (afko : List SapRow) (a : Text)
    (hsrv : srv.m_rfcdestination = some dest)
    (hreads : ReadsTable dest select)
    (hcontent : ∀ rows, select (text "AFKO") [orderCondition a] = .ok rows → rows ⊆ afko)
    (hclean : ∀ row ∈ afko, ∀ f ∈ [stlbez, gamng, gasmg], tilde ∉ row f)
    (hfit : ∀ row ∈ afko,
      (joinedFields (text "~") [stlbez, gamng, gasmg] row).length ≤ lineLimit) :
    AnswersAgree srv (ordersFound dest select a) a := by
  obtain ⟨hcombined, htype, hqty, hfail⟩ := order_answers hsrv hreads
    fun rows hrows row hrow => hfit row (ordersFound_subset hcontent hrows hrow)
  constructor
  · intro e hfails
    rw [hcombined, htype, hqty, hfail, hfails]
    exact ⟨rfl, rfl, rfl, rfl⟩
  · intro hnone
    rw [hcombined, htype, hqty, hfail, hnone]
    exact ⟨rfl, rfl, rfl, rfl⟩
  · intro r rs hrows
    rw [hcombined, htype, hqty, hfail, hrows]
    obtain ⟨row, hmem, hlast⟩ := exists_lastText r rs
    -- a single column is its own line, so each single answer is the row's value
    have hvalue : ∀ field, lastText [field] <$> (Except.ok (r :: rs) : Except CSharpException _)
        = .ok (row.value field) := by
      intro field
      show Except.ok (lastText [field] (r :: rs)) = _
      rw [hlast, workArea_single]
    refine ⟨row, hmem, workArea (text "~") [stlbez, gamng, gasmg] row,
      congrArg Except.ok (hlast _), hvalue stlbez, hvalue gamng, hvalue gasmg, ?_⟩
    exact record_splits (hclean row (ordersFound_subset hcontent hrows hmem))

/-! ## §4. An order. -/

/-- The row of the order `60098052`. -/
def order60098052 : SapRow := fun field =>
  if field = text "AUFNR" then text "000060098052"
  else if field = stlbez then text "000000000000604934"
  else if field = gamng then text "      46.000 "
  else if field = gasmg then text "       0.000"
  else []

/-- Tables with that one order. -/
def oneOrder : Text → List SapRow := fun table =>
  if table = text "AFKO" then [order60098052] else []

/-- A server connected to them. -/
def oneOrderServer : SapServerQuery :=
  { m_destconfig := none, m_rfcdestination := some (tableDestination oneOrder) }

/-- Its four answers agree. -/
theorem combined_agrees_60098052 :
    AnswersAgree oneOrderServer
      (ordersFound (tableDestination oneOrder) (tableSelect oneOrder) (text "60098052"))
      (text "60098052") := by
  refine combined_agrees oneOrderServer (tableDestination oneOrder) (tableSelect oneOrder)
    (oneOrder (text "AFKO")) (text "60098052") rfl (readsTable_tableDestination oneOrder) ?_
    (by decide +kernel) (by decide +kernel)
  intro rows hrows
  simp only [tableSelect] at hrows
  split at hrows
  next cond _ =>
    cases hrows
    exact fun row hrow => (List.mem_filter.mp hrow).1
  next => cases hrows

end SapDbLib
