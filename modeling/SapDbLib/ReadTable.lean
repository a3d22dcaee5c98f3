/-
  SapDbLib.ReadTable — SAP TABLES AND WHAT RFC_READ_TABLE MAKES OF THEM.

  The abstract side of a table read.  SAP is not part of the repository, so
  nothing here is translated: `ReadsTable` and `SelectsFrom` name the
  documented behaviour of `RFC_READ_TABLE` that results may assume of the
  `RfcDestination` parameter.

    * a row is its field texts, in the width they have in a `WA` line;
    * a `WA` line is the field texts in `FIELDS` order joined by `DELIMITER`,
      without the trailing blanks of the whole line (`workArea`);
    * the rows selected depend on the table and the condition lines only;
    * a condition line selects the rows that meet it (`SelectsFrom`).

  `filter_unique` is the abstract content of a primary key: a condition that
  fixes the key selects the row of that key, or nothing.
-/
import SapDbLib.Rfc
import SapDbLib.Library.Condition

namespace SapDbLib

open Library Library.Condition

/-! ## §1. Rows and lines. -/

/-- A row of a SAP table: the text of each field, in its width in a line. -/
abbrev SapRow := Text → Text

/-- The value of a field: trailing blanks are padding. -/
def SapRow.value (row : SapRow) (field : Text) : Text := (row field).rdropWhile isBlank

/-- The field texts of a line, joined by the delimiter. -/
def joinedFields (delimiter : Text) (fields : List Text) (row : SapRow) : Text :=
  delimiter.intercalate (fields.map row)

/-- The `WA` line of a row. -/
def workArea (delimiter : Text) (fields : List Text) (row : SapRow) : Text :=
  (joinedFields delimiter fields row).rdropWhile isBlank

/-- The width of `WA`. -/
def lineLimit : Nat := 512

theorem workArea_single (delimiter field : Text) (row : SapRow) :
    workArea delimiter [field] row = row.value field := by
  simp [workArea, joinedFields, SapRow.value]

/-! ## §2. The assumed behaviour. -/

/-- Which rows a table and condition lines select, or how SAP rejects the
    read. -/
abbrev Selection := Text → List Text → Except CSharpException (List SapRow)

/-- `RFC_READ_TABLE` on a destination, as documented. -/
structure ReadsTable (dest : RfcDestination) (select : Selection) : Prop where
  /-- An answered call carries the selected rows in order, one line each. -/
  data : ∀ r lines, dest.call r = .ok lines → ∃ rows,
    select r.queryTable r.options = .ok rows
      ∧ lines = rows.map (workArea r.delimiter r.fields)
  /-- A selection whose lines fit `WA` is answered. -/
  served : ∀ r rows, select r.queryTable r.options = .ok rows →
    (∀ row ∈ rows, (joinedFields r.delimiter r.fields row).length ≤ lineLimit) →
    ∃ lines, dest.call r = .ok lines
  /-- A rejected selection is a failed call. -/
  rejected : ∀ r e, select r.queryTable r.options = .error e → dest.call r = .error e

/-- The selection reads the given table contents: a condition line selects
    the rows that meet it, in table order. -/
def SelectsFrom (db : Text → List SapRow) (select : Selection) : Prop :=
  ∀ table line cond rows, read line = some cond → select table [line] = .ok rows →
    rows = (db table).filter fun row => holds row cond

/-- A call whose lines fit is answered with the lines of the selection. -/
theorem ReadsTable.call_eq {dest : RfcDestination} {select : Selection}
    (h : ReadsTable dest select) {r : ReadRequest} {rows : List SapRow}
    (hsel : select r.queryTable r.options = .ok rows)
    (hfit : ∀ row ∈ rows, (joinedFields r.delimiter r.fields row).length ≤ lineLimit) :
    dest.call r = .ok (rows.map (workArea r.delimiter r.fields)) := by
  obtain ⟨lines, hlines⟩ := h.served r rows hsel hfit
  -- the rows behind an answer are those selected
  obtain ⟨rows', hsel', rfl⟩ := h.data r lines hlines
  rw [hsel] at hsel'
  cases hsel'
  exact hlines

/-! ## §3. A destination over given tables. -/

section TableDestination

variable (db : Text → List SapRow)

/-- Selecting from given tables by one condition line. -/
def tableSelect : Selection := fun table options =>
  match options with
  | [line] =>
      match read line with
      | some cond => .ok ((db table).filter fun row => holds row cond)
      | none => .error (.rfcBase (text "OPTION_NOT_VALID"))
  | _ => .error (.rfcBase (text "OPTION_NOT_VALID"))

/-- `RFC_READ_TABLE` over given tables. -/
def tableDestination : RfcDestination :=
  { createFunction := fun _ => .ok ()
    call := fun r =>
      match tableSelect db r.queryTable r.options with
      | .error e => .error e
      | .ok rows =>
          -- a line wider than `WA` fails the whole call
          if ∀ row ∈ rows, (joinedFields r.delimiter r.fields row).length ≤ lineLimit then
            .ok (rows.map (workArea r.delimiter r.fields))
          else .error (.rfcBase (text "DATA_BUFFER_EXCEEDED"))
    ping := .ok () }

/-- It behaves as documented. -/
theorem readsTable_tableDestination : ReadsTable (tableDestination db) (tableSelect db) where
  data := by
    intro r lines h
    simp only [tableDestination] at h
    cases hsel : tableSelect db r.queryTable r.options with
    | error e => rw [hsel] at h; cases h
    | ok rows =>
        simp only [hsel] at h
        split at h
        next => cases h; exact ⟨rows, rfl, rfl⟩
        next => cases h
  served := by
    intro r rows hsel hfit
    exact ⟨rows.map (workArea r.delimiter r.fields), by
      simp only [tableDestination, hsel]
      rw [if_pos hfit]⟩
  rejected := by
    intro r e hsel
    simp only [tableDestination, hsel]

/-- Its reads, once the rows are known. -/
theorem readTable_tableDestination (r : ReadRequest) (rows : List SapRow)
    (hsel : tableSelect db r.queryTable r.options = .ok rows)
    (hfit : ∀ row ∈ rows, (joinedFields r.delimiter r.fields row).length ≤ lineLimit) :
    (tableDestination db).readTable r = .ok (rows.map (workArea r.delimiter r.fields)) := by
  show (tableDestination db).call r = _
  exact (readsTable_tableDestination db).call_eq hsel hfit

theorem selectsFrom_tableSelect : SelectsFrom db (tableSelect db) := by
  intro table line cond rows hread h
  simp only [tableSelect, hread, Except.ok.injEq] at h
  exact h.symm

end TableDestination

/-! ## §4. Keys. -/

/-- No two rows meet a condition on the key. -/
def KeyedBy (rows : List SapRow) (fields : List Text) : Prop :=
  rows.Pairwise fun r r' => ¬ ∀ f ∈ fields, sameChar (r f) (r' f) = true

/-- Two texts that compare equal to a third compare equal. -/
theorem sameChar_of_sameChar {a b c : Text} (hac : sameChar a c = true)
    (hbc : sameChar b c = true) : sameChar a b = true := by
  simp only [sameChar, beq_iff_eq] at *
  rw [hac, hbc]

/-- **A condition that fixes the key selects the row of that key, or
    nothing.** -/
theorem filter_unique {rows : List SapRow} {fields : List Text} {p : SapRow → Bool}
    (hkey : KeyedBy rows fields) (hp : ∀ r r', p r = true → p r' = true →
      ∀ f ∈ fields, sameChar (r f) (r' f) = true) :
    (∃ row ∈ rows, p row = true ∧ rows.filter p = [row])
      ∨ ((∀ row ∈ rows, p row = false) ∧ rows.filter p = []) := by
  induction rows with
  | nil => exact Or.inr ⟨by simp, rfl⟩
  | cons r rows ih =>
      obtain ⟨hr, hrows⟩ := List.pairwise_cons.mp hkey
      by_cases hpr : p r = true
      · -- the other rows carry another key, so the condition leaves them out
        have hrest : ∀ row ∈ rows, p row = false := by
          intro row hrow
          by_contra hprow
          exact hr row hrow (hp r row hpr (by simpa using hprow))
        refine Or.inl ⟨r, by simp, hpr, ?_⟩
        rw [List.filter_cons_of_pos hpr, List.filter_eq_nil_iff.mpr (by simpa using hrest)]
      · rw [List.filter_cons_of_neg hpr]
        rcases ih hrows with ⟨row, hrow, hprow, hfilter⟩ | ⟨hnone, hfilter⟩
        · exact Or.inl ⟨row, List.mem_cons_of_mem r hrow, hprow, hfilter⟩
        · refine Or.inr ⟨?_, hfilter⟩
          intro row hrow
          rcases List.mem_cons.mp hrow with rfl | hrow
          · simpa using hpr
          · exact hnone row hrow

end SapDbLib
