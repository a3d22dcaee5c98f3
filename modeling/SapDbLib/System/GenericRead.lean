/-
  SapDbLib.System.GenericRead — THE ROWS OF A GENERIC TABLE READ.

  `getValueFromTable` reads any table under any conditions, so SAP may put
  any number of rows into `DATA`.  The row loop overwrites its variable with
  each of them.

    * `hasInOrder_lastLine_iff` — what the last row has room for;
    * `getValueFromTable_server` — server and client return the last row;
    * `rows_kept_iff` — **when no row is lost**: exactly if all rows but the
      last are empty texts.
-/
import SapDbLib.System.EndToEnd

namespace SapDbLib

open Library

/-! ## §1. The last row. -/

/-- **The last line holds all lines exactly if the others are empty.** -/
theorem hasInOrder_lastLine_iff (lines : List Text) :
    HasInOrder (lastLine lines) lines ↔ ∀ l ∈ lines.dropLast, l = [] := by
  rcases List.eq_nil_or_concat lines with hnil | ⟨init, last, hconcat⟩
  · rw [hnil]
    simp [HasInOrder]
  · have hlast : lastLine (init ++ [last]) = last := by simp [lastLine]
    rw [hconcat, List.concat_eq_append, hlast, List.dropLast_concat]
    exact hasInOrder_concat_iff init last

/-! ## §2. The read on both sides. -/

/-- The request of a generic read. -/
def tableRequest (table : Text) (columns : List Text) (delimiter : Text)
    (conditions : List Text) : ReadRequest :=
  { function := text "RFC_READ_TABLE"
    queryTable := table
    delimiter := delimiter
    fields := columns
    options := conditions }

/-- The server returns a text with all rows in it, as pieces that do not
    overlap, in `DATA` order. -/
def ServerKeepsRows (srv : SapServerQuery) (table delimiter : Text)
    (columns conditions lines : List Text) : Prop :=
  ∃ s, srv.getValueFromTable table columns delimiter conditions = .ok s ∧ HasInOrder s lines

/-- The client hands such a text out and returns true. -/
def ClientKeepsRows (lib : SAPDBLib) (bus : Bus) (table delimiter : Text)
    (columns conditions : List Text) (out : Text) (lines : List Text) : Prop :=
  ∃ a, lib.getValueFromTable bus table delimiter columns conditions out = .ok a
    ∧ a.returned = true ∧ HasInOrder a.out lines

section Read

variable {conf : DestConfig} {dest : RfcDestination} {table delimiter : Text}
variable {columns conditions lines : List Text}
variable (hread : dest.readTable (tableRequest table columns delimiter conditions) = .ok lines)
include hread

theorem getValueFromTable_configured :
    (configuredServer conf dest).getValueFromTable table columns delimiter conditions
      = .ok (lastLine lines) := by
  rw [getValueFromTable_eq, readLast_configured]
  show lastLine <$> dest.readTable (tableRequest table columns delimiter conditions) = _
  rw [hread]
  rfl

/-- **The client hands out what the server returned**: the last row. -/
theorem getValueFromTable_server {bus : Bus} {remote : QDBusInterface} {conn : Connection}
    (hbus : bus.Lossless remote.connection conn (configuredServer conf dest))
    (hconn : conn.Serves) {lib : SAPDBLib} (hlib : lib.m_remoteApp = some remote) (out : Text) :
    ∃ a, lib.getValueFromTable bus table delimiter columns conditions out = .ok a
      ∧ a.returned = true ∧ a.out = lastLine lines := by
  let c : TypedCall := ⟨.getValueFromTable, (table, columns, delimiter, conditions)⟩
  have hreply := call_typed hbus hconn c
  have hrun : (configuredServer conf dest).run c.method c.args = .ok (lastLine lines) :=
    getValueFromTable_configured hread
  refine ⟨Answer.ofReply c.remote out (some (lastLine lines)), ?_, rfl, rfl⟩
  show lib.callQuery bus c.remote out = _
  rw [callQuery_of_some hlib, hreply, hrun]
  rfl

theorem serverKeepsRows_iff :
    ServerKeepsRows (configuredServer conf dest) table delimiter columns conditions lines
      ↔ ∀ l ∈ lines.dropLast, l = [] := by
  unfold ServerKeepsRows
  rw [getValueFromTable_configured hread, ← hasInOrder_lastLine_iff]
  constructor
  · intro hkept
    obtain ⟨s, hs, hpieces⟩ := hkept
    cases hs
    exact hpieces
  · intro hpieces
    exact ⟨lastLine lines, rfl, hpieces⟩

theorem clientKeepsRows_iff {bus : Bus} {remote : QDBusInterface} {conn : Connection}
    (hbus : bus.Lossless remote.connection conn (configuredServer conf dest))
    (hconn : conn.Serves) {lib : SAPDBLib} (hlib : lib.m_remoteApp = some remote) (out : Text) :
    ClientKeepsRows lib bus table delimiter columns conditions out lines
      ↔ ∀ l ∈ lines.dropLast, l = [] := by
  obtain ⟨a, ha, hreturned, hout⟩ := getValueFromTable_server hread hbus hconn hlib out
  unfold ClientKeepsRows
  rw [ha, ← hasInOrder_lastLine_iff, ← hout]
  constructor
  · intro hkept
    obtain ⟨a', ha', -, hpieces⟩ := hkept
    cases ha'
    exact hpieces
  · intro hpieces
    exact ⟨a, rfl, hreturned, hpieces⟩

end Read

/-! ## §3. When no row is lost. -/

/-- **When no row is lost.**  Whatever table, columns, delimiter, conditions
    and rows of an answered read: the text the server returns, and with it
    the text the client behind a bus that loses nothing hands out, contains
    all rows exactly if every row but the last is an empty text. -/
theorem rows_kept_iff (conf : DestConfig) (dest : RfcDestination) (connection : Connection)
    (past : List TypedCall) (table delimiter : Text) (columns conditions : List Text)
    (out : Text) (lines : List Text)
    (hread : dest.readTable (tableRequest table columns delimiter conditions) = .ok lines) :
    (ServerKeepsRows (configuredServer conf dest) table delimiter columns conditions lines
        ↔ ∀ l ∈ lines.dropLast, l = [])
      ∧ ∀ (bus : Bus) (address name : Text), bus.reach address name = true →
        bus.Lossless name
          ((connection.register servicePath).after (configuredServer conf dest) past)
          (configuredServer conf dest) →
        (ClientKeepsRows (SAPDBLib.connect bus address name) bus table delimiter columns
            conditions out lines
          ↔ ∀ l ∈ lines.dropLast, l = []) := by
  refine ⟨serverKeepsRows_iff hread, fun bus address name hreach hbus => ?_⟩
  have hconn := connection.serves_register.serves_after (configuredServer conf dest) past
  have hname : bus.Lossless (remoteInterface name).connection _ _ := hbus
  exact clientKeepsRows_iff hread hname hconn (connect_of_reach hreach) out

/-- A destination that answers every read with the given rows. -/
def linesDestination (lines : List Text) : RfcDestination :=
  { createFunction := fun _ => .ok (), call := fun _ => .ok lines, ping := .ok () }

/-- One row is kept on its way to the client. -/
theorem one_row_kept :
    ClientKeepsRows
      (SAPDBLib.connect (destinationBus (linesDestination [text "000000000000604934"]))
        (text "tcp:host=localhost,port=12345") (text "my.qtconnect.DBus"))
      (destinationBus (linesDestination [text "000000000000604934"])) (text "AFKO") (text "~")
      [text "STLBEZ"] [text "AUFNR = '000060098052'"] [] [text "000000000000604934"] :=
  ((rows_kept_iff idleConfig (linesDestination [text "000000000000604934"]) emptyConnection []
    (text "AFKO") (text "~") [text "STLBEZ"] [text "AUFNR = '000060098052'"] []
    [text "000000000000604934"] rfl).2 _ _ _ rfl (destinationBus_lossless _ _)).mpr (by simp)

/-- **Of two rows the first is lost.** -/
theorem first_of_two_rows_lost :
    ¬ ServerKeepsRows
      (configuredServer idleConfig
        (linesDestination [text "000000000000604934", text "000000000000605229"]))
      (text "AFKO") (text "~") [text "STLBEZ"] [text "GAMNG > '40'"]
      [text "000000000000604934", text "000000000000605229"] := by
  intro hkept
  rw [serverKeepsRows_iff rfl] at hkept
  exact absurd (hkept (text "000000000000604934") (by simp)) (by decide)

end SapDbLib
