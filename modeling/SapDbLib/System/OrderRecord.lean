/-
  SapDbLib.System.OrderRecord — AN ORDER RECORD FROM `AFKO` TO BOTH CLIENTS.

  The console client reads the record at the destination itself, the window
  asks the server for it.  Over any destination this file says when each of
  them takes the record as a whole or leaves everything as it was.

    * `console_all_or_nothing_iff` — the console client: a row is found and
      its record is complete;
    * `window_all_or_nothing_iff` — the window: whenever the read succeeds,
      a row is found and its record has three pieces;
    * `record_all_or_nothing_iff` — **both together**.
-/
import SapDbLib.Client.OrderRecord
import SapDbLib.System.EndToEnd

namespace SapDbLib

open Library

/-! ## §1. The record a read ends with. -/

/-- `line` is the record of the last row that SAP finds for an order. -/
def LastRecord (dest : RfcDestination) (strAufNr line : Text) : Prop :=
  ∃ lines, dest.readTable (recordRequest strAufNr) = .ok lines ∧ lines.getLast? = some line

/-- Only a line that was read has pieces: without a row the text kept is
    empty, which is one piece. -/
theorem hasPieces_lastLine_iff {lines : List Text} {p : Pieces} :
    HasPieces (lastLine lines) p ↔ ∃ line, lines.getLast? = some line ∧ HasPieces line p := by
  unfold lastLine
  rw [List.getLastD_eq_getLast?]
  cases lines.getLast? with
  | some line => simp
  | none =>
      constructor
      · intro h
        obtain ⟨rest, hsplit⟩ := h
        have hone : ([] : Text).splitOn tilde = [[]] := rfl
        rw [Option.getD_none, hone] at hsplit
        exact absurd (congrArg List.length hsplit) (by simp)
      · intro h
        obtain ⟨line, hline, -⟩ := h
        cases hline

/-! ## §2. The console client. -/

/-- The console client sets all three results from one line of the reply and
    returns true, or leaves them as they were and returns false. -/
def ConsoleAllOrNothing (dest : RfcDestination) (strAufNr : Text) : Prop :=
  ∀ refs : Refs,
    (∃ lines line p, dest.readTable (recordRequest strAufNr) = .ok lines ∧ line ∈ lines
        ∧ HasPieces line p ∧ (getMatNr strAufNr dest).runFrom refs = (.ok true, p.refs))
      ∨ (getMatNr strAufNr dest).runFrom refs = (.ok false, refs)

theorem console_all_or_nothing_iff (dest : RfcDestination) (strAufNr : Text) :
    ConsoleAllOrNothing dest strAufNr
      ↔ ∃ line p, LastRecord dest strAufNr line ∧ HasPieces line p ∧ p.Pointed := by
  constructor
  · intro h
    -- whatever it returned, it ended without an exception
    have hended : ∃ b refs', (getMatNr strAufNr dest).runFrom ⟨[], [], []⟩ = (.ok b, refs') := by
      rcases h ⟨[], [], []⟩ with ⟨_, _, p, -, -, -, hrun⟩ | hrun
      · exact ⟨true, p.refs, hrun⟩
      · exact ⟨false, _, hrun⟩
    obtain ⟨b, refs', hrun⟩ := hended
    rw [getMatNr_eq] at hrun
    cases hread : dest.readTable (recordRequest strAufNr) with
    | error e =>
        rw [hread] at hrun
        cases hrun
    | ok lines =>
        rw [hread] at hrun
        obtain ⟨p, hpieces, hpointed⟩ := pointed_of_decode hrun
        obtain ⟨line, hlast, hline⟩ := hasPieces_lastLine_iff.mp hpieces
        exact ⟨line, p, ⟨lines, hread, hlast⟩, hline, hpointed⟩
  · intro h refs
    obtain ⟨line, p, ⟨lines, hread, hlast⟩, hline, hpointed⟩ := h
    refine Or.inl ⟨lines, line, p, hread, List.mem_of_getLast? hlast, hline, ?_⟩
    rw [getMatNr_eq, hread]
    exact decode_of_pointed (hasPieces_lastLine_iff.mpr ⟨line, hlast, hline⟩) hpointed refs

/-! ## §3. The window. -/

/-- The window shows all three results from the reply and returns true, or
    stays as it was and returns false. -/
def WindowAllOrNothing (ui : SapWindowUi) (call : RemoteCall → QDBusMessage) : Prop :=
  (∃ line p, (call (recordCall ui.leAuftragsNr)).toReply = some line ∧ HasPieces line p
      ∧ getMatNrMeng ui call = .ok (true, ui.showing p))
    ∨ getMatNrMeng ui call = .ok (false, ui)

/-- What decides it is the reply alone. -/
theorem windowAllOrNothing_iff_reply (ui : SapWindowUi) (call : RemoteCall → QDBusMessage) :
    WindowAllOrNothing ui call
      ↔ (ui.SendsRequest → ∀ line, (call (recordCall ui.leAuftragsNr)).toReply = some line →
          ∃ p, HasPieces line p) := by
  unfold WindowAllOrNothing
  by_cases hsent : ui.SendsRequest
  · rw [getMatNrMeng_of_sent hsent]
    cases (call (recordCall ui.leAuftragsNr)).toReply with
    | none => simp
    | some line =>
        simp only [Option.some.injEq, hsent, true_imp_iff, forall_eq']
        constructor
        · intro h
          rcases h with ⟨line', p, rfl, hpieces, -⟩ | hfalse
          · exact ⟨p, hpieces⟩
          · -- a reply was decoded, so false cannot have been returned
            split at hfalse
            · cases hfalse
            · cases hfalse
        · intro h
          obtain ⟨p, rest, hsplit⟩ := h
          refine Or.inl ⟨line, p, rfl, ⟨rest, hsplit⟩, ?_⟩
          rw [hsplit]
  · rw [getMatNrMeng_of_not_sent hsent]
    exact ⟨fun _ h => absurd h hsent, fun _ => Or.inr rfl⟩

section Served

variable {conf : DestConfig} {dest : RfcDestination} {bus : Bus} {remote : QDBusInterface}
variable {conn : Connection}
variable (hbus : bus.Lossless remote.connection conn (configuredServer conf dest))
variable (hconn : conn.Serves)
include hbus hconn

/-- What the configured server replies to the window. -/
theorem reply_recordCall (strAufNr : Text) :
    (bus.call remote (recordCall strAufNr)).toReply
      = (lastLine <$> dest.readTable (recordRequest strAufNr)).toOption := by
  have hcall := call_typed hbus hconn ⟨.getMatNrFromPa, strAufNr⟩
  have hrun : (configuredServer conf dest).run .getMatNrFromPa strAufNr
      = lastLine <$> dest.readTable (recordRequest strAufNr) :=
    getMatNrFromPa_eq (configuredServer conf dest) strAufNr
  rw [← hrun]
  exact hcall

theorem window_all_or_nothing_iff (ui : SapWindowUi) :
    WindowAllOrNothing ui (bus.call remote)
      ↔ (ui.SendsRequest → ∀ lines, dest.readTable (recordRequest ui.leAuftragsNr) = .ok lines →
          ∃ line p, lines.getLast? = some line ∧ HasPieces line p) := by
  rw [windowAllOrNothing_iff_reply, reply_recordCall hbus hconn]
  refine imp_congr_right fun _ => ?_
  cases dest.readTable (recordRequest ui.leAuftragsNr) with
  | error e =>
      -- the exception is an error reply: nothing was decoded
      constructor
      · intro _ lines h
        cases h
      · intro _ line h
        cases h
  | ok lines =>
      constructor
      · intro h lines' hlines
        cases hlines
        obtain ⟨p, hpieces⟩ := h (lastLine lines) rfl
        obtain ⟨line, hlast, hline⟩ := hasPieces_lastLine_iff.mp hpieces
        exact ⟨line, p, hlast, hline⟩
      · intro h line hline
        cases hline
        obtain ⟨line, p, hlast, hpieces⟩ := h lines rfl
        exact ⟨p, hasPieces_lastLine_iff.mpr ⟨line, hlast, hpieces⟩⟩

end Served

/-! ## §4. Both decoders. -/

/-- **When decoding an order record is all or nothing.**  For every content
    of the tables behind a destination and every order number: the console
    client exactly if the read finds a row whose record (that of the last
    row) has three pieces with decimal points in the quantities; the window,
    asking a configured server after any well-typed calls over a bus that
    loses nothing, exactly if the record has three pieces whenever the read
    succeeds. -/
theorem record_all_or_nothing_iff (conf : DestConfig) (dest : RfcDestination)
    (connection : Connection) (past : List TypedCall) :
    (∀ strAufNr, ConsoleAllOrNothing dest strAufNr
        ↔ ∃ line p, LastRecord dest strAufNr line ∧ HasPieces line p ∧ p.Pointed)
      ∧ ∀ (bus : Bus) (remote : QDBusInterface), bus.Lossless remote.connection
          ((connection.register servicePath).after (configuredServer conf dest) past)
          (configuredServer conf dest) →
        ∀ ui : SapWindowUi, WindowAllOrNothing ui (bus.call remote)
          ↔ (ui.SendsRequest → ∀ lines,
              dest.readTable (recordRequest ui.leAuftragsNr) = .ok lines →
              ∃ line p, lines.getLast? = some line ∧ HasPieces line p) := by
  refine ⟨console_all_or_nothing_iff dest, fun bus remote hbus => ?_⟩
  have hconn := connection.serves_register.serves_after (configuredServer conf dest) past
  exact window_all_or_nothing_iff hbus hconn

/-- The record of the order `60098052` is shown as a whole. -/
theorem record_60098052_shown :
    WindowAllOrNothing enteredWindow
      ((destinationBus (oneLineDestination record60098052.line)).call
        (remoteInterface (text "my.qtconnect.DBus"))) := by
  refine ((record_all_or_nothing_iff idleConfig (oneLineDestination record60098052.line)
    emptyConnection []).2 _ (remoteInterface (text "my.qtconnect.DBus"))
    (destinationBus_lossless _ _) enteredWindow).mpr fun _ lines hlines => ?_
  cases hlines
  exact ⟨record60098052.line, record60098052, rfl, [], Pieces.splitOn_line (by decide +kernel)⟩

/-- **Without a row neither client leaves its results alone and returns
    false**: both index past the one piece of the empty text. -/
theorem no_row_not_all_or_nothing :
    ¬ (ConsoleAllOrNothing idleDestination (text "60098052")
      ∨ WindowAllOrNothing enteredWindow
        ((destinationBus idleDestination).call (remoteInterface (text "my.qtconnect.DBus")))) := by
  have hread : ∀ r, idleDestination.readTable r = .ok [] := fun _ => rfl
  intro h
  rcases h with hconsole | hwindow
  · obtain ⟨line, p, ⟨lines, hlines, hlast⟩, -⟩ :=
      (console_all_or_nothing_iff idleDestination (text "60098052")).mp hconsole
    rw [hread] at hlines
    cases hlines
    cases hlast
  · have hconn : ((emptyConnection.register servicePath).after
        (configuredServer idleConfig idleDestination) []).Serves := emptyConnection.serves_register
    have hsent : enteredWindow.SendsRequest := by decide +kernel
    obtain ⟨line, p, hlast, -⟩ := (window_all_or_nothing_iff
      (destinationBus_lossless (text "my.qtconnect.DBus") idleDestination) hconn
      enteredWindow).mp hwindow hsent [] (hread _)
    cases hlast

/-- The console client has overwritten the material number by then. -/
example : (getMatNr (text "60098052") idleDestination).runFrom
      ⟨text "604934", text "46", text "0"⟩
    = (.error .indexOutOfRange, ⟨[], text "46", text "0"⟩) := by
  rw [getMatNr_eq]
  rfl

end SapDbLib
