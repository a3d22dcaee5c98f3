/-
  SapDbLib.System.EndToEnd — FROM THE CLIENT'S CALL TO THE SAP TABLE AND BACK.

  Client, dispatch and server put together.  Two things between and behind
  them are assumed and named: the bus loses nothing on its way to the
  server's connection (`Bus.Lossless`), and SAP is a destination that reads
  tables as documented (`ReadsTable`).

    * `perform_server` — **an accepted query is the server's read**;
    * `accepted_key_wellFormed` — what the client lets through always becomes
      a well-formed key;
    * `success_reported_iff` — when "true" means that SAP delivered.
-/
import SapDbLib.Client.InputCheck
import SapDbLib.Server.Agreement
import SapDbLib.Server.Startup

namespace SapDbLib

open Library Library.Condition

/-! ## §1. The queries on both sides. -/

/-- The server method behind a query. -/
def LibQuery.keyQuery : LibQuery → KeyQuery
  | .getMKT => .getMatKurzText
  | .getOrderTypeNr => .getOrderTypeNr
  | .getOrderQty => .getOrderQty
  | .getOrderFailQty => .getOrderFailQty
  | .getOrderType => .getOrderType

/-- The width of the key. -/
def LibQuery.keyWidth : LibQuery → Nat
  | .getMKT => 18
  | _ => 12

/-- The field asked for. -/
def LibQuery.field : LibQuery → String
  | .getMKT => "MAKTX"
  | .getOrderTypeNr => "STLBEZ"
  | .getOrderQty => "GAMNG"
  | .getOrderFailQty => "GASMG"
  | .getOrderType => "AUART"

/-- The key of a query's input, as the server's condition carries it. -/
def LibQuery.literal (q : LibQuery) (s : Text) : Text := q.keyQuery.key (q.argument s)

/-- The condition line that an input ends up in. -/
def LibQuery.line (q : LibQuery) (s : Text) : Text := q.keyQuery.line (q.argument s)

theorem LibQuery.run_typedCall (q : LibQuery) (srv : SapServerQuery) (s : Text) :
    srv.run (q.typedCall s).method (q.typedCall s).args
      = srv.readLast (queryRequest q.keyQuery.table [q.field] (q.line s)) := by
  have hperform : srv.run (q.typedCall s).method (q.typedCall s).args
      = q.keyQuery.perform srv (q.argument s) := by
    cases q <;> rfl
  rw [hperform, q.keyQuery.perform_eq]
  cases q <;> rfl

/-- Both paddings together: the input at the end of a field of zeros. -/
theorem LibQuery.literal_eq (q : LibQuery) {s : Text} (h : s.length = q.width) :
    q.literal s = List.replicate (q.keyWidth - q.width) zero ++ s := by
  cases q
  case getMKT =>
    show s.leftpad 18 zero = _
    rw [List.leftpad, h]
    rfl
  all_goals
    show s.leftpad 12 zero = _
    rw [List.leftpad, h]
    rfl

/-! ## §2. Accepted inputs become well-formed keys. -/

/-- An accepted input contains no quote. -/
theorem LibQuery.Accepts.quote_notMem {q : LibQuery} {s : Text} (h : q.Accepts s) :
    quote ∉ s := by
  intro hquote
  rcases h.unit_mem hquote with hspace | hminus | hplus | hdigit
  · exact absurd hspace (by decide)
  · exact absurd hminus (by decide)
  · exact absurd hplus (by decide)
  · exact absurd hdigit (by decide)

/-- The literal of an accepted input: full width, the input at its end, no
    quote, and read back by the scanner. -/
theorem accepted_literal (q : LibQuery) (s : Text) (h : q.Accepts s) :
    (q.literal s).length = q.keyWidth ∧ s <:+ q.literal s ∧ quote ∉ q.literal s
      ∧ tokenize (q.line s) = some (q.keyQuery.tokens (q.literal s)) := by
  have hliteral := q.literal_eq h.1
  have hquote : quote ∉ q.literal s := by
    rw [hliteral, List.mem_append]
    intro hmem
    rcases hmem with hzero | hs
    · exact absurd (List.eq_of_mem_replicate hzero) (by decide)
    · exact h.quote_notMem hs
  have hwidth : q.width ≤ q.keyWidth := by cases q <;> decide
  refine ⟨?_, ?_, hquote, ?_⟩
  · rw [hliteral, List.length_append, List.length_replicate, h.1]
    omega
  · rw [hliteral]
    exact List.suffix_append _ _
  · exact q.keyQuery.tokenize_line_of_notMem fun hmem =>
      hquote ((q.keyQuery.quote_mem_key _).mpr hmem)

/-- **What the client lets through always becomes a well-formed key.**  The
    call sent for an accepted input runs the server's read of that input; the
    literal of its condition has the full width of the key, ends with the
    input and contains no quote; and the condition tokenises as that one
    comparison (with the language for a short text). -/
theorem accepted_key_wellFormed (q : LibQuery) (s : Text) (h : q.Accepts s) :
    (∀ lib bus out, q.perform lib bus s out = lib.callQuery bus (q.typedCall s).remote out)
      ∧ (∀ srv : SapServerQuery, srv.run (q.typedCall s).method (q.typedCall s).args
          = srv.readLast (queryRequest q.keyQuery.table [q.field] (q.line s)))
      ∧ (q.line s = q.keyQuery.keyField ++ text " = '" ++ q.literal s ++ text "'"
          ++ q.keyQuery.tail)
      ∧ (q.literal s).length = q.keyWidth
      ∧ s <:+ q.literal s
      ∧ quote ∉ q.literal s
      ∧ tokenize (q.line s) = some (q.keyQuery.tokens (q.literal s)) := by
  refine ⟨?_, fun srv => q.run_typedCall srv s, ?_, accepted_literal q s h⟩
  · intro lib bus out
    rw [q.perform_eq, if_pos h, q.remote_typedCall]
  · have hopen : text " = '" = blank :: (text "=" ++ [blank, quote]) := by decide
    have hclose : text "'" = [quote] := by decide
    rw [hopen, hclose]
    simp [LibQuery.line, LibQuery.literal, KeyQuery.line]

/-- The order number `60098052`. -/
theorem accepted_key_60098052 :
    (LibQuery.getOrderTypeNr.literal (text "60098052")).length = 12 :=
  (accepted_key_wellFormed .getOrderTypeNr (text "60098052")
    (by decide +kernel)).2.2.2.1

/-! ## §3. The bus between client and server. -/

/-- **The bus loses nothing**: the named connection is up, a call gets to the
    server, and the client gets its reply, or that there is none. -/
structure Bus.Lossless (bus : Bus) (name : Text) (conn : Connection) (srv : SapServerQuery) :
    Prop where
  alive : bus.alive name = true
  answer : ∀ rc, bus.answer rc = ((conn.handleMethodCall srv rc.message).reply).getD
    (.error .noReply)

/-- Such a bus, which every client reaches. -/
def serverBus (conn : Connection) (srv : SapServerQuery) : Bus :=
  { reach := fun _ _ => true
    alive := fun _ => true
    connectionError := []
    isValid := fun _ => true
    interfaceError := fun _ => []
    answer := fun rc =>
      ((conn.handleMethodCall srv rc.message).reply).getD (.error .noReply) }

theorem serverBus_lossless (name : Text) (conn : Connection) (srv : SapServerQuery) :
    (serverBus conn srv).Lossless name conn srv :=
  ⟨rfl, fun _ => rfl⟩

/-- A client of a bus that it reached has its remote object. -/
theorem connect_of_reach {bus : Bus} {address name : Text} (h : bus.reach address name = true) :
    (SAPDBLib.connect bus address name).m_remoteApp = some (remoteInterface name) := by
  rw [SAPDBLib.connect, if_pos h]

/-- A string reply or an exception, as the client sees it. -/
theorem toReply_replyOf (outcome : Except CSharpException Text) :
    (replyOf outcome).toReply = outcome.toOption := by
  cases outcome <;> rfl

/-- A well-typed call gets the outcome of its body. -/
theorem call_typed {bus : Bus} {remote : QDBusInterface} {conn : Connection}
    {srv : SapServerQuery} (hbus : bus.Lossless remote.connection conn srv) (hconn : conn.Serves)
    (c : TypedCall) : (bus.call remote c.remote).toReply = (srv.run c.method c.args).toOption := by
  have hreply := (hconn.handleMethodCall_typed srv c).1
  rw [Bus.call, if_pos hbus.alive, hbus.answer, hreply]
  exact toReply_replyOf _

/-- The configured server reads at its destination. -/
theorem readLast_configured (conf : DestConfig) (dest : RfcDestination) (r : ReadRequest) :
    (configuredServer conf dest).readLast r = lastLine <$> dest.readTable r := rfl

/-- **An accepted query is the server's read**: it returns true with the last
    line if the read succeeds, and false otherwise. -/
theorem perform_server {q : LibQuery} {s : Text} (h : q.Accepts s) {bus : Bus}
    {remote : QDBusInterface} {conn : Connection} {srv : SapServerQuery}
    (hbus : bus.Lossless remote.connection conn srv) (hconn : conn.Serves) {lib : SAPDBLib}
    (hlib : lib.m_remoteApp = some remote) (out : Text) :
    q.perform lib bus s out
      = .ok (Answer.ofReply (q.remoteCall s) out
          (srv.readLast (queryRequest q.keyQuery.table [q.field] (q.line s))).toOption) := by
  rw [q.perform_eq, if_pos h, callQuery_of_some hlib, ← q.remote_typedCall,
      call_typed hbus hconn, q.run_typedCall]

/-! ## §4. What SAP delivers. -/

/-- The read of a query. -/
def LibQuery.request (q : LibQuery) (s : Text) : ReadRequest :=
  queryRequest q.keyQuery.table [q.field] (q.line s)

/-- Over the configured server an accepted query is that read. -/
theorem perform_configured {q : LibQuery} {s : Text} (h : q.Accepts s) {conf : DestConfig}
    {dest : RfcDestination} {bus : Bus} {remote : QDBusInterface} {conn : Connection}
    (hbus : bus.Lossless remote.connection conn (configuredServer conf dest))
    (hconn : conn.Serves) {lib : SAPDBLib} (hlib : lib.m_remoteApp = some remote) (out : Text) :
    q.perform lib bus s out
      = .ok (Answer.ofReply (q.remoteCall s) out
          (lastLine <$> dest.readTable (q.request s)).toOption) := by
  rw [perform_server h hbus hconn hlib, readLast_configured]
  rfl

/-- The RFC call of a query succeeds. -/
def LibQuery.CallSucceeds (q : LibQuery) (dest : RfcDestination) (s : Text) : Prop :=
  ∃ lines, dest.readTable (q.request s) = .ok lines

/-- A row of the queried table for the requested key. -/
def LibQuery.RowOf (q : LibQuery) (db : Text → List SapRow) (s : Text) (row : SapRow) : Prop :=
  row ∈ db (text q.keyQuery.table) ∧ q.keyQuery.Carries (q.argument s) row

/-- The primary key of the queried table. -/
def LibQuery.keyFields : LibQuery → List Text
  | .getMKT => [text "MATNR", text "SPRAS"]
  | _ => [text "AUFNR"]

/-- Two rows for one key agree on the key fields. -/
theorem LibQuery.sameKey {q : LibQuery} {s : Text} {r r' : SapRow}
    (h : q.keyQuery.Carries s r) (h' : q.keyQuery.Carries s r') :
    ∀ f ∈ q.keyFields, sameChar (r f) (r' f) = true := by
  intro f hf
  cases q
  case getMKT =>
    simp only [LibQuery.keyFields, List.mem_cons, List.not_mem_nil, or_false] at hf
    rcases hf with rfl | rfl
    · exact sameChar_of_sameChar h.1 h'.1
    · exact sameChar_of_sameChar h.2 h'.2
  all_goals
    rw [List.mem_singleton.mp hf]
    exact sameChar_of_sameChar h h'

section Delivery

variable {dest : RfcDestination} {select : Selection} {db : Text → List SapRow}
variable (hreads : ReadsTable dest select) (hselects : SelectsFrom db select)
include hreads hselects

/-- The lines of a successful call: one for each row of the key. -/
theorem lines_of_call {q : LibQuery} {s : Text} (hs : q.Accepts s) {lines : List Text}
    (hcall : dest.readTable (q.request s) = .ok lines) :
    lines = ((db (text q.keyQuery.table)).filter fun row =>
        holds row (q.keyQuery.wanted (q.argument s))).map
        fun (row : SapRow) => row.value (text q.field) := by
  unfold RfcDestination.readTable at hcall
  cases hcreate : dest.createFunction (q.request s).function with
  | error e => rw [hcreate] at hcall; cases hcall
  | ok u =>
      rw [hcreate] at hcall
      have hdata : dest.call (q.request s) = .ok lines := hcall
      obtain ⟨rows, hsel, rfl⟩ := hreads.data _ _ hdata
      have hquote := ((accepted_literal q s hs).2.2.1)
      have hread : read (q.line s) = some (q.keyQuery.wanted (q.argument s)) :=
        q.keyQuery.read_line_of_notMem fun hmem =>
          hquote ((q.keyQuery.quote_mem_key _).mpr hmem)
      rw [hselects _ _ _ _ hread hsel]
      exact List.map_congr_left fun row _ => workArea_single _ _ _

/-- **A successful call delivers the row of the key, or nothing.** -/
theorem delivered {q : LibQuery} {s : Text} (hs : q.Accepts s)
    (hkey : KeyedBy (db (text q.keyQuery.table)) q.keyFields) {lines : List Text}
    (hcall : dest.readTable (q.request s) = .ok lines) :
    (∃ row, q.RowOf db s row ∧ lines = [row.value (text q.field)])
      ∨ ((¬ ∃ row, q.RowOf db s row) ∧ lines = []) := by
  have hlines := lines_of_call hreads hselects hs hcall
  have hunique := filter_unique hkey
    (p := fun row => holds row (q.keyQuery.wanted (q.argument s)))
    fun r r' hr hr' => LibQuery.sameKey (q.keyQuery.carries_of_holds hr)
      (q.keyQuery.carries_of_holds hr')
  rcases hunique with ⟨row, hmem, hholds, hfilter⟩ | ⟨hnone, hfilter⟩
  · refine Or.inl ⟨row, ⟨hmem, q.keyQuery.carries_of_holds hholds⟩, ?_⟩
    rw [hlines, hfilter]
    rfl
  · refine Or.inr ⟨?_, ?_⟩
    · intro hrow
      obtain ⟨row, hmem, hcarries⟩ := hrow
      have hholds := (q.keyQuery.holds_wanted_iff _ row).mpr hcarries
      rw [hnone row hmem] at hholds
      cases hholds
    · rw [hlines, hfilter]
      rfl

end Delivery

/-! ## §5. When success is reported rightly. -/

/-- A query reports success exactly when SAP delivered, and hands out what it
    delivered. -/
def QueryReported (q : LibQuery) (lib : SAPDBLib) (bus : Bus) (dest : RfcDestination)
    (db : Text → List SapRow) (s out : Text) : Prop :=
  ∃ a, q.perform lib bus s out = .ok a
    ∧ (a.returned = true ↔ q.CallSucceeds dest s ∧ ∃ row, q.RowOf db s row)
    ∧ (a.returned = true → ∃ row, q.RowOf db s row ∧ a.out = row.value (text q.field))
    ∧ (a.returned = false → a.out = out)

/-- Ping reports success exactly when the destination's `Ping` succeeded. -/
def PingReported (lib : SAPDBLib) (bus : Bus) (conf : DestConfig) : Prop :=
  ∃ a, lib.ping bus = .ok a ∧ (a.returned = true ↔ conf.manager.ping destName = .ok ())

section Reported

variable {conf : DestConfig} {dest : RfcDestination} {bus : Bus} {remote : QDBusInterface}
variable {conn : Connection} {lib : SAPDBLib}
variable (hbus : bus.Lossless remote.connection conn (configuredServer conf dest))
variable (hconn : conn.Serves) (hlib : lib.m_remoteApp = some remote)
include hbus hconn hlib

theorem queryReported_iff {select : Selection} {db : Text → List SapRow}
    (hreads : ReadsTable dest select) (hselects : SelectsFrom db select) (q : LibQuery)
    (hkey : KeyedBy (db (text q.keyQuery.table)) q.keyFields) {s : Text} (hs : q.Accepts s)
    (out : Text) :
    QueryReported q lib bus dest db s out
      ↔ ¬ q.CallSucceeds dest s ∨ ∃ row, q.RowOf db s row := by
  have hperform := perform_configured hs hbus hconn hlib out
  unfold QueryReported LibQuery.CallSucceeds
  cases hcall : dest.readTable (q.request s) with
  | error e =>
      -- the exception becomes an error reply: false, and the old value
      rw [hcall] at hperform
      have hnot : ¬ ∃ lines, (Except.error e : Except CSharpException (List Text)) = .ok lines := by
        intro hok
        obtain ⟨lines, h⟩ := hok
        cases h
      exact ⟨fun _ => Or.inl hnot, fun _ => ⟨_, hperform, by simp [Except.toOption, Answer.ofReply],
        by simp [Except.toOption, Answer.ofReply], fun _ => rfl⟩⟩
  | ok lines =>
      rw [hcall] at hperform
      have hsome : ∃ l, (Except.ok lines : Except CSharpException (List Text)) = .ok l :=
        ⟨lines, rfl⟩
      rcases delivered hreads hselects hs hkey hcall with ⟨row, hrow, rfl⟩ | ⟨hnone, rfl⟩
      · refine ⟨fun _ => Or.inr ⟨row, hrow⟩, fun _ => ⟨_, hperform, ?_, ?_, ?_⟩⟩
        · exact ⟨fun _ => ⟨hsome, row, hrow⟩, fun _ => rfl⟩
        · exact fun _ => ⟨row, hrow, rfl⟩
        · intro h
          cases h
      · -- no row: the empty text is a valid reply, and true is returned
        constructor
        · intro hreported
          obtain ⟨a, ha, hret, -⟩ := hreported
          rw [hperform] at ha
          cases ha
          exact Or.inr (hret.mp rfl).2
        · intro h
          rcases h with hfails | hrow
          · exact absurd hsome hfails
          · exact absurd hrow hnone

/-- Ping returns true exactly if `PingDestination` comes back with a text. -/
theorem ping_server :
    lib.ping bus
      = .ok { returned := (conf.pingDestination destName).toOption.isSome
              out := []
              issued := [{ member := text "pingSapDest", arguments := [] }] } := by
  have hreply := call_typed hbus hconn ⟨.pingSapDest, ()⟩
  unfold SAPDBLib.ping
  rw [callQuery_of_some hlib]
  show Except.ok { Answer.ofReply _ [] ((bus.call remote
    (TypedCall.mk .pingSapDest ()).remote).toReply) with out := [] } = _
  rw [hreply]
  show Except.ok { Answer.ofReply _ [] (conf.pingDestination destName).toOption with out := [] } = _
  cases (conf.pingDestination destName).toOption with
  | none => rfl
  | some s => rfl

theorem pingReported_iff :
    PingReported lib bus conf
      ↔ ∀ e, conf.manager.ping destName = .error e → e.caughtByPing = false := by
  have hanswered : (conf.pingDestination destName).toOption.isSome = true
      ↔ ∀ e, conf.manager.ping destName = .error e → e.caughtByPing = true := by
    rw [← pingDestination_eq_ok_iff]
    cases conf.pingDestination destName <;> simp [Except.toOption]
  unfold PingReported
  rw [ping_server hbus hconn hlib]
  simp only [Except.ok.injEq, exists_eq_left', hanswered]
  -- a caught failure is the one outcome that ping reports wrongly
  cases conf.manager.ping destName with
  | ok u => simp
  | error e => simp

end Reported

/-- **When "true" means that SAP delivered.**  For the configured server after
    any well-typed calls, behind a bus that loses nothing and over any table
    contents with unique keys: a query on an accepted input reports rightly
    exactly if its RFC call fails or the table holds a row for the key; ping
    reports rightly exactly if no failure of `Ping` is caught and turned into
    a text. -/
theorem success_reported_iff (conf : DestConfig) (dest : RfcDestination) (select : Selection)
    (db : Text → List SapRow) (connection : Connection) (past : List TypedCall)
    (bus : Bus) (address name : Text)
    (hreads : ReadsTable dest select) (hselects : SelectsFrom db select)
    (hkeys : ∀ q : LibQuery, KeyedBy (db (text q.keyQuery.table)) q.keyFields)
    (hreach : bus.reach address name = true)
    (hbus : bus.Lossless name
      ((connection.register servicePath).after (configuredServer conf dest) past)
      (configuredServer conf dest)) :
    let lib := SAPDBLib.connect bus address name
    (∀ (q : LibQuery) (s out : Text), q.Accepts s →
        (QueryReported q lib bus dest db s out
          ↔ ¬ q.CallSucceeds dest s ∨ ∃ row, q.RowOf db s row))
      ∧ (PingReported lib bus conf
        ↔ ∀ e, conf.manager.ping destName = .error e → e.caughtByPing = false) := by
  intro lib
  have hconn := connection.serves_register.serves_after (configuredServer conf dest) past
  have hlib : lib.m_remoteApp = some (remoteInterface name) := connect_of_reach hreach
  exact ⟨fun q s out hs => queryReported_iff hbus hconn hlib hreads hselects q (hkeys q) hs out,
    pingReported_iff hbus hconn hlib⟩

/-! ## §6. An order that is not there. -/

/-- A connection before anything is registered. -/
def emptyConnection : Connection :=
  { registeredObjects := fun _ => none, machineId := none, introspect := fun _ => [] }

/-- The bus to a freshly started server at a destination. -/
def destinationBus (dest : RfcDestination) : Bus :=
  serverBus ((emptyConnection.register servicePath).after (configuredServer idleConfig dest) [])
    (configuredServer idleConfig dest)

theorem destinationBus_lossless (name : Text) (dest : RfcDestination) :
    (destinationBus dest).Lossless name
      ((emptyConnection.register servicePath).after (configuredServer idleConfig dest) [])
      (configuredServer idleConfig dest) :=
  serverBus_lossless name _ _

/-- The service over the tables with one order, and a client of it. -/
def oneOrderBus : Bus := destinationBus (tableDestination oneOrder)

def oneOrderClient : SAPDBLib :=
  SAPDBLib.connect oneOrderBus (text "tcp:host=localhost,port=12345") (text "my.qtconnect.DBus")

theorem keyedBy_oneOrder (q : LibQuery) :
    KeyedBy (oneOrder (text q.keyQuery.table)) q.keyFields := by
  unfold KeyedBy oneOrder
  split
  · exact List.pairwise_singleton _ _
  · exact List.Pairwise.nil

/-- The query for the order that is there reports as the theorem says. -/
theorem success_reported_60098052 :
    QueryReported .getOrderQty oneOrderClient oneOrderBus (tableDestination oneOrder) oneOrder
        (text "60098052") []
      ↔ ¬ LibQuery.getOrderQty.CallSucceeds (tableDestination oneOrder) (text "60098052")
        ∨ ∃ row, LibQuery.getOrderQty.RowOf oneOrder (text "60098052") row :=
  (success_reported_iff idleConfig (tableDestination oneOrder) (tableSelect oneOrder) oneOrder
    emptyConnection [] oneOrderBus (text "tcp:host=localhost,port=12345")
    (text "my.qtconnect.DBus") (readsTable_tableDestination oneOrder)
    (selectsFrom_tableSelect oneOrder) keyedBy_oneOrder rfl
    (destinationBus_lossless _ (tableDestination oneOrder))).1 .getOrderQty (text "60098052") []
    (by decide +kernel)

/-- The read of an unknown order succeeds without a line. -/
theorem unknown_order_call :
    (tableDestination oneOrder).readTable (LibQuery.getOrderQty.request (text "60098053"))
      = .ok [] := by
  have hread : read (LibQuery.getOrderQty.line (text "60098053"))
      = some (.eq (text "AUFNR") (text "000060098053")) := by decide +kernel
  have hfilter : ((oneOrder (text "AFKO")).filter fun row =>
      holds row (.eq (text "AUFNR") (text "000060098053"))) = [] := by decide +kernel
  have hselect : tableSelect oneOrder (text "AFKO")
      [LibQuery.getOrderQty.line (text "60098053")] = .ok [] := by
    simp only [tableSelect, hread, hfilter]
  have hcall := readTable_tableDestination oneOrder
    (LibQuery.getOrderQty.request (text "60098053")) [] hselect (by simp)
  rw [hcall]
  rfl

/-- **An order that SAP does not know is reported as a success.** -/
theorem unknown_order_reported :
    ¬ QueryReported .getOrderQty oneOrderClient oneOrderBus (tableDestination oneOrder) oneOrder
      (text "60098053") [] := by
  intro hreported
  obtain ⟨a, ha, hret, -⟩ := hreported
  have haccepts : LibQuery.getOrderQty.Accepts (text "60098053") := by decide +kernel
  have hconn : ((emptyConnection.register servicePath).after
      (configuredServer idleConfig (tableDestination oneOrder)) []).Serves :=
    emptyConnection.serves_register
  have hlib : oneOrderClient.m_remoteApp
      = some (remoteInterface (text "my.qtconnect.DBus")) := rfl
  have hperform := perform_configured haccepts
    (destinationBus_lossless (text "my.qtconnect.DBus") (tableDestination oneOrder)) hconn hlib []
  rw [unknown_order_call] at hperform
  have hreturned : a.returned = true := by
    rw [Except.ok.inj (ha.symm.trans hperform)]
    rfl
  -- true was returned, so there should be a row
  obtain ⟨-, row, hmem, hcarries⟩ := hret.mp hreturned
  have hrow : row = order60098052 := List.mem_singleton.mp hmem
  subst hrow
  have hkey : sameChar (order60098052 (text "AUFNR"))
      (KeyQuery.getOrderQty.key (text "60098053")) = false := by decide +kernel
  rw [show sameChar (order60098052 (text "AUFNR"))
      (KeyQuery.getOrderQty.key (text "60098053")) = true from hcarries] at hkey
  cases hkey

end SapDbLib
