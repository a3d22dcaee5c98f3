/-
  SapDbLib.Server.SapQuery — THE SERVER OBJECT AND ITS QUERIES.

  `SapServerQuery` as the server exports it: two fields that stay `null`
  until start-up sets them, and the eight methods of `ifaceServer`.  The
  methods follow the source statement by statement; four of them fill the
  function by hand, the others go through the loops of `getValueFromTable`.

  Each method has one description:

    * `getMatNrFromPa_eq`, `getOrderTypeNr_eq`, `getOrderQty_eq`,
      `getOrderFailQty_eq`, `getOrderType_eq` — the last line of **one**
      read whose condition is `orderCondition` of the argument;
    * `getMatKurzText_eq` — the same with `matCondition`;
    * `getValueFromTable_eq` — the same for any request;
    * `pingSapDest_eq_ok_iff` — which outcomes of `Ping` become a text.
-/
import SapDbLib.Rfc
import SapDbLib.Library.Decimal

namespace SapDbLib

open Library

/-! ## §1. The destination configuration. -/

/-- `DestConfig`, registered with the connector's destination manager. -/
structure DestConfig where
  manager : RfcDestinationManager

/-- `PingDestination`: the two caught exception classes become texts. -/
def DestConfig.pingDestination (conf : DestConfig) (a : Text) : Except CSharpException Text :=
  let attempt : Except CSharpException Unit := do
    let dest ← conf.manager.getDestination a
    dest.ping
  match attempt with
  | .ok () => .ok (text "Ping successful")
  | .error (.rfcInvalidParameter typeName message) => .ok (typeName ++ text " " ++ message)
  | .error (.rfcBase description) => .ok description
  | .error ex => .error ex

/-! ## §2. The server object. -/

/-- `SapServerQuery`: both fields are `null` until start-up sets them. -/
structure SapServerQuery where
  m_destconfig : Option DestConfig
  m_rfcdestination : Option RfcDestination

/-- `new SapServerQuery()`. -/
def SapServerQuery.new : SapServerQuery := { m_destconfig := none, m_rfcdestination := none }

/-- The name of the destination, `destName`. -/
def destName : Text := text "Flash"

/-- `setDestConfig`. -/
def SapServerQuery.setDestConfig (srv : SapServerQuery) (conf : DestConfig) : SapServerQuery :=
  { srv with m_destconfig := some conf }

/-- `setRfcDestination`. -/
def SapServerQuery.setRfcDestination (srv : SapServerQuery) (destination : RfcDestination) :
    SapServerQuery :=
  { srv with m_rfcdestination := some destination }

/-- `String.PadLeft`. -/
def padLeft (s : Text) (totalWidth : Nat) (paddingChar : UInt16) : Text :=
  s.leftpad totalWidth paddingChar

/-- `pingSapDest`. -/
def SapServerQuery.pingSapDest (srv : SapServerQuery) : Except CSharpException Text := do
  let conf ← deref srv.m_destconfig
  conf.pingDestination destName

/-! ## §3. The hand-written queries. -/

/-- The statements of `getMatNrFromPa`, which the console client repeats
    word for word: material number, total and fail quantity of an order. -/
def readOrderRecord (destination : RfcDestination) (strAufNr : Text) :
    Except CSharpException Text := do
  let rfcFunktion ← destination.newFunction (text "RFC_READ_TABLE")
  let rfcFunktion := rfcFunktion.setValue .queryTable (text "AFKO")
  let rfcFunktion := rfcFunktion.setValue .delimiter (text "~")
  let rfcFunktion := rfcFunktion.onTable .fields fun tableField =>
    tableField.append.setValue .fieldName (text "STLBEZ")
  let rfcFunktion := rfcFunktion.onTable .fields fun tableField =>
    tableField.append.setValue .fieldName (text "GAMNG")
  let rfcFunktion := rfcFunktion.onTable .fields fun tableField =>
    tableField.append.setValue .fieldName (text "GASMG")
  let rfcFunktion := rfcFunktion.onTable .options IRfcTable.append
  -- `PadLeft` behind a guard it does not need
  let strAufNr := if strAufNr.length < 12 then padLeft strAufNr 12 zero else strAufNr
  let strAufNr := text "AUFNR = '" ++ (strAufNr ++ text "'")
  let rfcFunktion := rfcFunktion.onTable .options fun tableOptions =>
    tableOptions.setValue .text strAufNr
  let rfcFunktion ← rfcFunktion.invoke destination
  return rowLoop (rfcFunktion.getTable .data)

/-- `getMatNrFromPa`. -/
def SapServerQuery.getMatNrFromPa (srv : SapServerQuery) (strAufNr : Text) :
    Except CSharpException Text := do
  let destination ← deref srv.m_rfcdestination
  readOrderRecord destination strAufNr

/-- `getMatKurzText`: the German short text of a material, whose number is
    taken as it is. -/
def SapServerQuery.getMatKurzText (srv : SapServerQuery) (strMatNr : Text) :
    Except CSharpException Text := do
  let destination ← deref srv.m_rfcdestination
  let rfcFunktion ← destination.newFunction (text "RFC_READ_TABLE")
  let rfcFunktion := rfcFunktion.setValue .queryTable (text "MAKT")
  let rfcFunktion := rfcFunktion.setValue .delimiter (text "~")
  let rfcFunktion := rfcFunktion.onTable .fields fun tableField =>
    tableField.append.setValue .fieldName (text "MAKTX")
  let rfcFunktion := rfcFunktion.onTable .options IRfcTable.append
  -- no padding here: the caller has done it
  let strMatNrToSap :=
    text "MATNR = " ++ (text "'" ++ (strMatNr ++ (text "'" ++ text " and SPRAS = 'D'")))
  let rfcFunktion := rfcFunktion.onTable .options fun tableOptions =>
    tableOptions.setValue .text strMatNrToSap
  let rfcFunktion ← rfcFunktion.invoke destination
  return rowLoop (rfcFunktion.getTable .data)

/-- `getOrderTypeNr`: the material number of an order. -/
def SapServerQuery.getOrderTypeNr (srv : SapServerQuery) (qtSapOrderNr : Text) :
    Except CSharpException Text := do
  let destination ← deref srv.m_rfcdestination
  let rfcFunktion ← destination.newFunction (text "RFC_READ_TABLE")
  let rfcFunktion := rfcFunktion.setValue .queryTable (text "AFKO")
  let rfcFunktion := rfcFunktion.setValue .delimiter (text "~")
  let rfcFunktion := rfcFunktion.onTable .fields fun tableField =>
    tableField.append.setValue .fieldName (text "STLBEZ")
  let rfcFunktion := rfcFunktion.onTable .options IRfcTable.append
  let qtSapOrderNr :=
    if qtSapOrderNr.length < 12 then padLeft qtSapOrderNr 12 zero else qtSapOrderNr
  let qtSapOrderNr := text "AUFNR = '" ++ (qtSapOrderNr ++ text "'")
  let rfcFunktion := rfcFunktion.onTable .options fun tableOptions =>
    tableOptions.setValue .text qtSapOrderNr
  let rfcFunktion ← rfcFunktion.invoke destination
  return rowLoop (rfcFunktion.getTable .data)

/-! ## §4. The generic table read and its users. -/

/-- A loop that appends one row per text and sets one column of it. -/
def appendAll (column : Column) (values : List Text) (table : IRfcTable) : IRfcTable :=
  values.foldl (fun table value => table.append.setValue column value) table

/-- `getValueFromTable`: any table, columns, delimiter and conditions. -/
def SapServerQuery.getValueFromTable (srv : SapServerQuery) (qtTable : Text)
    (qtColumn : List Text) (qtDelimiter : Text) (qtWhere : List Text) :
    Except CSharpException Text := do
  let destination ← deref srv.m_rfcdestination
  let rfcFunktion ← destination.newFunction (text "RFC_READ_TABLE")
  let rfcFunktion := rfcFunktion.setValue .queryTable qtTable
  let rfcFunktion := rfcFunktion.setValue .delimiter qtDelimiter
  let rfcFunktion := rfcFunktion.onTable .fields (appendAll .fieldName qtColumn)
  let rfcFunktion := rfcFunktion.onTable .options (appendAll .text qtWhere)
  let rfcFunktion ← rfcFunktion.invoke destination
  return rowLoop (rfcFunktion.getTable .data)

/-- The body that `getOrderQty`, `getOrderFailQty` and `getOrderType` share:
    one column of one table, by order number. -/
def SapServerQuery.orderColumn (srv : SapServerQuery) (table column : String)
    (qtSapOrderNr : Text) : Except CSharpException Text :=
  let qtSapOrderNr :=
    if qtSapOrderNr.length < 12 then padLeft qtSapOrderNr 12 zero else qtSapOrderNr
  let qtSapOrderNr := text "AUFNR = '" ++ (qtSapOrderNr ++ text "'")
  srv.getValueFromTable (text table) [text column] (text "~") [qtSapOrderNr]

/-- `getOrderQty`. -/
def SapServerQuery.getOrderQty (srv : SapServerQuery) (qtSapOrderNr : Text) :
    Except CSharpException Text :=
  srv.orderColumn "AFKO" "GAMNG" qtSapOrderNr

/-- `getOrderFailQty`. -/
def SapServerQuery.getOrderFailQty (srv : SapServerQuery) (qtSapOrderNr : Text) :
    Except CSharpException Text :=
  srv.orderColumn "AFKO" "GASMG" qtSapOrderNr

/-- `getOrderType`. -/
def SapServerQuery.getOrderType (srv : SapServerQuery) (qtSapOrderNr : Text) :
    Except CSharpException Text :=
  srv.orderColumn "AUFK" "AUART" qtSapOrderNr

/-! ## §5. What the queries amount to. -/

/-- The key of an order: its number in twelve places. -/
def orderKey (a : Text) : Text := a.leftpad 12 zero

/-- The condition that reads an order. -/
def orderCondition (a : Text) : Text := text "AUFNR = '" ++ (orderKey a ++ text "'")

/-- The condition that reads a German short text. -/
def matCondition (m : Text) : Text :=
  text "MATNR = '" ++ (m ++ (text "'" ++ text " and SPRAS = 'D'"))

/-- The request of a query: `~`-separated columns of a table under one
    condition line. -/
def queryRequest (table : String) (columns : List String) (condition : Text) : ReadRequest :=
  { function := text "RFC_READ_TABLE"
    queryTable := text table
    delimiter := text "~"
    fields := columns.map text
    options := [condition] }

/-- The last line of one read at the server's destination. -/
def SapServerQuery.readLast (srv : SapServerQuery) (r : ReadRequest) :
    Except CSharpException Text := do
  let destination ← deref srv.m_rfcdestination
  lastLine <$> destination.readTable r

/-- The padding branch pads: a longer text needs no padding. -/
theorem padLeft_branch (a : Text) :
    (if a.length < 12 then padLeft a 12 zero else a) = orderKey a := by
  unfold padLeft orderKey
  split
  next => rfl
  next hlen => rw [leftpad_eq_of_le (by omega)]

theorem readOrderRecord_eq (dest : RfcDestination) (a : Text) :
    readOrderRecord dest a = lastLine <$> dest.readTable
      (queryRequest "AFKO" ["STLBEZ", "GAMNG", "GASMG"] (orderCondition a)) := by
  unfold readOrderRecord
  rw [padLeft_branch]
  exact newFunction_invoke_rowLoop dest _ _ _ rfl rfl

theorem getMatNrFromPa_eq (srv : SapServerQuery) (a : Text) :
    srv.getMatNrFromPa a
      = srv.readLast (queryRequest "AFKO" ["STLBEZ", "GAMNG", "GASMG"] (orderCondition a)) := by
  unfold SapServerQuery.getMatNrFromPa SapServerQuery.readLast
  cases srv.m_rfcdestination with
  | none => rfl
  | some dest => exact readOrderRecord_eq dest a

theorem getMatKurzText_eq (srv : SapServerQuery) (m : Text) :
    srv.getMatKurzText m = srv.readLast (queryRequest "MAKT" ["MAKTX"] (matCondition m)) := by
  unfold SapServerQuery.getMatKurzText SapServerQuery.readLast
  cases srv.m_rfcdestination with
  | none => rfl
  | some dest => exact newFunction_invoke_rowLoop dest _ _ _ rfl rfl

theorem getOrderTypeNr_eq (srv : SapServerQuery) (a : Text) :
    srv.getOrderTypeNr a
      = srv.readLast (queryRequest "AFKO" ["STLBEZ"] (orderCondition a)) := by
  unfold SapServerQuery.getOrderTypeNr SapServerQuery.readLast
  rw [padLeft_branch]
  cases srv.m_rfcdestination with
  | none => rfl
  | some dest => exact newFunction_invoke_rowLoop dest _ _ _ rfl rfl

/-- The filling loop leaves the given texts in its column. -/
theorem column_appendAll (c : Column) (values : List Text) (t : IRfcTable) :
    (appendAll c values t).column c = t.column c ++ values := by
  induction values generalizing t with
  | nil => simp [appendAll]
  | cons v values ih =>
      show (appendAll c values (t.append.setValue c v)).column c = _
      rw [ih, IRfcTable.column_setValue_append, List.append_assoc]
      rfl

/-- **The generic read is its arguments.** -/
theorem getValueFromTable_eq (srv : SapServerQuery) (table : Text) (columns : List Text)
    (delimiter : Text) (conditions : List Text) :
    srv.getValueFromTable table columns delimiter conditions
      = srv.readLast { function := text "RFC_READ_TABLE", queryTable := table
                       delimiter := delimiter, fields := columns, options := conditions } := by
  unfold SapServerQuery.getValueFromTable SapServerQuery.readLast
  cases srv.m_rfcdestination with
  | none => rfl
  | some dest =>
      refine newFunction_invoke_rowLoop dest _ _ _ ?_ rfl
      -- both loops start from the empty tables of a fresh function
      have hfields := column_appendAll .fieldName columns { rows := [] }
      have hoptions := column_appendAll .text conditions { rows := [] }
      simp only [IRfcTable.column, List.map_nil, List.nil_append] at hfields hoptions
      simp [IRfcFunction.request, IRfcFunction.onTable, IRfcFunction.setValue, IRfcFunction.new,
        IRfcTable.column, hfields, hoptions]

theorem orderColumn_eq (srv : SapServerQuery) (table column : String) (a : Text) :
    srv.orderColumn table column a
      = srv.readLast (queryRequest table [column] (orderCondition a)) := by
  unfold SapServerQuery.orderColumn
  rw [padLeft_branch, getValueFromTable_eq]
  rfl

theorem getOrderQty_eq (srv : SapServerQuery) (a : Text) :
    srv.getOrderQty a = srv.readLast (queryRequest "AFKO" ["GAMNG"] (orderCondition a)) :=
  orderColumn_eq srv "AFKO" "GAMNG" a

theorem getOrderFailQty_eq (srv : SapServerQuery) (a : Text) :
    srv.getOrderFailQty a = srv.readLast (queryRequest "AFKO" ["GASMG"] (orderCondition a)) :=
  orderColumn_eq srv "AFKO" "GASMG" a

theorem getOrderType_eq (srv : SapServerQuery) (a : Text) :
    srv.getOrderType a = srv.readLast (queryRequest "AUFK" ["AUART"] (orderCondition a)) :=
  orderColumn_eq srv "AUFK" "AUART" a

/-! ## §6. Ping. -/

/-- The exceptions `PingDestination` turns into texts. -/
def CSharpException.caughtByPing : CSharpException → Bool
  | .rfcInvalidParameter _ _ => true
  | .rfcBase _ => true
  | _ => false

/-- Reaching the destination and pinging it. -/
def RfcDestinationManager.ping (manager : RfcDestinationManager) (name : Text) :
    Except CSharpException Unit := do
  let dest ← manager.getDestination name
  dest.ping

/-- **Ping answers with a text unless an exception escapes**: a success and a
    caught failure look alike. -/
theorem pingDestination_eq_ok_iff (conf : DestConfig) (a : Text) :
    (∃ s, conf.pingDestination a = .ok s)
      ↔ ∀ e, conf.manager.ping a = .error e → e.caughtByPing = true := by
  show (∃ s, (match conf.manager.ping a with
    | .ok () => Except.ok (text "Ping successful")
    | .error (.rfcInvalidParameter typeName message) => .ok (typeName ++ text " " ++ message)
    | .error (.rfcBase description) => .ok description
    | .error ex => .error ex) = .ok s) ↔ _
  cases conf.manager.ping a with
  | ok _ => simp
  | error e => cases e <;> simp [CSharpException.caughtByPing]

end SapDbLib
