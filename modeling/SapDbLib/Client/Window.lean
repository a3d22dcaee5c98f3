/-
  SapDbLib.Client.Window — THE COMPARISON WINDOW.

  `SAPDBLibTest`: five buttons, each asking the SAP client and four of them
  the Flash databases, and the widgets they write.  The Flash databases are
  not part of the repository; a `FlashDb` holds their answers at the time of
  a click.

  The handlers take the SAP side as a `SapDb`, one function per query, so
  that they can be studied for any answers; `SAPDBLib.api` is the SAP side
  they have in the program.

    * `handler_eq` — a handler is its query and what it shows of the answers;
    * `handler_answers` — what it sets, and what it returns;
    * `Window.click_ok`, `Window.click_fault` — **a click is one call on the
      client object** (`Click.libCall`) and what the handler shows of it;
    * `Window.construct_ok` — the window a constructor builds.
-/
import SapDbLib.Client.SapDbLib

namespace SapDbLib

open Library

/-! ## §1. Widgets. -/

/-- A background colour `rgb(r, g, b)`. -/
structure Rgb where
  r : Nat
  g : Nat
  b : Nat
  deriving DecidableEq, Repr

/-- The colours of the style sheets. -/
def Rgb.red : Rgb := ⟨255, 11, 23⟩
def Rgb.grey : Rgb := ⟨245, 245, 245⟩
def Rgb.white : Rgb := ⟨255, 255, 255⟩
def Rgb.warning : Rgb := ⟨255, 161, 163⟩

/-- The widgets of the window: input texts, result texts, backgrounds. -/
structure Ui where
  leSapNr : Text
  leAuftragsNr : Text
  tbGesAufMenge : Text
  tbGesAufMengeFlash : Text
  tbMaterialkurztext : Text
  tbMaterialkurztextFlash : Text
  tbMaterialNr : Text
  tbMaterialNrFlash : Text
  tbOrderType : Text
  tbStatus : Text
  tbStatusBackground : Rgb
  tbMaterialNrBackground : Rgb
  tbMaterialNrFlashBackground : Rgb
  gbGetMKT : Rgb
  gbQtyPass : Rgb
  gbSapFromPa : Rgb
  deriving DecidableEq, Repr

/-- `setupUi`; the group boxes show the background of the box around them. -/
def Ui.setup : Ui :=
  { leSapNr := text "604424"
    leAuftragsNr := text "60091935"
    tbGesAufMenge := []
    tbGesAufMengeFlash := []
    tbMaterialkurztext := []
    tbMaterialkurztextFlash := []
    tbMaterialNr := []
    tbMaterialNrFlash := []
    tbOrderType := []
    tbStatus := []
    tbStatusBackground := .white
    tbMaterialNrBackground := .white
    tbMaterialNrFlashBackground := .white
    gbGetMKT := .grey
    gbQtyPass := .grey
    gbSapFromPa := .grey }

/-- `resetGui`. -/
def Ui.resetGui (ui : Ui) : Ui :=
  { ui with
    tbGesAufMenge := []
    tbGesAufMengeFlash := []
    tbMaterialkurztext := []
    tbMaterialkurztextFlash := []
    tbMaterialNr := []
    tbMaterialNrFlash := []
    tbOrderType := []
    tbStatus := []
    gbGetMKT := .grey
    gbQtyPass := .grey
    gbSapFromPa := .grey }

/-! ## §2. The two databases. -/

/-- The queries of the SAP client that the window uses; each takes the key
    and the present value of its out parameter. -/
structure SapDb where
  ping : Except Fault Answer
  getMKT : Text → Text → Except Fault Answer
  getOrderTypeNr : Text → Text → Except Fault Answer
  getOrderQty : Text → Text → Except Fault Answer
  getOrderType : Text → Text → Except Fault Answer

/-- The client object as the window uses it. -/
def SAPDBLib.api (lib : SAPDBLib) (bus : Bus) : SapDb :=
  { ping := lib.ping bus
    getMKT := lib.getMKT bus
    getOrderTypeNr := lib.getOrderTypeNr bus
    getOrderQty := lib.getOrderQty bus
    getOrderType := lib.getOrderType bus }

/-- The Flash databases: a value when the query returns true. -/
structure FlashDb where
  getMKT : Text → Option Text
  getTypeByOrderNr : Text → Option Text
  /-- Order number and step to pass, fail and warning counts. -/
  getCurrentPassFailWarning : Int → Int → Option (Int × Int × Int)

/-! ## §3. The handlers. -/

/-- What a click did: the widgets, the handler's return value, and the answer
    of the client call it made. -/
structure Clicked where
  ui : Ui
  returned : Bool
  answer : Answer

/-- `QString(n)` of an `int` `n`: the one-unit text of `QChar(n)`. -/
def qstringOfInt (n : Int) : Text := [UInt16.ofInt n]

/-- `PingTest`. -/
def pingTest (ui : Ui) (sap : SapDb) : Except Fault Clicked := do
  let ui := ui.resetGui
  let a ← sap.ping
  if a.returned then
    return { ui := { ui with tbStatus := text "ping erfolgreich" }, returned := true, answer := a }
  else
    return { ui := { ui with tbStatus := text "ping NICHT erfolgreich" }
             returned := false, answer := a }

/-- `getMKTTest`. -/
def getMKTTest (ui : Ui) (sap : SapDb) (flash : FlashDb) : Except Fault Clicked := do
  let ui := ui.resetGui
  let saptypnr := ui.leSapNr
  let a ← sap.getMKT saptypnr []
  if a.returned then
    let mktSap := a.out
    let ui := { ui with tbMaterialkurztext := mktSap }
    match flash.getMKT saptypnr with
    | some mktProd =>
        let ui := { ui with tbMaterialkurztextFlash := mktProd }
        let ui := if !(mktSap == mktProd) then { ui with gbGetMKT := .red } else ui
        return { ui := ui, returned := true, answer := a }
    | none =>
        let ui := { ui with tbMaterialkurztextFlash := text "kein Eintrag in FlashDB" }
        return { ui := { ui with gbGetMKT := .red }, returned := false, answer := a }
  else
    let ui := { ui with tbMaterialkurztext := text "kein Eintrag in SAP" }
    return { ui := { ui with gbGetMKT := .red }, returned := false, answer := a }

/-- `getOrderTypeNrTest`: SAP's number goes through an `int` and back. -/
def getOrderTypeNrTest (ui : Ui) (sap : SapDb) (flash : FlashDb) : Except Fault Clicked := do
  let ui := ui.resetGui
  let ui := { ui with tbMaterialNrBackground := .white, tbMaterialNrFlashBackground := .white }
  let orderNr := ui.leAuftragsNr
  let a ← sap.getOrderTypeNr orderNr []
  if a.returned then
    let temp := (toInt a.out).1
    let SapFromSap := number temp
    let ui := { ui with tbMaterialNr := SapFromSap }
    match flash.getTypeByOrderNr orderNr with
    | some SapFromProd =>
        let ui := { ui with tbMaterialNrFlash := SapFromProd }
        let ui := if !(SapFromSap == SapFromProd) then { ui with gbSapFromPa := .red } else ui
        return { ui := ui, returned := true, answer := a }
    | none =>
        let ui := { ui with gbSapFromPa := .red }
        return { ui := { ui with tbMaterialNrFlash := text "kein Eintrag in SAP" }
                 returned := false, answer := a }
  else
    let ui := { ui with gbSapFromPa := .red }
    return { ui := { ui with tbMaterialNr := text "kein Eintrag in FlashDB" }
             returned := false, answer := a }

/-- `getOrderQty`: SAP's text is compared with `QString` of Flash's number;
    a missing entry is only logged. -/
def getOrderQty (ui : Ui) (sap : SapDb) (flash : FlashDb) : Except Fault Clicked := do
  let ui := ui.resetGui
  let orderNr := ui.leAuftragsNr
  let a ← sap.getOrderQty orderNr []
  if a.returned then
    let QtyFromSap := a.out
    let ui := { ui with tbGesAufMenge := QtyFromSap }
    match flash.getCurrentPassFailWarning (toInt orderNr).1 10 with
    | some (QtyFromProd, _fail, _warn) =>
        let ui :=
          if !(QtyFromSap == qstringOfInt QtyFromProd) then { ui with gbQtyPass := .red } else ui
        return { ui := { ui with tbGesAufMengeFlash := number QtyFromProd }
                 returned := true, answer := a }
    -- a missing entry leaves the box as `resetGui` made it
    | none => return { ui := ui, returned := false, answer := a }
  else return { ui := ui, returned := false, answer := a }

/-- `getOrderType`: it returns false in every case. -/
def getOrderType (ui : Ui) (sap : SapDb) : Except Fault Clicked := do
  let ui := ui.resetGui
  let orderNr := ui.leAuftragsNr
  let a ← sap.getOrderType orderNr []
  if a.returned then
    return { ui := { ui with tbOrderType := a.out }, returned := false, answer := a }
  else return { ui := ui, returned := false, answer := a }

/-! ## §4. The window. -/

/-- The window with its client object. -/
structure Window where
  ui : Ui
  m_sapDB : SAPDBLib

/-- The bus address and connection name of the window. -/
def windowAddress : Text := text "tcp:host=aaa.bbb.ccc.189,port=12345"

def windowBusName : Text := text "my.qtconnect.DBus"

/-- `isDBusConnected`: `QDBusConnection(name)` is the connection established
    under that name, if there is one. -/
def SAPDBLib.isDBusConnected (lib : SAPDBLib) (established : Text → Bool) (bus : Bus) : Bool :=
  established lib.m_busName && bus.alive lib.m_busName

/-- The constructor: connect, then ping if the interface is there. -/
def Window.construct (bus : Bus) : Except Fault Window := do
  let ui := Ui.setup
  let m_sapDB := SAPDBLib.connect bus windowAddress windowBusName
  let established := fun name => name == windowBusName && bus.reach windowAddress windowBusName
  if m_sapDB.isDBusConnected established bus then
    let connected ← m_sapDB.isConnected bus
    if connected.returned then
      let _ ← m_sapDB.ping bus
      return { ui := ui, m_sapDB := m_sapDB }
    else
      let ui := { ui with tbStatusBackground := .warning }
      return { ui := { ui with tbStatus := text "DBus Interface is not available" }
               m_sapDB := m_sapDB }
  else
    let ui := { ui with tbStatusBackground := .warning }
    return { ui := { ui with tbStatus := text "DBus is not available" }, m_sapDB := m_sapDB }

/-- The buttons. -/
inductive Button where
  | pbPing
  | pbReadMatKurzText
  | pbSapFromPa
  | pbOrderType
  | pbQtyPass
  deriving DecidableEq, Repr

/-- A click, with the input texts and both databases as they are then. -/
structure Click where
  button : Button
  leSapNr : Text
  leAuftragsNr : Text
  bus : Bus
  flash : FlashDb

/-- The handler connected to a button. -/
def Button.handler (button : Button) (ui : Ui) (sap : SapDb) (flash : FlashDb) :
    Except Fault Clicked :=
  match button with
  | .pbPing => pingTest ui sap
  | .pbReadMatKurzText => getMKTTest ui sap flash
  | .pbSapFromPa => getOrderTypeNrTest ui sap flash
  | .pbOrderType => getOrderType ui sap
  | .pbQtyPass => getOrderQty ui sap flash

/-- A click on the window. -/
def Window.click (w : Window) (c : Click) : Except Fault (Clicked × Window) := do
  let ui := { w.ui with leSapNr := c.leSapNr, leAuftragsNr := c.leAuftragsNr }
  let r ← c.button.handler ui (w.m_sapDB.api c.bus) c.flash
  return (r, { w with ui := r.ui })

/-! ## §5. A click is one call on the client object. -/

/-- The call a click makes. -/
def Click.libCall (c : Click) : LibCall :=
  match c.button with
  | .pbPing => .ping
  | .pbReadMatKurzText => .query .getMKT c.leSapNr []
  | .pbSapFromPa => .query .getOrderTypeNr c.leAuftragsNr []
  | .pbOrderType => .query .getOrderType c.leAuftragsNr []
  | .pbQtyPass => .query .getOrderQty c.leAuftragsNr []

/-- The SAP query behind a button. -/
def Button.sapQuery (button : Button) (sap : SapDb) (leSapNr leAuftragsNr : Text) :
    Except Fault Answer :=
  match button with
  | .pbPing => sap.ping
  | .pbReadMatKurzText => sap.getMKT leSapNr []
  | .pbSapFromPa => sap.getOrderTypeNr leAuftragsNr []
  | .pbOrderType => sap.getOrderType leAuftragsNr []
  | .pbQtyPass => sap.getOrderQty leAuftragsNr []

/-- What both databases say to a click. -/
structure Answers where
  sap : Answer
  getMKT : Option Text
  getTypeByOrderNr : Option Text
  getCurrentPassFailWarning : Option (Int × Int × Int)

/-- A SAP side that says it to every query. -/
def Answers.sapDb (s : Answers) : SapDb :=
  { ping := .ok s.sap
    getMKT := fun _ _ => .ok s.sap
    getOrderTypeNr := fun _ _ => .ok s.sap
    getOrderQty := fun _ _ => .ok s.sap
    getOrderType := fun _ _ => .ok s.sap }

/-- Flash databases that say it to every query. -/
def Answers.flashDb (s : Answers) : FlashDb :=
  { getMKT := fun _ => s.getMKT
    getTypeByOrderNr := fun _ => s.getTypeByOrderNr
    getCurrentPassFailWarning := fun _ _ => s.getCurrentPassFailWarning }

/-- What the Flash databases say, beside an answer of SAP. -/
def FlashDb.answers (flash : FlashDb) (leSapNr leAuftragsNr : Text) (a : Answer) : Answers :=
  { sap := a
    getMKT := flash.getMKT leSapNr
    getTypeByOrderNr := flash.getTypeByOrderNr leAuftragsNr
    getCurrentPassFailWarning := flash.getCurrentPassFailWarning (toInt leAuftragsNr).1 10 }

/-- **A handler is its query and what it shows of the answers.** -/
theorem handler_eq (button : Button) (ui : Ui) (sap : SapDb) (flash : FlashDb) :
    button.handler ui sap flash
      = (button.sapQuery sap ui.leSapNr ui.leAuftragsNr) >>= fun a =>
          let s := flash.answers ui.leSapNr ui.leAuftragsNr a
          button.handler ui s.sapDb s.flashDb := by
  cases button <;> rfl

/-- A handler begins by resetting. -/
theorem handler_resetGui (button : Button) (ui : Ui) (sap : SapDb) (flash : FlashDb) :
    button.handler ui.resetGui sap flash = button.handler ui sap flash := by
  cases button <;> rfl

/-- The material number fields are white, as `setupUi` made them. -/
def Ui.WhiteNumbers (ui : Ui) : Prop :=
  ui.tbMaterialNrBackground = .white ∧ ui.tbMaterialNrFlashBackground = .white

/-- Making them white changes nothing then. -/
theorem Ui.WhiteNumbers.resetGui_white {ui : Ui} (h : ui.WhiteNumbers) :
    { ui.resetGui with tbMaterialNrBackground := .white, tbMaterialNrFlashBackground := .white }
      = ui.resetGui := by
  unfold Ui.resetGui
  rw [h.1, h.2]

/-- What a handler makes of the answers: it returns true only on a true
    answer of SAP, and sets nothing that `resetGui` leaves alone. -/
structure Clicked.Of (r : Clicked) (ui : Ui) (s : Answers) : Prop where
  answer : r.answer = s.sap
  returned : s.sap.returned = false → r.returned = false
  frame : ui.WhiteNumbers → r.ui.WhiteNumbers ∧ r.ui.resetGui = ui.resetGui

theorem handler_answers (button : Button) (ui : Ui) (s : Answers) :
    ∃ r, button.handler ui s.sapDb s.flashDb = .ok r ∧ r.Of ui s := by
  obtain ⟨⟨returned, out, issued⟩, mkt, typeNr, counts⟩ := s
  have hno : ∀ b : Bool, true = false → b = false := fun _ h => Bool.noConfusion h
  cases returned with
  | false =>
      -- Flash is not asked
      cases button
      case pbSapFromPa =>
        exact ⟨_, rfl, rfl, fun _ => rfl, fun hwhite => ⟨⟨rfl, rfl⟩, hwhite.resetGui_white⟩⟩
      all_goals exact ⟨_, rfl, rfl, fun _ => rfl, fun hwhite => ⟨hwhite, rfl⟩⟩
  | true =>
      cases button with
      | pbPing | pbOrderType => exact ⟨_, rfl, rfl, hno _, fun hwhite => ⟨hwhite, rfl⟩⟩
      | pbReadMatKurzText =>
          cases mkt with
          | none => exact ⟨_, rfl, rfl, hno _, fun hwhite => ⟨hwhite, rfl⟩⟩
          | some mktProd =>
              refine ⟨_, rfl, rfl, hno _, fun hwhite => ?_⟩
              -- red, or as `resetGui` made it
              dsimp only
              split <;> exact ⟨hwhite, rfl⟩
      | pbSapFromPa =>
          cases typeNr with
          | none => exact ⟨_, rfl, rfl, hno _, fun hwhite => ⟨⟨rfl, rfl⟩, hwhite.resetGui_white⟩⟩
          | some SapFromProd =>
              refine ⟨_, rfl, rfl, hno _, fun hwhite => ?_⟩
              dsimp only
              split <;> exact ⟨⟨rfl, rfl⟩, hwhite.resetGui_white⟩
      | pbQtyPass =>
          cases counts with
          | none => exact ⟨_, rfl, rfl, hno _, fun hwhite => ⟨hwhite, rfl⟩⟩
          | some counts =>
              refine ⟨_, rfl, rfl, hno _, fun hwhite => ?_⟩
              dsimp only
              split <;> exact ⟨hwhite, rfl⟩

/-- A handler answers when its query does. -/
theorem handler_ok (button : Button) (ui : Ui) {sap : SapDb} (flash : FlashDb) {a : Answer}
    (h : button.sapQuery sap ui.leSapNr ui.leAuftragsNr = .ok a) :
    ∃ r, button.handler ui sap flash = .ok r
      ∧ r.Of ui (flash.answers ui.leSapNr ui.leAuftragsNr a) := by
  rw [handler_eq, h]
  exact handler_answers button ui _

/-- A handler faults when its query does. -/
theorem handler_fault (button : Button) (ui : Ui) {sap : SapDb} (flash : FlashDb) {f : Fault}
    (h : button.sapQuery sap ui.leSapNr ui.leAuftragsNr = .error f) :
    button.handler ui sap flash = .error f := by
  rw [handler_eq, h]
  rfl

/-- The query behind a button is a call on the client object. -/
theorem sapQuery_api (c : Click) (lib : SAPDBLib) :
    lib.step (c.libCall, c.bus)
      = (c.button.sapQuery (lib.api c.bus) c.leSapNr c.leAuftragsNr).map (·, lib) := by
  unfold Click.libCall
  cases c.button <;> rfl

/-- **An answered call is an answered click.** -/
theorem Window.click_ok {w : Window} {c : Click} {a : Answer}
    (h : w.m_sapDB.step (c.libCall, c.bus) = .ok (a, w.m_sapDB)) :
    ∃ r ui, w.click c = .ok (r, { w with ui := ui }) ∧ r.answer = a
      ∧ (a.returned = false → r.returned = false) := by
  rw [sapQuery_api] at h
  cases hq : c.button.sapQuery (w.m_sapDB.api c.bus) c.leSapNr c.leAuftragsNr with
  | error f => rw [hq] at h; cases h
  | ok a' =>
      rw [hq] at h
      cases h
      obtain ⟨r, hr, hof⟩ := handler_ok c.button
        { w.ui with leSapNr := c.leSapNr, leAuftragsNr := c.leAuftragsNr } c.flash hq
      refine ⟨r, r.ui, ?_, hof.answer, hof.returned⟩
      simp only [Window.click, hr]
      rfl

/-- **A faulting call is a faulting click.** -/
theorem Window.click_fault {w : Window} {c : Click} {f : Fault}
    (h : w.m_sapDB.step (c.libCall, c.bus) = .error f) : w.click c = .error f := by
  rw [sapQuery_api] at h
  cases hq : c.button.sapQuery (w.m_sapDB.api c.bus) c.leSapNr c.leAuftragsNr with
  | ok a => rw [hq] at h; cases h
  | error f' =>
      rw [hq] at h
      cases h
      simp only [Window.click, handler_fault c.button
        { w.ui with leSapNr := c.leSapNr, leAuftragsNr := c.leAuftragsNr } c.flash hq]
      rfl

/-! ## §6. The constructor. -/

/-- The service interface is available to the window. -/
def Bus.Available (bus : Bus) : Prop :=
  bus.alive windowBusName = true ∧ bus.isValid (remoteInterface windowBusName) = true

/-- A client that reached its bus has its pointer assigned. -/
theorem SAPDBLib.connect_of_reach {bus : Bus} {address name : Text}
    (h : bus.reach address name = true) :
    (SAPDBLib.connect bus address name).m_remoteApp = some (remoteInterface name) := by
  unfold SAPDBLib.connect
  rw [if_pos h]

theorem SAPDBLib.connect_busName (bus : Bus) (address name : Text) :
    (SAPDBLib.connect bus address name).m_busName = name := by
  unfold SAPDBLib.connect
  split <;> rfl

/-- **The window's constructor never faults**: it asks for the interface only
    over an established connection.  It sets one background, that of the
    status field, when the interface is not there. -/
theorem Window.construct_ok (bus : Bus) :
    ∃ w, Window.construct bus = .ok w
      ∧ w.m_sapDB = SAPDBLib.connect bus windowAddress windowBusName
      ∧ w.ui.WhiteNumbers
      ∧ (w.ui.tbStatusBackground = .white
        ↔ bus.reach windowAddress windowBusName = true ∧ bus.Available) := by
  have hwarning : ¬ Rgb.warning = Rgb.white := by decide
  unfold Window.construct SAPDBLib.isDBusConnected Bus.Available
  simp only [SAPDBLib.connect_busName, beq_self_eq_true, Bool.true_and]
  -- a connection is established under the window's name exactly if the bus was reached
  by_cases hconn : (bus.reach windowAddress windowBusName && bus.alive windowBusName) = true
  · rw [if_pos hconn]
    obtain ⟨hreach, halive⟩ := Bool.and_eq_true_iff.mp hconn
    have hremote := SAPDBLib.connect_of_reach hreach
    obtain ⟨a, hping, -⟩ :=
      callQuery_ok hremote bus { member := text "pingSapDest", arguments := [] } []
    simp only [SAPDBLib.isConnected, SAPDBLib.ping, hremote, hping, hreach, halive, true_and]
    cases bus.isValid (remoteInterface windowBusName) with
    | false => exact ⟨_, rfl, rfl, ⟨rfl, rfl⟩, by simp [hwarning]⟩
    | true => exact ⟨_, rfl, rfl, ⟨rfl, rfl⟩, by simp [Ui.setup]⟩
  · rw [if_neg hconn]
    refine ⟨_, rfl, rfl, ⟨rfl, rfl⟩, fun h => absurd h hwarning, ?_⟩
    intro h
    exact absurd (Bool.and_eq_true_iff.mpr ⟨h.1, h.2.1⟩) hconn

end SapDbLib
