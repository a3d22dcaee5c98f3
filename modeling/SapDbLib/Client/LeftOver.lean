/-
  SapDbLib.Client.LeftOver — WHAT A CLICK LEAVES OF EARLIER ONES.

  Every handler begins with `resetGui`, so that a result stands in a window
  without the results before it.  `resetGui` clears the text of the status
  field and not its background, and the constructor may have set that.

    * `Window.Plain` — between two clicks, all that a click can find is the
      background of the status field;
    * `Window.Plain.click` — a click keeps it, and shows nothing else that is
      older than the click;
    * `nothing_left_over_iff` — **when a window shows nothing left over**:
      exactly if the interface was available when it was built, or nobody
      clicks.
-/
import SapDbLib.Client.Connection

namespace SapDbLib

open Library

/-! ## §1. What is seen of a window. -/

/-- The result texts, the status field and the group boxes. -/
structure Shown where
  tbGesAufMenge : Text
  tbGesAufMengeFlash : Text
  tbMaterialkurztext : Text
  tbMaterialkurztextFlash : Text
  tbMaterialNr : Text
  tbMaterialNrFlash : Text
  tbOrderType : Text
  tbStatus : Text
  tbStatusBackground : Rgb
  gbGetMKT : Rgb
  gbQtyPass : Rgb
  gbSapFromPa : Rgb
  deriving DecidableEq, Repr

/-- What a window shows. -/
def Ui.shown (ui : Ui) : Shown :=
  { tbGesAufMenge := ui.tbGesAufMenge
    tbGesAufMengeFlash := ui.tbGesAufMengeFlash
    tbMaterialkurztext := ui.tbMaterialkurztext
    tbMaterialkurztextFlash := ui.tbMaterialkurztextFlash
    tbMaterialNr := ui.tbMaterialNr
    tbMaterialNrFlash := ui.tbMaterialNrFlash
    tbOrderType := ui.tbOrderType
    tbStatus := ui.tbStatus
    tbStatusBackground := ui.tbStatusBackground
    gbGetMKT := ui.gbGetMKT
    gbQtyPass := ui.gbQtyPass
    gbSapFromPa := ui.gbSapFromPa }

/-! ## §2. A click by its answers. -/

/-- A client object of the window that reached its bus. -/
def windowClient : SAPDBLib :=
  { m_remoteApp := some (remoteInterface windowBusName)
    m_busName := windowBusName
    m_lastError := none }

/-- What both databases say to a click. -/
def Click.answers (c : Click) : Except Fault Answers :=
  (c.button.sapQuery (windowClient.api c.bus) c.leSapNr c.leAuftragsNr).map
    (c.flash.answers c.leSapNr c.leAuftragsNr)

/-- The same click: button, input texts and answers. -/
structure Click.SameAs (c c' : Click) : Prop where
  button : c'.button = c.button
  leSapNr : c'.leSapNr = c.leSapNr
  leAuftragsNr : c'.leAuftragsNr = c.leAuftragsNr
  answers : c'.answers = c.answers

/-- The widgets of a reset window with the given input texts. -/
def Ui.plain (leSapNr leAuftragsNr : Text) (background : Rgb) : Ui :=
  { Ui.setup with
    leSapNr := leSapNr, leAuftragsNr := leAuftragsNr, tbStatusBackground := background }

/-- What a click makes of its answers in such a window. -/
def Click.display (c : Click) (background : Rgb) : Except Fault Clicked :=
  c.answers >>= fun s =>
    c.button.handler (Ui.plain c.leSapNr c.leAuftragsNr background) s.sapDb s.flashDb

theorem Click.SameAs.display_eq {c c' : Click} (h : c.SameAs c') (background : Rgb) :
    c'.display background = c.display background := by
  unfold Click.display
  rw [h.answers, h.button, h.leSapNr, h.leAuftragsNr]

/-- The queries use nothing of a client object but its pointer. -/
theorem SAPDBLib.api_eq (lib lib' : SAPDBLib) (h : lib.m_remoteApp = lib'.m_remoteApp) :
    lib.api = lib'.api := by
  obtain ⟨remote, name, error⟩ := lib
  obtain ⟨remote', name', error'⟩ := lib'
  have hremote : remote = remote' := h
  subst hremote
  rfl

theorem Click.display_eq_handler (c : Click) (background : Rgb) :
    c.display background
      = c.button.handler (Ui.plain c.leSapNr c.leAuftragsNr background)
          (windowClient.api c.bus) c.flash := by
  rw [handler_eq]
  unfold Click.display Click.answers
  show _ = c.button.sapQuery (windowClient.api c.bus) c.leSapNr c.leAuftragsNr >>= _
  cases c.button.sapQuery (windowClient.api c.bus) c.leSapNr c.leAuftragsNr <;> rfl

/-- **A connected client shows something at every click**, and leaves the
    background of the status field as it was. -/
theorem Click.display_ok (c : Click) (background : Rgb) :
    ∃ r, c.display background = .ok r ∧ r.ui.WhiteNumbers
      ∧ r.ui.tbStatusBackground = background := by
  obtain ⟨a, hstep, -⟩ := step_ok (show windowClient.m_remoteApp.isSome from rfl) (c.libCall, c.bus)
  rw [sapQuery_api] at hstep
  cases hq : c.button.sapQuery (windowClient.api c.bus) c.leSapNr c.leAuftragsNr with
  | error f => rw [hq] at hstep; cases hstep
  | ok answer =>
      obtain ⟨r, hr, hof⟩ :=
        handler_ok c.button (Ui.plain c.leSapNr c.leAuftragsNr background) c.flash hq
      obtain ⟨hwhite, hreset⟩ := hof.frame ⟨rfl, rfl⟩
      rw [c.display_eq_handler]
      exact ⟨r, hr, hwhite, congrArg Ui.tbStatusBackground hreset⟩

theorem Click.tbStatusBackground_display {c : Click} {background : Rgb} {r : Clicked}
    (h : c.display background = .ok r) : r.ui.tbStatusBackground = background := by
  obtain ⟨r', hr', -, hstatus⟩ := c.display_ok background
  rw [h] at hr'
  cases hr'
  exact hstatus

/-! ## §3. The window between two clicks. -/

/-- A connected window in which a click finds the given background of the
    status field, and nothing else of what was shown before. -/
structure Window.Plain (w : Window) (background : Rgb) : Prop where
  connected : w.m_sapDB.m_remoteApp = some (remoteInterface windowBusName)
  white : w.ui.WhiteNumbers
  status : w.ui.tbStatusBackground = background

/-- Resetting such a window leaves input texts and status background. -/
theorem Ui.WhiteNumbers.resetGui_eq {ui : Ui} (h : ui.WhiteNumbers) :
    ui.resetGui = Ui.plain ui.leSapNr ui.leAuftragsNr ui.tbStatusBackground := by
  rw [← h.resetGui_white]
  rfl

/-- **A click shows what its answers say, over the status background it
    finds**, and leaves a window of the same kind. -/
theorem Window.Plain.click {w : Window} {background : Rgb} (h : w.Plain background)
    (c : Click) :
    ∃ r w', w.click c = .ok (r, w') ∧ w'.Plain background
      ∧ c.display background = .ok r := by
  obtain ⟨r, hr, hwhite, hstatus⟩ := c.display_ok background
  refine ⟨r, { w with ui := r.ui }, ?_, ⟨h.connected, hwhite, hstatus⟩, hr⟩
  let ui := { w.ui with leSapNr := c.leSapNr, leAuftragsNr := c.leAuftragsNr }
  have hreset : ui.resetGui = Ui.plain c.leSapNr c.leAuftragsNr background := by
    have hwhite' : ui.WhiteNumbers := h.white
    rw [hwhite'.resetGui_eq, ← h.status]
  -- the handler resets whatever widgets it is given
  have hhandler : c.button.handler ui (w.m_sapDB.api c.bus) c.flash = .ok r := by
    rw [← handler_resetGui, hreset, w.m_sapDB.api_eq windowClient h.connected,
      ← c.display_eq_handler]
    exact hr
  show (c.button.handler ui (w.m_sapDB.api c.bus) c.flash >>= _) = _
  rw [hhandler]
  rfl

/-- **A constructor that finds no interface colours the status field.** -/
theorem Window.construct_plain {bus : Bus} (hreach : bus.reach windowAddress windowBusName = true) :
    ∃ w background, Window.construct bus = .ok w ∧ w.Plain background
      ∧ (background = .white ↔ bus.Available) := by
  obtain ⟨w, hw, hlib, hwhite, hstatus⟩ := Window.construct_ok bus
  have hremote : w.m_sapDB.m_remoteApp = some (remoteInterface windowBusName) := by
    rw [hlib]
    exact SAPDBLib.connect_of_reach hreach
  refine ⟨w, w.ui.tbStatusBackground, hw, ⟨hremote, hwhite, rfl⟩, ?_⟩
  rw [hstatus]
  exact and_iff_right hreach

/-! ## §4. When nothing is left over. -/

/-- A result of a click is what the same click shows if it is the first one
    in a window built with a working interface. -/
def ShownFirst (c : Click) (r : Clicked) : Prop :=
  ∀ (fresh : Bus) (w : Window) (c' : Click),
    fresh.reach windowAddress windowBusName = true → fresh.Available →
    Window.construct fresh = .ok w → c.SameAs c' →
    ∃ r' w', w.click c' = .ok (r', w') ∧ r.ui.shown = r'.ui.shown

/-- A window is built and clicked, and no result shows anything that is left
    over from the constructor or the clicks before. -/
def NothingLeftOver (bus : Bus) (clicks : List Click) : Prop :=
  ∃ w results w', Window.construct bus = .ok w ∧ run Window.click w clicks = .ok (results, w')
    ∧ List.Forall₂ ShownFirst clicks results

/-- A bus with the service on it, which answers every call with the empty
    text. -/
def liveBus : Bus :=
  { reach := fun _ _ => true
    alive := fun _ => true
    connectionError := []
    isValid := fun _ => true
    interfaceError := fun _ => []
    answer := fun _ => .reply [.string []] }

/-- **The status background alone decides.** -/
theorem shownFirst_iff {c : Click} {background : Rgb} {r : Clicked}
    (hr : c.display background = .ok r) : ShownFirst c r ↔ background = .white := by
  constructor
  · intro hfirst
    -- the same click in a window over a live bus
    have hlive : liveBus.reach windowAddress windowBusName = true := rfl
    obtain ⟨w, white, hw, hplain, hwhite⟩ := Window.construct_plain hlive
    obtain ⟨r', w', hclick', hshown⟩ := hfirst liveBus w c rfl ⟨rfl, rfl⟩ hw ⟨rfl, rfl, rfl, rfl⟩
    obtain ⟨r'', w'', hclick'', -, hdisplay⟩ := hplain.click c
    rw [hclick'] at hclick''
    cases hclick''
    have hstatus : r.ui.tbStatusBackground = r'.ui.tbStatusBackground :=
      congrArg Shown.tbStatusBackground hshown
    rw [Click.tbStatusBackground_display hr, Click.tbStatusBackground_display hdisplay] at hstatus
    rw [hstatus]
    exact hwhite.mpr ⟨rfl, rfl⟩
  · intro hbackground fresh w c' hreach havailable hw hsame
    obtain ⟨v, white, hv, hplain, hwhite⟩ := Window.construct_plain hreach
    rw [hw] at hv
    cases hv
    obtain ⟨r', w', hclick, -, hdisplay⟩ := hplain.click c'
    -- both backgrounds are white, so both clicks show one display
    rw [hsame.display_eq, hwhite.mpr havailable, ← hbackground, hr] at hdisplay
    cases hdisplay
    exact ⟨r, w', hclick, rfl⟩

/-- **When a window shows nothing left over.**  For every reachable bus and
    every sequence of clicks with any input texts and answers: all results
    are what the same clicks show first in a window built with a working
    interface, exactly if the window itself was built with one, or nobody
    clicks. -/
theorem nothing_left_over_iff (bus : Bus) (clicks : List Click)
    (hreach : bus.reach windowAddress windowBusName = true) :
    NothingLeftOver bus clicks
      ↔ clicks = [] ∨ (bus.alive windowBusName = true
        ∧ bus.isValid (remoteInterface windowBusName) = true) := by
  obtain ⟨w, background, hw, hplain, hwhite⟩ := Window.construct_plain hreach
  -- the invariant of the run: the window stays plain over that background
  have hstep : ∀ (v : Window) (c : Click), v.Plain background → True →
      ∃ r v', v.click c = .ok (r, v') ∧ v'.Plain background ∧ c.display background = .ok r :=
    fun v c hv _ => hv.click c
  obtain ⟨results, w', hrun, -, hresults⟩ := run_ok Window.click (fun v => v.Plain background)
    (fun _ => True) (fun c r => c.display background = .ok r) hstep clicks w hplain
    (fun _ _ => trivial)
  constructor
  · intro hnothing
    obtain ⟨v, results', v', hv, hrun', hfirst⟩ := hnothing
    rw [hw] at hv
    cases hv
    rw [hrun] at hrun'
    cases hrun'
    -- the first click already tells
    cases hresults with
    | nil => exact Or.inl rfl
    | cons hr _ =>
        obtain ⟨hfirst, -⟩ := List.forall₂_cons.mp hfirst
        exact Or.inr (hwhite.mp ((shownFirst_iff hr).mp hfirst))
  · intro h
    refine ⟨w, results, w', hw, hrun, ?_⟩
    rcases h with hnil | havailable
    · subst hnil
      cases hresults
      exact .nil
    · exact hresults.imp fun _ _ hr => (shownFirst_iff hr).mpr (hwhite.mpr havailable)

/-- A click on the ping button over a bus. -/
def pingClick (bus : Bus) : Click :=
  { button := .pbPing
    leSapNr := text "604424"
    leAuftragsNr := text "60091935"
    bus := bus
    flash := { getMKT := fun _ => none
               getTypeByOrderNr := fun _ => none
               getCurrentPassFailWarning := fun _ _ => none } }

/-- Two clicks in a window over a live bus. -/
theorem nothing_left_over_live :
    NothingLeftOver liveBus [pingClick deadBus, pingClick liveBus] :=
  (nothing_left_over_iff liveBus [pingClick deadBus, pingClick liveBus] rfl).mpr
    (Or.inr ⟨rfl, rfl⟩)

/-- A bus that is reachable, without the interface. -/
def bareBus : Bus := { liveBus with isValid := fun _ => false }

/-- **A warning stays behind a successful ping.** -/
theorem warning_left_over : ¬ NothingLeftOver bareBus [pingClick liveBus] := by
  intro hnothing
  obtain ⟨w, results, w', hw, hrun, hfirst⟩ := hnothing
  cases hw
  cases hrun
  obtain ⟨hfirst, -⟩ := List.forall₂_cons.mp hfirst
  obtain ⟨r', w', hclick, hshown⟩ :=
    hfirst liveBus _ (pingClick liveBus) rfl ⟨rfl, rfl⟩ rfl ⟨rfl, rfl, rfl, rfl⟩
  cases hclick
  have hstatus : Rgb.warning = Rgb.white := congrArg Shown.tbStatusBackground hshown
  exact absurd hstatus (by decide)

end SapDbLib
