/-
  SapDbLib.Client.OrderRecord — TWO DECODERS OF ONE RECORD.

  The console client (`SapQuery.getMatNr`, C#) and the window `SapWindow`
  (`getMatNrMeng`, Qt) decode the same `~`-separated record.  The console
  client writes its three `ref` arguments one after the other, so an
  exception in between leaves the earlier ones set: its effects are a state
  that survives the exception.  The window reads all pieces first and sets
  its fields last; an index past a list is a fault.

    * `decode_eq`, `getMatNrMeng_of_sent` — what each decoder does on a line;
    * `decoders_agree_iff` — **when both present the same record**.
-/
import SapDbLib.Library.Effects
import SapDbLib.Server.Agreement
import SapDbLib.Client.InputCheck

namespace SapDbLib

open Library

/-! ## §1. The console client. -/

/-- The `ref` arguments of `getMatNr`. -/
structure Refs where
  strMatNr : Text
  strGesMenge : Text
  strGesFailMenge : Text
  deriving DecidableEq, Repr

/-- Code that may throw and writes `ref` arguments; they keep what was
    written before an exception. -/
abbrev RefM := Effects CSharpException Refs

/-- An array element. -/
def index (erg : List Text) (i : Nat) : Except CSharpException Text :=
  match erg[i]? with
  | some piece => .ok piece
  | none => .error .indexOutOfRange

/-- `String.IndexOf(char)`: `-1` if there is none. -/
def indexOf (s : Text) (c : UInt16) : Int :=
  match s.idxOf? c with
  | some i => i
  | none => -1

/-- `String.Substring(start, length)`. -/
def substring (s : Text) (start : Nat) (length : Int) : Except CSharpException Text :=
  if 0 ≤ length ∧ start + length ≤ s.length then .ok ((s.drop start).take length.toNat)
  else .error .argumentOutOfRange

/-- The part of `getMatNr` after the row loop: split, and set one `ref`
    argument after the other. -/
def decode (strErg : Text) : RefM Bool := do
  let erg := strErg.splitOn tilde
  let matNr ← index erg 0
  modify fun refs => { refs with strMatNr := matNr }
  let start1 ← index erg 1
  let gesMenge ← substring start1 0 (indexOf start1 point)
  modify fun refs => { refs with strGesMenge := gesMenge }
  let start2 ← index erg 2
  let gesFailMenge ← substring start2 0 (indexOf start2 point)
  modify fun refs => { refs with strGesFailMenge := gesFailMenge }
  return true

/-- `SapQuery.getMatNr` of the console client. -/
def getMatNr (strAufNr : Text) (destination : RfcDestination) : RefM Bool := do
  let strErg ← (readOrderRecord destination strAufNr : Except CSharpException Text)
  decode strErg

/-- What the console client prints: `Program.Main` trims the number. -/
structure Presented where
  matNr : Text
  gesMenge : Text
  failMenge : Text
  deriving DecidableEq, Repr

/-- `Program.Main` around `getMatNr`: the arguments start empty. -/
def presentConsole (strAufNr : Text) (destination : RfcDestination) :
    Except CSharpException Presented :=
  match (getMatNr strAufNr destination).runFrom ⟨[], [], []⟩ with
  | (.ok _, refs) =>
      .ok { matNr := refs.strMatNr.dropWhile (· == zero)
            gesMenge := refs.strGesMenge, failMenge := refs.strGesFailMenge }
  | (.error e, _) => .error e

/-! ## §2. The window. -/

/-- The widgets that `getMatNrMeng` reads and writes. -/
structure SapWindowUi where
  leAuftragsNr : Text
  tbMaterialNr : Text
  tbGesAufMenge : Text
  tbGesFailMenge : Text
  deriving DecidableEq, Repr

/-- An index past the end of a `QStringList`. -/
inductive ListFault where
  | indexOutOfRange
  deriving DecidableEq, Repr

/-- `QStringList::operator[]`. -/
def listAt (l : List Text) (i : Nat) : Except ListFault Text :=
  match l[i]? with
  | some piece => .ok piece
  | none => .error .indexOutOfRange

/-- `SapWindow::getMatNrMeng`; `call` is the remote object. -/
def getMatNrMeng (ui : SapWindowUi) (call : RemoteCall → QDBusMessage) :
    Except ListFault (Bool × SapWindowUi) := do
  let qstrAuftragsNr := ui.leAuftragsNr
  let iAuftragsNr := (toInt qstrAuftragsNr).1
  if !(qstrAuftragsNr.length != 8 || iAuftragsNr == 0) then
    let reply := call { member := text "getMatNrFromPa", arguments := [.string qstrAuftragsNr] }
    match reply.toReply with
    | some responseFromSharp =>
        let ergebnis := responseFromSharp.splitOn tilde
        -- first piece through an int: the leading zeros go
        let piece0 ← listAt ergebnis 0
        let erg0 := (toInt piece0).1
        let piece1 ← listAt ergebnis 1
        let erg1 := piece1.splitOn point
        let piece2 ← listAt ergebnis 2
        let erg2 := piece2.splitOn point
        let gesAufMenge ← listAt erg1 0
        let gesFailMenge ← listAt erg2 0
        return (true, { ui with
          tbMaterialNr := number erg0
          tbGesAufMenge := gesAufMenge
          tbGesFailMenge := gesFailMenge })
    | none => return (false, ui)
  else return (false, ui)

/-- What the window shows. -/
def SapWindowUi.presented (ui : SapWindowUi) : Presented :=
  { matNr := ui.tbMaterialNr, gesMenge := ui.tbGesAufMenge, failMenge := ui.tbGesFailMenge }

/-! ## §3. Pieces and points. -/

/-- The text before the first point. -/
def beforePoint (s : Text) : Text := before point s

/-- Cutting at `IndexOf` works exactly if the point is there. -/
theorem substring_indexOf (s : Text) :
    substring s 0 (indexOf s point)
      = if point ∈ s then .ok (beforePoint s) else .error .argumentOutOfRange := by
  by_cases h : point ∈ s
  · have hprefix : beforePoint s <+: s := List.takeWhile_prefix _
    have hlen : (beforePoint s).length ≤ s.length := hprefix.length_le
    have htake : beforePoint s = s.take (beforePoint s).length :=
      List.prefix_iff_eq_take.mp hprefix
    have hindex : indexOf s point = (beforePoint s).length := by
      unfold indexOf
      rw [idxOf?_eq_length_before h]
      rfl
    unfold substring
    rw [if_pos h, hindex, if_pos (by omega), List.drop_zero, Int.toNat_natCast, ← htake]
  · -- no point: the length is -1
    have hindex : indexOf s point = -1 := by
      unfold indexOf
      rw [List.idxOf?_eq_none_iff.mpr h]
    unfold substring
    rw [if_neg h, hindex, if_neg (by omega)]

theorem listAt_splitOn_zero (s : Text) : listAt (s.splitOn point) 0 = .ok (beforePoint s) := by
  unfold listAt
  rw [getElem?_splitOn_zero]
  rfl

/-! ## §4. What each decoder does. -/

/-- The three pieces of a record. -/
structure Pieces where
  matNr : Text
  qty : Text
  failQty : Text

/-- A line has at least three pieces, and these are the first of them. -/
def HasPieces (line : Text) (p : Pieces) : Prop :=
  ∃ rest, line.splitOn tilde = p.matNr :: p.qty :: p.failQty :: rest

/-- Both quantities have a decimal point. -/
def Pieces.Pointed (p : Pieces) : Prop := point ∈ p.qty ∧ point ∈ p.failQty

/-- The `ref` arguments after a complete decoding. -/
def Pieces.refs (p : Pieces) : Refs :=
  { strMatNr := p.matNr
    strGesMenge := beforePoint p.qty
    strGesFailMenge := beforePoint p.failQty }

/-- The console decoder, assignment by assignment: an exception keeps what
    was assigned before it. -/
theorem decode_eq (line : Text) (refs : Refs) :
    (decode line).runFrom refs = match line.splitOn tilde with
      | [] => (.error .indexOutOfRange, refs)
      | [m] => (.error .indexOutOfRange, { refs with strMatNr := m })
      | m :: q :: rest =>
          if point ∈ q then
            match rest with
            | [] => (.error .indexOutOfRange,
                { refs with strMatNr := m, strGesMenge := beforePoint q })
            | f :: _ =>
                if point ∈ f then (.ok true, ⟨m, beforePoint q, beforePoint f⟩)
                else (.error .argumentOutOfRange,
                  { refs with strMatNr := m, strGesMenge := beforePoint q })
          else (.error .argumentOutOfRange, { refs with strMatNr := m }) := by
  unfold decode
  generalize line.splitOn tilde = erg
  have hcut : ∀ {s : Text}, point ∈ s → substring s 0 (indexOf s point) = .ok (beforePoint s) := by
    intro s hs
    rw [substring_indexOf, if_pos hs]
  have hnocut : ∀ {s : Text}, point ∉ s →
      substring s 0 (indexOf s point) = .error .argumentOutOfRange := by
    intro s hs
    rw [substring_indexOf, if_neg hs]
  -- the cases are those of the reads: two indices with a cut each
  match erg with
  | [] => rfl
  | [m] => rfl
  | m :: q :: rest =>
      have hindex0 : index (m :: q :: rest) 0 = .ok m := rfl
      have hindex1 : index (m :: q :: rest) 1 = .ok q := rfl
      show Effects.runFrom _ refs = if point ∈ q then _ else _
      rw [Effects.runFrom_read_ok _ _ hindex0, Effects.runFrom_modify,
        Effects.runFrom_read_ok _ _ hindex1]
      by_cases hq : point ∈ q
      · rw [if_pos hq, Effects.runFrom_read_ok _ _ (hcut hq), Effects.runFrom_modify]
        match rest with
        | [] => rfl
        | f :: rest =>
            have hindex2 : index (m :: q :: f :: rest) 2 = .ok f := rfl
            show Effects.runFrom _ _ = if point ∈ f then _ else _
            rw [Effects.runFrom_read_ok _ _ hindex2]
            by_cases hf : point ∈ f
            · rw [if_pos hf, Effects.runFrom_read_ok _ _ (hcut hf)]
              rfl
            · rw [if_neg hf, Effects.runFrom_read_error _ _ (hnocut hf)]
      · rw [if_neg hq, Effects.runFrom_read_error _ _ (hnocut hq)]

/-- The read behind an order record. -/
def recordRequest (strAufNr : Text) : ReadRequest :=
  queryRequest "AFKO" ["STLBEZ", "GAMNG", "GASMG"] (orderCondition strAufNr)

/-- The console client decodes the last line of the read. -/
theorem getMatNr_eq (dest : RfcDestination) (strAufNr : Text) (refs : Refs) :
    (getMatNr strAufNr dest).runFrom refs = match dest.readTable (recordRequest strAufNr) with
      | .ok lines => (decode (lastLine lines)).runFrom refs
      | .error e => (.error e, refs) := by
  have hread := readOrderRecord_eq dest strAufNr
  unfold getMatNr
  cases htable : dest.readTable (recordRequest strAufNr) with
  | ok lines =>
      have hok : readOrderRecord dest strAufNr = .ok (lastLine lines) := by
        rw [hread]
        show lastLine <$> dest.readTable (recordRequest strAufNr) = _
        rw [htable]
        rfl
      rw [Effects.runFrom_read_ok _ _ hok]
  | error e =>
      have herror : readOrderRecord dest strAufNr = .error e := by
        rw [hread]
        show lastLine <$> dest.readTable (recordRequest strAufNr) = _
        rw [htable]
        rfl
      rw [Effects.runFrom_read_error _ _ herror]

/-- A complete line sets all three arguments. -/
theorem decode_of_pointed {line : Text} {p : Pieces} (h : HasPieces line p) (hp : p.Pointed)
    (refs : Refs) : (decode line).runFrom refs = (.ok true, p.refs) := by
  obtain ⟨rest, hsplit⟩ := h
  rw [decode_eq, hsplit]
  show (if point ∈ p.qty then _ else _) = _
  rw [if_pos hp.1]
  show (if point ∈ p.failQty then _ else _) = _
  rw [if_pos hp.2]
  rfl

/-- A run that ends without an exception had a complete line. -/
theorem pointed_of_decode {line : Text} {refs refs' : Refs} {b : Bool}
    (h : (decode line).runFrom refs = (.ok b, refs')) :
    ∃ p, HasPieces line p ∧ p.Pointed := by
  rw [decode_eq] at h
  split at h
  · cases h
  · cases h
  · next m q rest hsplit =>
      split at h
      · next hq =>
          split at h
          · cases h
          · next f rest =>
              split at h
              · next hf => exact ⟨⟨m, q, f⟩, ⟨rest, hsplit⟩, hq, hf⟩
              · cases h
      · cases h

/-- The call of the window. -/
def recordCall (strAufNr : Text) : RemoteCall :=
  { member := text "getMatNrFromPa", arguments := [.string strAufNr] }

/-- The window lets its order number through. -/
def SapWindowUi.SendsRequest (ui : SapWindowUi) : Prop :=
  ui.leAuftragsNr.length = 8 ∧ (toInt ui.leAuftragsNr).1 ≠ 0

/-- The window with a record on display. -/
def SapWindowUi.showing (ui : SapWindowUi) (p : Pieces) : SapWindowUi :=
  { ui with
    tbMaterialNr := number (toInt p.matNr).1
    tbGesAufMenge := beforePoint p.qty
    tbGesFailMenge := beforePoint p.failQty }

section Window

variable {ui : SapWindowUi} {call : RemoteCall → QDBusMessage}

theorem getMatNrMeng_of_not_sent (h : ¬ ui.SendsRequest) :
    getMatNrMeng ui call = .ok (false, ui) := by
  have hgate : (!(ui.leAuftragsNr.length != 8 || (toInt ui.leAuftragsNr).1 == 0)) = false := by
    unfold SapWindowUi.SendsRequest at h
    grind
  unfold getMatNrMeng
  simp only [hgate]
  rfl

theorem getMatNrMeng_of_sent (h : ui.SendsRequest) :
    getMatNrMeng ui call = match (call (recordCall ui.leAuftragsNr)).toReply with
      | none => .ok (false, ui)
      | some line => match line.splitOn tilde with
          | m :: q :: f :: _ => .ok (true, ui.showing ⟨m, q, f⟩)
          | _ => .error .indexOutOfRange := by
  have hgate : (!(ui.leAuftragsNr.length != 8 || (toInt ui.leAuftragsNr).1 == 0)) = true := by
    unfold SapWindowUi.SendsRequest at h
    grind
  unfold getMatNrMeng
  simp only [hgate, if_true, listAt_splitOn_zero]
  unfold recordCall
  generalize (call { member := text "getMatNrFromPa"
                     arguments := [.string ui.leAuftragsNr] }).toReply = reply
  cases reply with
  | none => rfl
  | some line =>
      simp only
      generalize line.splitOn tilde = ergebnis
      match ergebnis with
      | [] => rfl
      | [m] => rfl
      | [m, q] => rfl
      | m :: q :: f :: rest => rfl

end Window

/-! ## §5. Two presentations of one line. -/

/-- The line of three pieces. -/
def Pieces.line (p : Pieces) : Text := p.matNr ++ tilde :: (p.qty ++ tilde :: p.failQty)

/-- No piece contains the delimiter. -/
def Pieces.Clean (p : Pieces) : Prop := tilde ∉ p.matNr ∧ tilde ∉ p.qty ∧ tilde ∉ p.failQty

instance (p : Pieces) : Decidable p.Pointed := inferInstanceAs (Decidable (_ ∧ _))

instance (p : Pieces) : Decidable p.Clean := inferInstanceAs (Decidable (_ ∧ _ ∧ _))

instance (ui : SapWindowUi) : Decidable ui.SendsRequest := inferInstanceAs (Decidable (_ ∧ _))

theorem Pieces.splitOn_line {p : Pieces} (h : p.Clean) :
    p.line.splitOn tilde = [p.matNr, p.qty, p.failQty] := by
  obtain ⟨hm, hq, hf⟩ := h
  unfold Pieces.line
  rw [List.splitOn_append_cons_self_of_not_mem hm, List.splitOn_append_cons_self_of_not_mem hq,
      List.splitOn_eq_singleton hf]

/-- What the console client prints for a record. -/
def Pieces.printed (p : Pieces) : Presented :=
  { matNr := p.matNr.dropWhile (· == zero)
    gesMenge := beforePoint p.qty, failMenge := beforePoint p.failQty }

/-- Both clients present the record of the order, and the same one. -/
def DecodersAgree (strAufNr : Text) (destination : RfcDestination) (ui : SapWindowUi)
    (call : RemoteCall → QDBusMessage) : Prop :=
  ∃ shown ui', presentConsole strAufNr destination = .ok shown
    ∧ getMatNrMeng ui call = .ok (true, ui') ∧ ui'.presented = shown

theorem presentConsole_line {strAufNr : Text} {dest : RfcDestination} {lines : List Text}
    {p : Pieces} (hclean : p.Clean) (hpointed : p.Pointed)
    (hread : dest.readTable (recordRequest strAufNr) = .ok lines)
    (hline : lastLine lines = p.line) :
    presentConsole strAufNr dest = .ok p.printed := by
  have hrun : (getMatNr strAufNr dest).runFrom ⟨[], [], []⟩ = (.ok true, p.refs) := by
    rw [getMatNr_eq, hread]
    show (decode (lastLine lines)).runFrom _ = _
    rw [hline]
    exact decode_of_pointed ⟨[], Pieces.splitOn_line hclean⟩ hpointed _
  unfold presentConsole
  rw [hrun]
  rfl

theorem getMatNrMeng_line (p : Pieces) (ui : SapWindowUi) (call : RemoteCall → QDBusMessage)
    (hclean : p.Clean) (hsent : ui.SendsRequest)
    (hreply : (call (recordCall ui.leAuftragsNr)).toReply = some p.line) :
    getMatNrMeng ui call = .ok (true, ui.showing p) := by
  rw [getMatNrMeng_of_sent hsent, hreply]
  show (match p.line.splitOn tilde with
    | m :: q :: f :: _ => Except.ok (true, ui.showing ⟨m, q, f⟩)
    | _ => Except.error ListFault.indexOutOfRange) = _
  rw [Pieces.splitOn_line hclean]

/-- **When both clients present the same record.**  For every line `m~q~f`
    with clean fields and pointed quantities that reaches both: exactly if
    the material number is one that an `int` carries. -/
theorem decoders_agree_iff (p : Pieces) (strAufNr : Text) (dest : RfcDestination)
    (lines : List Text) (ui : SapWindowUi) (call : RemoteCall → QDBusMessage)
    (hclean : p.Clean) (hpointed : p.Pointed)
    (hread : dest.readTable (recordRequest strAufNr) = .ok lines)
    (hline : lastLine lines = p.line)
    (hsent : ui.SendsRequest)
    (hreply : (call (recordCall ui.leAuftragsNr)).toReply = some p.line) :
    DecodersAgree strAufNr dest ui call ↔ IntSized p.matNr := by
  have hconsole := presentConsole_line hclean hpointed hread hline
  have hwindow := getMatNrMeng_line p ui call hclean hsent hreply
  rw [← number_toInt_eq_iff]
  -- the quantities are cut at the same point, so only the number is left
  constructor
  · intro h
    obtain ⟨shown, ui', hshown, hui', hsame⟩ := h
    rw [hconsole] at hshown
    rw [hwindow] at hui'
    cases hshown
    cases hui'
    exact congrArg Presented.matNr hsame
  · intro h
    refine ⟨p.printed, ui.showing p, hconsole, hwindow, ?_⟩
    show Presented.mk (number (toInt p.matNr).1) _ _ = _
    rw [h]
    rfl

/-- A destination whose reads end with one line. -/
def oneLineDestination (line : Text) : RfcDestination :=
  { createFunction := fun _ => .ok (), call := fun _ => .ok [line], ping := .ok () }

/-- A window with the order number `60098052` entered. -/
def enteredWindow : SapWindowUi :=
  { leAuftragsNr := text "60098052", tbMaterialNr := [], tbGesAufMenge := [], tbGesFailMenge := [] }

/-- The record of that order. -/
def record60098052 : Pieces :=
  { matNr := text "000000000000604934"
    qty := text "      46.000 ", failQty := text "       0.000" }

/-- The same record with an alphanumeric material number. -/
def recordAlphanumeric : Pieces := { record60098052 with matNr := text "FLASH-604934" }

theorem decoders_agree_60098052 :
    DecodersAgree (text "60098052") (oneLineDestination record60098052.line) enteredWindow
        (fun _ => .reply [.string record60098052.line])
      ↔ IntSized record60098052.matNr :=
  decoders_agree_iff record60098052 (text "60098052") (oneLineDestination record60098052.line)
    [record60098052.line] enteredWindow (fun _ => .reply [.string record60098052.line])
    (by decide +kernel) (by decide +kernel) rfl rfl (by decide +kernel) rfl

/-- **An alphanumeric material number is shown as `0` by the window.** -/
theorem alphanumeric_disagrees :
    ¬ DecodersAgree (text "60098052") (oneLineDestination recordAlphanumeric.line) enteredWindow
        (fun _ => .reply [.string recordAlphanumeric.line]) := by
  intro h
  obtain ⟨shown, ui', hshown, hui', hsame⟩ := h
  have hconsole : presentConsole (text "60098052") (oneLineDestination recordAlphanumeric.line)
      = .ok recordAlphanumeric.printed :=
    presentConsole_line (by decide +kernel) (by decide +kernel) rfl rfl
  have hwindow := getMatNrMeng_line recordAlphanumeric enteredWindow
    (fun _ => .reply [.string recordAlphanumeric.line])
    (by decide +kernel) (by decide +kernel) rfl
  rw [hconsole] at hshown
  rw [hwindow] at hui'
  cases hshown
  cases hui'
  have hnumber : number (toInt recordAlphanumeric.matNr).1
      = recordAlphanumeric.matNr.dropWhile (· == zero) := congrArg Presented.matNr hsame
  exact absurd hnumber (by decide +kernel)

end SapDbLib
