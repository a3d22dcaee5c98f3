/-
  SapDbLib.Client.Display — WHEN THE WINDOW SHOWS A DIFFERENCE.

  Three handlers compare SAP with Flash and turn a group box red.  The
  comparison each one should make (`Comparison.Same`) and the one it makes
  differ: short texts are compared as they are, the material number goes
  through a 32-bit integer first, and a quantity is compared with the text
  of one character.

    * `red_getMKTTest`, `red_getOrderTypeNrTest`, `red_getOrderQty` — when
      each handler's box is red;
    * `display_exact_iff` — **when red means "not both present with the same
      value"**: always for the short text; for the other two under
      `Comparison.Right`.
-/
import SapDbLib.Client.Window
import SapDbLib.Library.Decimal

namespace SapDbLib

open Library

/-! ## §1. The comparisons. -/

/-- The three comparisons. -/
inductive Comparison where
  | matKurzText
  | orderTypeNr
  | orderQty
  deriving DecidableEq, Repr

/-- The button. -/
def Comparison.button : Comparison → Button
  | .matKurzText => .pbReadMatKurzText
  | .orderTypeNr => .pbSapFromPa
  | .orderQty => .pbQtyPass

/-- The group box. -/
def Comparison.box : Comparison → Ui → Rgb
  | .matKurzText, ui => ui.gbGetMKT
  | .orderTypeNr, ui => ui.gbSapFromPa
  | .orderQty, ui => ui.gbQtyPass

/-- SAP's number without its leading zeros. -/
def stripZeros (s : Text) : Text := s.dropWhile (· == zero)

/-- Flash's answer for the texts in the window. -/
def FlashDb.pass (flash : FlashDb) (orderNr : Text) : Option Int :=
  (flash.getCurrentPassFailWarning (toInt orderNr).1 10).map fun counts => counts.1

/-- **Both answers are there and have the same value.** -/
def Comparison.Same (c : Comparison) (a : Answer) (flash : FlashDb) (ui : Ui) : Prop :=
  a.returned = true ∧
    match c with
    | .matKurzText => flash.getMKT ui.leSapNr = some a.out
    | .orderTypeNr => flash.getTypeByOrderNr ui.leAuftragsNr = some (stripZeros a.out)
    | .orderQty => ∃ n, flash.pass ui.leAuftragsNr = some n ∧ SameNumber a.out n

/-- The text of the `int` that a text denotes, `0` for a text that denotes
    none. -/
def ShownAs (s f : Text) : Prop :=
  (∃ v, ReadsInt s v ∧ inIntRange v = true ∧ f = number v)
    ∨ (¬ ∃ v, ReadsInt s v ∧ inIntRange v = true) ∧ f = text "0"

/-- Where a handler's comparison is the right one. -/
def Comparison.Right (c : Comparison) (a : Answer) (flash : FlashDb) (ui : Ui) : Prop :=
  match c with
  | .matKurzText => True
  | .orderTypeNr =>
      -- nothing to compare, a number an `int` can carry, or a plain difference
      a.returned = false ∨ flash.getTypeByOrderNr ui.leAuftragsNr = none ∨ IntSized a.out
        ∨ ∃ f, flash.getTypeByOrderNr ui.leAuftragsNr = some f
            ∧ f ≠ stripZeros a.out ∧ ¬ ShownAs a.out f
  | .orderQty =>
      -- two different quantities, and not the one text that compares equal
      a.returned = true ∧ ∃ n, flash.pass ui.leAuftragsNr = some n
        ∧ ¬ SameNumber a.out n ∧ a.out ≠ qstringOfInt n

/-- Red means "not both present with the same value". -/
def Comparison.Exact (c : Comparison) (a : Answer) (flash : FlashDb) (ui ui' : Ui) : Prop :=
  c.box ui' = .red ↔ ¬ c.Same a flash ui

/-! ## §2. The two odd normalisations. -/

/-- Reading and printing back is `ShownAs`. -/
theorem number_toInt_iff (s f : Text) : f = number (toInt s).1 ↔ ShownAs s f := by
  unfold ShownAs
  by_cases hread : ∃ v, ReadsInt s v ∧ inIntRange v = true
  · obtain ⟨v, hv, hrange⟩ := hread
    rw [toInt_eq_iff.mpr ⟨hv, hrange⟩]
    constructor
    · intro hf
      exact Or.inl ⟨v, hv, hrange, hf⟩
    · intro hshown
      rcases hshown with ⟨w, hw, -, hf⟩ | ⟨hnone, -⟩
      · rw [hf, hv.unique hw]
      · exact absurd ⟨v, hv, hrange⟩ hnone
  · -- no value in range: `toInt` fails, and its value is zero
    have hfail : (toInt s).2 = false := by
      by_contra hok
      have hok' : toInt s = ((toInt s).1, true) := Prod.ext rfl (by simpa using hok)
      exact hread ⟨(toInt s).1, toInt_eq_iff.mp hok'⟩
    rw [toInt_of_not_ok hfail]
    constructor
    · intro hf
      exact Or.inr ⟨hread, hf⟩
    · intro hshown
      rcases hshown with ⟨v, hv, hrange, -⟩ | ⟨-, hf⟩
      · exact absurd ⟨v, hv, hrange⟩ hread
      · exact hf

/-- **`QString(n)` never denotes `n`**: the character of code `n` would have
    to be the digit `n`, whose code is `48 + n`. -/
theorem not_sameNumber_qstringOfInt (n : Int) : ¬ SameNumber (qstringOfInt n) n := by
  intro h
  obtain ⟨hdigit, hvalue⟩ := SameNumber.of_singleton h
  have hrange : 48 ≤ (UInt16.ofInt n).toNat ∧ (UInt16.ofInt n).toNat ≤ 57 := by
    simpa [isDigit, UInt16.le_iff_toNat_le] using hdigit
  have hsmall : n = ((UInt16.ofInt n).toNat - 48 : Nat) := hvalue
  -- ten candidates are left, and `n` is none of the codes of the digits
  have hlow : 0 ≤ n := by omega
  have hhigh : n ≤ 9 := by omega
  interval_cases n <;> exact absurd hrange.1 (by decide)

/-! ## §3. The handlers. -/

section Handlers

variable {ui : Ui} {sap : SapDb} {a : Answer} (flash : FlashDb)

/-- The short text: red unless both texts are there and equal. -/
theorem red_getMKTTest (h : sap.getMKT ui.leSapNr [] = .ok a) :
    ∃ r, getMKTTest ui sap flash = .ok r ∧ (r.ui.gbGetMKT = .red
      ↔ ¬ (a.returned = true ∧ flash.getMKT ui.leSapNr = some a.out)) := by
  simp only [getMKTTest, Ui.resetGui, h]
  cases hret : a.returned with
  | false => exact ⟨_, by simp only [bind, Except.bind, hret]; rfl, by simp⟩
  | true =>
      cases hflash : flash.getMKT ui.leSapNr with
      | none => exact ⟨_, by simp only [bind, Except.bind, hret]; rfl, by simp⟩
      | some f =>
          refine ⟨_, by simp only [bind, Except.bind, hret]; rfl, ?_⟩
          by_cases heq : a.out = f
          · simp [heq, Rgb.grey, Rgb.red]
          · simp [heq, Ne.symm heq]

/-- The material number: red unless both are there and Flash's text is that
    of the `int` SAP's text denotes. -/
theorem red_getOrderTypeNrTest (h : sap.getOrderTypeNr ui.leAuftragsNr [] = .ok a) :
    ∃ r, getOrderTypeNrTest ui sap flash = .ok r ∧ (r.ui.gbSapFromPa = .red
      ↔ ¬ (a.returned = true
        ∧ flash.getTypeByOrderNr ui.leAuftragsNr = some (number (toInt a.out).1))) := by
  simp only [getOrderTypeNrTest, Ui.resetGui, h]
  cases hret : a.returned with
  | false => exact ⟨_, by simp only [bind, Except.bind, hret]; rfl, by simp⟩
  | true =>
      cases hflash : flash.getTypeByOrderNr ui.leAuftragsNr with
      | none => exact ⟨_, by simp only [bind, Except.bind, hret]; rfl, by simp⟩
      | some f =>
          refine ⟨_, by simp only [bind, Except.bind, hret]; rfl, ?_⟩
          by_cases heq : number (toInt a.out).1 = f
          · simp [heq, Rgb.grey, Rgb.red]
          · simp [heq, Ne.symm heq]

/-- The quantity: red only if both are there and SAP's text is not the one
    character of Flash's number. -/
theorem red_getOrderQty (h : sap.getOrderQty ui.leAuftragsNr [] = .ok a) :
    ∃ r, getOrderQty ui sap flash = .ok r ∧ (r.ui.gbQtyPass = .red
      ↔ a.returned = true ∧ ∃ n, flash.pass ui.leAuftragsNr = some n
        ∧ a.out ≠ qstringOfInt n) := by
  simp only [getOrderQty, Ui.resetGui, h, FlashDb.pass]
  cases hret : a.returned with
  | false =>
      exact ⟨_, by simp only [bind, Except.bind, hret]; rfl, by simp [Rgb.grey, Rgb.red]⟩
  | true =>
      cases hflash : flash.getCurrentPassFailWarning (toInt ui.leAuftragsNr).1 10 with
      | none =>
          exact ⟨_, by simp only [bind, Except.bind, hret]; rfl, by simp [Rgb.grey, Rgb.red]⟩
      | some counts =>
          obtain ⟨n, fail, warn⟩ := counts
          refine ⟨_, by simp only [bind, Except.bind, hret]; rfl, ?_⟩
          by_cases heq : a.out = qstringOfInt n
          · simp [heq, Rgb.grey, Rgb.red]
          · simp [heq]

end Handlers

/-! ## §4. When red is right. -/

/-- Comparing through an `int` is comparing stripped texts exactly under
    `Right`. -/
theorem orderTypeNr_exact_iff (a : Answer) (flash : FlashDb) (ui ui' : Ui)
    (hred : ui'.gbSapFromPa = .red ↔ ¬ (a.returned = true
      ∧ flash.getTypeByOrderNr ui.leAuftragsNr = some (number (toInt a.out).1))) :
    Comparison.orderTypeNr.Exact a flash ui ui' ↔ Comparison.orderTypeNr.Right a flash ui := by
  show (ui'.gbSapFromPa = .red ↔ ¬ (a.returned = true
      ∧ flash.getTypeByOrderNr ui.leAuftragsNr = some (stripZeros a.out)))
    ↔ (a.returned = false ∨ flash.getTypeByOrderNr ui.leAuftragsNr = none ∨ IntSized a.out
        ∨ ∃ f, flash.getTypeByOrderNr ui.leAuftragsNr = some f
            ∧ f ≠ stripZeros a.out ∧ ¬ ShownAs a.out f)
  rw [hred, ← number_toInt_eq_iff a.out]
  cases hret : a.returned with
  | false => simp
  | true =>
      cases hflash : flash.getTypeByOrderNr ui.leAuftragsNr with
      | none => simp
      | some f =>
          have hshown := number_toInt_iff a.out f
          show _ ↔ (true = false ∨ some f = none ∨ number (toInt a.out).1 = stripZeros a.out ∨ _)
          -- equal normal forms, or a Flash text that equals neither of them
          by_cases hsame : number (toInt a.out).1 = stripZeros a.out
          · simp [hsame]
          · simp only [hsame, true_and, Option.some.injEq, reduceCtorEq, false_or, exists_eq_left',
              ← hshown]
            constructor
            · intro hiff
              by_cases hf : f = stripZeros a.out
              · have : f = number (toInt a.out).1 := not_not.mp fun hne => hiff.mp hne hf
                exact absurd (this.symm.trans hf) hsame
              · exact ⟨hf, hiff.mpr hf⟩
            · intro hright
              obtain ⟨hstrip, hnumber⟩ := hright
              exact ⟨fun _ => hstrip, fun _ => hnumber⟩

/-- Comparing with one character is right exactly on different quantities. -/
theorem orderQty_exact_iff (a : Answer) (flash : FlashDb) (ui ui' : Ui)
    (hred : ui'.gbQtyPass = .red ↔ a.returned = true ∧ ∃ n, flash.pass ui.leAuftragsNr = some n
      ∧ a.out ≠ qstringOfInt n) :
    Comparison.orderQty.Exact a flash ui ui' ↔ Comparison.orderQty.Right a flash ui := by
  show (ui'.gbQtyPass = .red ↔ ¬ (a.returned = true
      ∧ ∃ n, flash.pass ui.leAuftragsNr = some n ∧ SameNumber a.out n))
    ↔ (a.returned = true ∧ ∃ n, flash.pass ui.leAuftragsNr = some n
        ∧ ¬ SameNumber a.out n ∧ a.out ≠ qstringOfInt n)
  rw [hred]
  cases hret : a.returned with
  | false => simp
  | true =>
      cases hflash : flash.pass ui.leAuftragsNr with
      | none => simp
      | some n =>
          -- the text that compares equal never denotes the number
          have hdisjoint := not_sameNumber_qstringOfInt n
          simp only [true_and, Option.some.injEq, exists_eq_left']
          constructor
          · intro hiff
            by_cases heq : a.out = qstringOfInt n
            · exact absurd (not_not.mp fun hne => hiff.mpr hne heq) (heq ▸ hdisjoint)
            · exact ⟨hiff.mp heq, heq⟩
          · intro hright
            obtain ⟨hnumber, hne⟩ := hright
            exact ⟨fun _ => hnumber, fun _ => hne⟩

/-- **When the window shows differences exactly.**  Whatever the two
    databases answer, the handler finishes, and its box is red for "not both
    present with the same value" exactly under `Right`. -/
theorem display_exact_iff (c : Comparison) (ui : Ui) (sap : SapDb) (flash : FlashDb) (a : Answer)
    (h : c.button.sapQuery sap ui.leSapNr ui.leAuftragsNr = .ok a) :
    ∃ r, c.button.handler ui sap flash = .ok r
      ∧ (c.Exact a flash ui r.ui ↔ c.Right a flash ui) := by
  cases c with
  | matKurzText =>
      obtain ⟨r, hr, hred⟩ := red_getMKTTest flash h
      exact ⟨r, hr, fun _ => trivial, fun _ => hred⟩
  | orderTypeNr =>
      obtain ⟨r, hr, hred⟩ := red_getOrderTypeNrTest flash h
      exact ⟨r, hr, orderTypeNr_exact_iff a flash ui r.ui hred⟩
  | orderQty =>
      obtain ⟨r, hr, hred⟩ := red_getOrderQty flash h
      exact ⟨r, hr, orderQty_exact_iff a flash ui r.ui hred⟩

/-! ## §5. The same quantity, shown as a difference. -/

/-- SAP answers every query with the quantity text of forty-six pieces. -/
def sap46 : SapDb :=
  let a := { returned := true, out := text "      46.000", issued := [] }
  { ping := .ok a
    getMKT := fun _ _ => .ok a
    getOrderTypeNr := fun _ _ => .ok a
    getOrderQty := fun _ _ => .ok a
    getOrderType := fun _ _ => .ok a }

/-- Flash counts forty-six passed pieces. -/
def flash46 : FlashDb :=
  { getMKT := fun _ => none
    getTypeByOrderNr := fun _ => none
    getCurrentPassFailWarning := fun _ _ => some (46, 0, 0) }

/-- The texts of the two are compared as the theorem says. -/
theorem display_exact_46 :
    ∃ r, Comparison.orderQty.button.handler Ui.setup sap46 flash46 = .ok r
      ∧ (Comparison.orderQty.Exact
            { returned := true, out := text "      46.000", issued := [] } flash46 Ui.setup r.ui
          ↔ Comparison.orderQty.Right
            { returned := true, out := text "      46.000", issued := [] } flash46 Ui.setup) :=
  display_exact_iff .orderQty Ui.setup sap46 flash46 _ rfl

/-- **Forty-six pieces in both databases, and the box is red.** -/
theorem equal_quantities_red :
    ∃ r, getOrderQty Ui.setup sap46 flash46 = .ok r ∧ r.ui.gbQtyPass = .red
      ∧ ¬ Comparison.orderQty.Exact r.answer flash46 Ui.setup r.ui := by
  have hsame : SameNumber (text "      46.000") 46 :=
    ⟨46000, 3, by decide +kernel, by decide⟩
  refine ⟨_, rfl, rfl, ?_⟩
  intro hexact
  exact hexact.mp rfl ⟨rfl, 46, rfl, hsame⟩

end SapDbLib
