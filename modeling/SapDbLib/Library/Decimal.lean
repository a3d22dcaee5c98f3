/-
  SapDbLib.Library.Decimal — DECIMAL TEXTS AND 32-BIT INTEGER READING.

  Both directions between texts and integers that the program goes through:

    * `decimal`/`number` — the canonical decimal text of a number;
    * `toInt` — the base-10 reading of a text in the C locale, with the `ok`
      flag, as documented for `QString::toInt`: optional white space around
      an optional sign and decimal digits, inside the 32-bit range, and
      `(0, false)` on everything else.

  Main results:
    * `decimal_digitsValue` — **uniqueness**: a digit text without a leading
      zero is the `decimal` of its value;
    * `toInt_eq_iff` — `toInt` accepts exactly the language `ReadsInt`.
-/
import SapDbLib.Library.Text
import Mathlib.Data.List.TakeWhile
import Mathlib.Data.List.Induction
import Mathlib.Tactic.IntervalCases

namespace SapDbLib.Library

/-! ## §1. Digits. -/

/-- The digit `'0'`. -/
def zero : UInt16 := 48

/-- One of `'0'..'9'`. -/
def isDigit (c : UInt16) : Bool := 48 ≤ c && c ≤ 57

/-- The value of a digit unit. -/
def digitValue (c : UInt16) : Nat := c.toNat - 48

/-- The value of a digit text, most significant digit first. -/
def digitsValue (s : Text) : Nat := s.foldl (fun v c => 10 * v + digitValue c) 0

/-- The decimal text of a number. -/
def decimal (n : Nat) : Text := (Nat.toDigits 10 n).map unit

theorem digitsValue_concat (s : Text) (c : UInt16) :
    digitsValue (s ++ [c]) = 10 * digitsValue s + digitValue c := by
  simp [digitsValue, List.foldl_append]

theorem digitValue_digitChar {d : Nat} (hd : d < 10) : digitValue (unit (Nat.digitChar d)) = d := by
  interval_cases d <;> rfl

theorem isDigit_digitChar {d : Nat} (hd : d < 10) : isDigit (unit (Nat.digitChar d)) = true := by
  interval_cases d <;> rfl

theorem digitChar_digitValue {c : UInt16} (hc : isDigit c = true) :
    unit (Nat.digitChar (digitValue c)) = c ∧ digitValue c < 10 := by
  have hrange : 48 ≤ c.toNat ∧ c.toNat ≤ 57 := by
    simpa [isDigit, UInt16.le_iff_toNat_le] using hc
  have hc' : c = (digitValue c + 48).toUInt16 := by
    have : digitValue c + 48 = c.toNat := by unfold digitValue; omega
    rw [this]
    simp
  have hlt : digitValue c < 10 := by unfold digitValue; omega
  refine ⟨?_, hlt⟩
  generalize digitValue c = d at hc' hlt
  subst hc'
  interval_cases d <;> rfl

theorem digitValue_eq_zero_iff {c : UInt16} (hc : isDigit c = true) :
    digitValue c = 0 ↔ c = zero := by
  constructor
  · intro h
    have := (digitChar_digitValue hc).1
    rw [h] at this
    exact this.symm
  · intro h
    subst h
    rfl

theorem decimal_eq (n : Nat) :
    decimal n = if n < 10 then [unit (Nat.digitChar n)]
      else decimal (n / 10) ++ [unit (Nat.digitChar (n % 10))] := by
  unfold decimal
  rw [Nat.toDigits_eq_if (by omega)]
  split <;> simp

/-- **Uniqueness.**  A non-empty digit text without a leading zero is the
    `decimal` of its value.  Induction on the last digit: the value of the
    digits before it is the quotient by ten, the last digit the remainder. -/
theorem decimal_digitsValue (s : Text) (hs : ∀ c ∈ s, isDigit c = true)
    (hhead : s.head? ≠ some zero) (hne : s ≠ []) :
    decimal (digitsValue s) = s ∧ 0 < digitsValue s := by
  induction s using List.reverseRecOn with
  | nil => exact absurd rfl hne
  | append_singleton s c ih =>
      have hc : isDigit c = true := hs c (by simp)
      obtain ⟨hunit, hlt⟩ := digitChar_digitValue hc
      rw [digitsValue_concat]
      by_cases hnil : s = []
      · -- a single digit, which is not the zero
        subst hnil
        have hpos : digitValue c ≠ 0 := by
          intro h0
          exact hhead (by simpa using (digitValue_eq_zero_iff hc).mp h0)
        refine ⟨?_, by omega⟩
        rw [decimal_eq, if_pos (by simp [digitsValue]; omega)]
        simp [digitsValue, hunit]
      · have hhead' : s.head? ≠ some zero := by
          rwa [List.head?_append_of_ne_nil _ hnil] at hhead
        -- the digits before the last keep their first digit, so the induction applies
        obtain ⟨hdec, hpos⟩ := ih (fun x hx => hs x (by simp [hx])) hhead' hnil
        refine ⟨?_, by omega⟩
        have hdiv : (10 * digitsValue s + digitValue c) / 10 = digitsValue s := by omega
        have hmod : (10 * digitsValue s + digitValue c) % 10 = digitValue c := by omega
        rw [decimal_eq, if_neg (by omega), hdiv, hmod, hdec, hunit]

/-- Every unit of a `decimal` is a digit, and it starts with no zero unless
    the number is zero. -/
theorem decimal_spec (n : Nat) :
    decimal n ≠ [] ∧ (∀ c ∈ decimal n, isDigit c = true)
      ∧ digitsValue (decimal n) = n ∧ (0 < n → (decimal n).head? ≠ some zero) := by
  induction n using Nat.strongRecOn with
  | _ n ih =>
      rw [decimal_eq]
      by_cases hn : n < 10
      · rw [if_pos hn]
        refine ⟨by simp, ?_, ?_, ?_⟩
        · intro c hc
          rw [List.mem_singleton.mp hc]
          exact isDigit_digitChar hn
        · simpa [digitsValue] using digitValue_digitChar hn
        · intro hpos hhead
          -- the digit `'0'` would have the value `n`
          have hz : unit (Nat.digitChar n) = zero := by simpa using hhead
          have hval := digitValue_digitChar hn
          rw [hz] at hval
          exact absurd hval (by simp [digitValue, zero]; omega)
      · rw [if_neg hn]
        obtain ⟨hne, hdig, hval, hhd⟩ := ih (n / 10) (by omega)
        have hmod : n % 10 < 10 := Nat.mod_lt _ (by omega)
        refine ⟨by simp, ?_, ?_, ?_⟩
        · intro c hc
          rcases List.mem_append.mp hc with hc | hc
          · exact hdig c hc
          · rw [List.mem_singleton.mp hc]
            exact isDigit_digitChar hmod
        · rw [digitsValue_concat, hval, digitValue_digitChar hmod]
          omega
        · intro _
          rw [List.head?_append_of_ne_nil _ hne]
          exact hhd (by omega)

/-- Leading zeros do not change the value. -/
theorem digitsValue_dropWhile_zero (s : Text) :
    digitsValue (s.dropWhile (· == zero)) = digitsValue s := by
  induction s with
  | nil => rfl
  | cons c s ih =>
      by_cases hc : c = zero
      · subst hc
        rw [List.dropWhile_cons_of_pos (by simp), ih]
        rfl
      · rw [List.dropWhile_cons_of_neg (by simpa using hc)]

theorem head?_dropWhile_zero (s : Text) : (s.dropWhile (· == zero)).head? ≠ some zero := by
  intro h
  cases hd : s.dropWhile (· == zero) with
  | nil => simp [hd] at h
  | cons c t =>
      have hc := List.head_dropWhile_not (· == zero) (l := s) (by simp [hd])
      simp only [hd, List.head_cons] at hc
      simp only [hd, List.head?_cons, Option.some.injEq] at h
      simp [h] at hc

/-- The value of a digit text is bounded by its length. -/
theorem digitsValue_lt {s : Text} (hs : ∀ c ∈ s, isDigit c = true) :
    digitsValue s < 10 ^ s.length := by
  induction s using List.reverseRecOn with
  | nil => decide
  | append_singleton s c ih =>
      have hc := (digitChar_digitValue (hs c (by simp))).2
      have hlt := ih (fun x hx => hs x (by simp [hx]))
      rw [digitsValue_concat, List.length_append, List.length_singleton, pow_succ]
      omega

/-- Stripping the leading zeros of a digit text of positive value gives the
    `decimal` of that value. -/
theorem decimal_digitsValue_eq_strip {s : Text} (hs : ∀ c ∈ s, isDigit c = true)
    (hpos : 0 < digitsValue s) : decimal (digitsValue s) = s.dropWhile (· == zero) := by
  have hstrip : ∀ c ∈ s.dropWhile (· == zero), isDigit c = true :=
    fun c hc => hs c ((List.dropWhile_suffix _).subset hc)
  have hne : s.dropWhile (· == zero) ≠ [] := by
    intro hnil
    have hval := digitsValue_dropWhile_zero s
    rw [hnil] at hval
    have hzero : digitsValue ([] : Text) = 0 := rfl
    omega
  rw [← digitsValue_dropWhile_zero s]
  exact (decimal_digitsValue _ hstrip (head?_dropWhile_zero s) hne).1

/-! ## §2. Printing an integer. -/

/-- The sign `'-'`. -/
def minus : UInt16 := 45

/-- The sign `'+'`. -/
def plus : UInt16 := 43

/-- `QString::number`: the canonical decimal text of an `int`. -/
def number (v : Int) : Text :=
  if v < 0 then minus :: decimal v.natAbs else decimal v.natAbs

/-! ## §3. Reading an integer: `QString::toInt` in base 10, C locale. -/

/-- `QChar::isSpace`: the ASCII white space, U+0085 and the space, line and
    paragraph separators. -/
def isSpace (c : UInt16) : Bool :=
  (9 ≤ c && c ≤ 13) || c == 32 || c == 0x85 || c == 0xA0 || c == 0x1680
    || (0x2000 ≤ c && c ≤ 0x200A) || c == 0x2028 || c == 0x2029 || c == 0x202F
    || c == 0x205F || c == 0x3000

/-- Without the surrounding white space. -/
def trimmed (s : Text) : Text := (s.dropWhile isSpace).rdropWhile isSpace

/-- A non-empty digit text, as its value. -/
def readDigits (s : Text) : Option Nat :=
  if s ≠ [] ∧ s.all isDigit then some (digitsValue s) else none

/-- An optional sign and digits. -/
def readSigned : Text → Option Int
  | [] => none
  | c :: s =>
      if c == minus then (readDigits s).map fun (n : Nat) => -(n : Int)
      else if c == plus then (readDigits s).map Int.ofNat
      else (readDigits (c :: s)).map Int.ofNat

/-- The range of a 32-bit `int`. -/
def inIntRange (v : Int) : Bool := -2147483648 ≤ v && v ≤ 2147483647

/-- `QString::toInt(&ok, 10)`: the value and the `ok` flag. -/
def toInt (s : Text) : Int × Bool :=
  match readSigned (trimmed s) with
  | some v => if inIntRange v then (v, true) else (0, false)
  | none => (0, false)

/-! ## §4. The language `toInt` accepts. -/

/-- The optional sign of an integer text. -/
inductive Sign where
  | none
  | plus
  | minus
  deriving DecidableEq, Repr

/-- The units of a sign. -/
def Sign.units : Sign → Text
  | .none => []
  | .plus => [Library.plus]
  | .minus => [Library.minus]

/-- The signed value. -/
def Sign.apply : Sign → Nat → Int
  | .none, n => n
  | .plus, n => n
  | .minus, n => -n

/-- `s` is a decimal integer text of value `v`: optional white space around
    an optional sign and at least one digit. -/
def ReadsInt (s : Text) (v : Int) : Prop :=
  ∃ (lead : Text) (sign : Sign) (digits trail : Text),
    s = lead ++ (sign.units ++ digits) ++ trail
      ∧ (∀ c ∈ lead, isSpace c = true) ∧ (∀ c ∈ trail, isSpace c = true)
      ∧ digits ≠ [] ∧ (∀ c ∈ digits, isDigit c = true)
      ∧ v = sign.apply (digitsValue digits)

/-- White space stays below `'!'` or above U+0084. -/
theorem isSpace_bounds {c : UInt16} (h : isSpace c = true) : c ≤ 32 ∨ 0x85 ≤ c := by
  simp only [isSpace, Bool.or_eq_true, Bool.and_eq_true, decide_eq_true_eq, beq_iff_eq] at h
  repeat' rcases h with h | h
  all_goals grind

theorem not_isSpace_of_isDigit {c : UInt16} (h : isDigit c = true) : isSpace c = false := by
  simp only [isDigit, Bool.and_eq_true, decide_eq_true_eq] at h
  by_contra hs
  -- the digits lie between the two ranges of white space
  have hbounds := isSpace_bounds (by simpa using hs)
  grind

theorem isDigit_ne_sign {c : UInt16} (h : isDigit c = true) : c ≠ minus ∧ c ≠ plus := by
  constructor <;> rintro rfl <;> exact absurd h (by decide)

theorem readDigits_eq_some {s : Text} {n : Nat} :
    readDigits s = some n ↔ s ≠ [] ∧ (∀ c ∈ s, isDigit c = true) ∧ n = digitsValue s := by
  simp only [readDigits, List.all_eq_true]
  constructor
  · intro h
    split at h
    next hd => exact ⟨hd.1, hd.2, (Option.some.inj h).symm⟩
    next => cases h
  · intro hread
    obtain ⟨hne, hdig, rfl⟩ := hread
    rw [if_pos ⟨hne, hdig⟩]

/-- What is read after a sign are digits, and the sign goes before their
    value. -/
theorem readDigits_map_apply (sign : Sign) {s : Text} {v : Int}
    (h : (readDigits s).map sign.apply = some v) :
    s ≠ [] ∧ (∀ c ∈ s, isDigit c = true) ∧ v = sign.apply (digitsValue s) := by
  obtain ⟨n, hn, rfl⟩ := Option.map_eq_some_iff.mp h
  obtain ⟨hne, hdig, rfl⟩ := readDigits_eq_some.mp hn
  exact ⟨hne, hdig, rfl⟩

/-- `readSigned` accepts exactly a sign followed by digits. -/
theorem readSigned_eq_some {s : Text} {v : Int} :
    readSigned s = some v ↔ ∃ (sign : Sign) (digits : Text), s = sign.units ++ digits
      ∧ digits ≠ [] ∧ (∀ c ∈ digits, isDigit c = true) ∧ v = sign.apply (digitsValue digits) := by
  constructor
  · intro h
    cases s with
    | nil => cases h
    | cons c s =>
        simp only [readSigned, beq_iff_eq] at h
        split at h
        next hc => exact ⟨.minus, s, by rw [hc]; rfl, readDigits_map_apply .minus h⟩
        next =>
          split at h
          next hc => exact ⟨.plus, s, by rw [hc]; rfl, readDigits_map_apply .plus h⟩
          next => exact ⟨.none, c :: s, rfl, readDigits_map_apply .none h⟩
  · intro hread
    obtain ⟨sign, digits, rfl, hne, hdig, rfl⟩ := hread
    have hread : readDigits digits = some (digitsValue digits) :=
      readDigits_eq_some.mpr ⟨hne, hdig, rfl⟩
    cases sign with
    | minus => simp [Sign.units, readSigned, hread, Sign.apply]
    | plus => simp [Sign.units, readSigned, hread, Sign.apply, plus, minus]
    | none =>
        cases digits with
        | nil => exact absurd rfl hne
        | cons c s =>
            -- a digit is neither sign, so the third branch reads it
            obtain ⟨hm, hp⟩ := isDigit_ne_sign (hdig c (by simp))
            simp [Sign.units, readSigned, hread, Sign.apply, hm, hp]

/-- Trimming a body that neither starts nor ends with white space. -/
theorem trimmed_eq {lead body trail : Text} (hlead : ∀ c ∈ lead, isSpace c = true)
    (htrail : ∀ c ∈ trail, isSpace c = true)
    (hfirst : ∀ c ∈ body.head?, isSpace c = false)
    (hlast : ∀ c ∈ body.getLast?, isSpace c = false) (hne : body ≠ []) :
    trimmed (lead ++ body ++ trail) = body := by
  have hdrop : (lead ++ body ++ trail).dropWhile isSpace = body ++ trail := by
    rw [List.append_assoc, List.dropWhile_append_of_pos hlead]
    cases body with
    | nil => exact absurd rfl hne
    | cons c body => rw [List.cons_append, List.dropWhile_cons_of_neg]; simp [hfirst c (by simp)]
  rw [trimmed, hdrop, List.rdropWhile, List.reverse_append,
      List.dropWhile_append_of_pos (by simpa using htrail)]
  have hkeep : body.reverse.dropWhile isSpace = body.reverse := by
    cases hrev : body.reverse with
    | nil => rfl
    | cons c rest =>
        have hc : c ∈ body.getLast? := by
          rw [← List.head?_reverse, hrev]
          rfl
        rw [List.dropWhile_cons_of_neg (by simp [hlast c hc])]
  rw [hkeep, List.reverse_reverse]

/-- **`toInt` accepts exactly `ReadsInt`** (before the range check). -/
theorem readSigned_trimmed_iff {s : Text} {v : Int} :
    readSigned (trimmed s) = some v ↔ ReadsInt s v := by
  rw [readSigned_eq_some]
  constructor
  · intro hread
    obtain ⟨sign, digits, hs, hne, hdig, hv⟩ := hread
    refine ⟨s.takeWhile isSpace, sign, digits, (s.dropWhile isSpace).rtakeWhile isSpace,
      ?_, ?_, ?_, hne, hdig, hv⟩
    · rw [← hs, List.append_assoc, trimmed, List.rdropWhile_append_rtakeWhile,
          List.takeWhile_append_dropWhile]
    · exact fun c hc => List.mem_takeWhile_imp hc
    · exact fun c hc => List.mem_rtakeWhile_imp hc
  · intro hread
    obtain ⟨lead, sign, digits, trail, rfl, hlead, htrail, hne, hdig, rfl⟩ := hread
    refine ⟨sign, digits, ?_, hne, hdig, rfl⟩
    apply trimmed_eq hlead htrail
    -- the body starts with a sign or a digit and ends with a digit
    · intro c hc
      cases sign with
      | none => exact not_isSpace_of_isDigit (hdig c (List.mem_of_mem_head? hc))
      | plus => cases hc; decide
      | minus => cases hc; decide
    · intro c hc
      rw [List.getLast?_append_of_ne_nil _ hne] at hc
      exact not_isSpace_of_isDigit (hdig c (List.mem_of_mem_getLast? hc))
    · simp [hne]

/-- **The reading theorem**: `toInt` gives `v` with `ok` set exactly on the
    decimal integer texts of value `v` inside the `int` range. -/
theorem toInt_eq_iff {s : Text} {v : Int} :
    toInt s = (v, true) ↔ ReadsInt s v ∧ inIntRange v = true := by
  rw [← readSigned_trimmed_iff, toInt]
  cases readSigned (trimmed s) with
  | none => simp
  | some w =>
      by_cases hw : inIntRange w = true
      · simp only [hw, if_true, Prod.mk.injEq, and_true, Option.some.injEq]
        exact ⟨fun h => ⟨h, h ▸ hw⟩, fun h => h.1⟩
      · simp only [hw, Bool.false_eq_true, if_false, Prod.mk.injEq, and_false, Option.some.injEq,
          false_iff, not_and]
        exact fun h h' => hw (h ▸ h')

/-- Without `ok` the value is `0`. -/
theorem toInt_of_not_ok {s : Text} (h : (toInt s).2 = false) : (toInt s).1 = 0 := by
  unfold toInt at h ⊢
  split at h
  · split at h
    · cases h
    · next hr => simp [hr]
  · rfl

/-- A non-zero value was read from an integer text in range. -/
theorem reads_of_toInt_ne_zero {s : Text} (h : (toInt s).1 ≠ 0) :
    ReadsInt s (toInt s).1 ∧ inIntRange (toInt s).1 = true := by
  have hok : (toInt s).2 = true := by
    by_contra hf
    exact h (toInt_of_not_ok (by simpa using hf))
  exact toInt_eq_iff.mp (Prod.ext rfl hok)

/-- Every unit of an integer text is white space, a sign or a digit. -/
theorem ReadsInt.unit_mem {s : Text} {v : Int} (h : ReadsInt s v) {c : UInt16} (hc : c ∈ s) :
    isSpace c = true ∨ c = minus ∨ c = plus ∨ isDigit c = true := by
  obtain ⟨lead, sign, digits, trail, rfl, hlead, htrail, -, hdig, -⟩ := h
  simp only [List.mem_append] at hc
  rcases hc with (hc | hc | hc) | hc
  · exact Or.inl (hlead c hc)
  · cases sign with
    | none => cases hc
    | plus => exact Or.inr (Or.inr (Or.inl (List.mem_singleton.mp hc)))
    | minus => exact Or.inr (Or.inl (List.mem_singleton.mp hc))
  · exact Or.inr (Or.inr (Or.inr (hdig c hc)))
  · exact Or.inl (htrail c hc)

/-- A text has one integer value at most. -/
theorem ReadsInt.unique {s : Text} {v w : Int} (hv : ReadsInt s v) (hw : ReadsInt s w) :
    v = w := by
  have h := readSigned_trimmed_iff.mpr hv
  rw [readSigned_trimmed_iff.mpr hw] at h
  exact (Option.some.inj h).symm

/-- A text of at most nine units reads inside the `int` range. -/
theorem ReadsInt.inIntRange {s : Text} {v : Int} (h : ReadsInt s v) (hlen : s.length ≤ 9) :
    inIntRange v = true := by
  obtain ⟨lead, sign, digits, trail, rfl, -, -, -, hdig, rfl⟩ := h
  have hlt := digitsValue_lt hdig
  have hdiglen : digits.length ≤ 9 := by
    simp only [List.length_append] at hlen
    omega
  -- nine digits stay below ten to the ninth, which is inside the range
  have hpow : 10 ^ digits.length ≤ 10 ^ 9 := Nat.pow_le_pow_right (by omega) hdiglen
  simp only [Library.inIntRange, Bool.and_eq_true, decide_eq_true_eq]
  cases sign <;> simp only [Sign.apply] <;> omega

/-- A digit text reads as its value. -/
theorem readsInt_digits {s : Text} (hne : s ≠ []) (hs : ∀ c ∈ s, isDigit c = true) :
    ReadsInt s (digitsValue s) :=
  ⟨[], .none, s, [], by simp [Sign.units], by simp, by simp, hne, hs, rfl⟩

/-! ## §5. Reading and printing back. -/

/-- The texts an `int` carries faithfully up to leading zeros: digits of a
    positive value up to `2147483647`, or `'-'` and digits without a leading
    zero of a value up to `2147483648`. -/
def IntSized (s : Text) : Prop :=
  ((∀ c ∈ s, isDigit c = true) ∧ 0 < digitsValue s ∧ digitsValue s ≤ 2147483647)
    ∨ ∃ d : Text, s = minus :: d ∧ (∀ c ∈ d, isDigit c = true) ∧ d.head? ≠ some zero ∧ d ≠ []
      ∧ digitsValue d ≤ 2147483648

/-- An integer text that starts with a zero has no sign. -/
theorem ReadsInt.minus_notMem {s : Text} {v : Int} (h : ReadsInt s v)
    (hhead : s.head? = some zero) : minus ∉ s := by
  obtain ⟨lead, sign, digits, trail, rfl, hlead, htrail, -, hdig, -⟩ := h
  have hleadnil : lead = [] := by
    cases lead with
    | nil => rfl
    | cons x lead =>
        have hx : x = zero := by simpa using hhead
        -- a zero is no white space
        exact absurd (hlead x (by simp)) (by rw [hx]; decide)
  subst hleadnil
  intro hmem
  cases sign with
  | plus => exact absurd hhead (by simp [Sign.units, plus, zero])
  | minus => exact absurd hhead (by simp [Sign.units, minus, zero])
  | none =>
      simp only [Sign.units, List.nil_append, List.mem_append] at hmem
      rcases hmem with hm | hm
      · exact absurd (hdig _ hm) (by decide)
      · exact absurd (htrail _ hm) (by decide)

theorem number_natCast (n : Nat) : number n = decimal n := by
  simp [number]

theorem number_neg {n : Nat} (hn : 0 < n) : number (-n) = minus :: decimal n := by
  simp [number, hn]

/-- A text is its leading zeros followed by the stripped text. -/
theorem eq_zeros_append_strip (s : Text) :
    ∃ z : Text, (∀ c ∈ z, c = zero) ∧ s = z ++ s.dropWhile (· == zero) :=
  ⟨s.takeWhile (· == zero), fun _ hc => by simpa using List.mem_takeWhile_imp hc,
    List.takeWhile_append_dropWhile.symm⟩

theorem number_toInt_of_intSized {s : Text} (h : IntSized s) :
    number (toInt s).1 = s.dropWhile (· == zero) := by
  rcases h with ⟨hdig, hpos, hmax⟩ | ⟨d, rfl, hdig, hhead, hne, hmax⟩
  · have hne : s ≠ [] := by
      intro hnil
      subst hnil
      exact absurd hpos (by decide)
    have hread : toInt s = ((digitsValue s : Int), true) :=
      toInt_eq_iff.mpr ⟨readsInt_digits hne hdig, by simp [inIntRange]; omega⟩
    rw [hread, number_natCast, decimal_digitsValue_eq_strip hdig hpos]
  · obtain ⟨hdec, hpos⟩ := decimal_digitsValue d hdig hhead hne
    have hread : toInt (minus :: d) = (-(digitsValue d : Int), true) := by
      refine toInt_eq_iff.mpr ⟨⟨[], .minus, d, [], by simp [Sign.units], by simp, by simp,
        hne, hdig, rfl⟩, ?_⟩
      simp [inIntRange]
      omega
    rw [hread, number_neg hpos, hdec, List.dropWhile_cons_of_neg (by decide)]

/-- A text that reads and prints back as a negative number starts with its
    sign: a zero in front of the sign would make it no integer text. -/
theorem intSized_of_number_neg {s : Text} {n : Nat} (hn : 0 < n) (hmax : n ≤ 2147483648)
    (hread : ReadsInt s (-n)) (h : number (-n) = s.dropWhile (· == zero)) : IntSized s := by
  right
  rw [number_neg hn] at h
  obtain ⟨z, hz, hs⟩ := eq_zeros_append_strip s
  obtain ⟨hdne, hddig, hdval, hdhead⟩ := decimal_spec n
  have hznil : z = [] := by
    cases z with
    | nil => rfl
    | cons c z =>
        have hminus : minus ∈ s := by
          rw [hs, ← h]
          simp
        refine absurd hminus (hread.minus_notMem ?_)
        rw [hs, hz c (by simp)]
        rfl
  refine ⟨decimal n, ?_, hddig, hdhead hn, hdne, ?_⟩
  · rw [hs, hznil, List.nil_append, ← h]
  · rw [hdval]
    omega

/-- A text that prints back as a positive number is all digits: the stripped
    text is, and so are the zeros before it. -/
theorem intSized_of_number_pos {s : Text} {n : Nat} (hn : 0 < n) (hmax : n ≤ 2147483647)
    (h : number n = s.dropWhile (· == zero)) : IntSized s := by
  left
  rw [number_natCast] at h
  obtain ⟨z, hz, hs⟩ := eq_zeros_append_strip s
  obtain ⟨-, hddig, hdval, -⟩ := decimal_spec n
  have hval : digitsValue s = n := by
    rw [← digitsValue_dropWhile_zero, ← h, hdval]
  refine ⟨?_, by omega, by omega⟩
  intro c hc
  rw [hs, ← h] at hc
  rcases List.mem_append.mp hc with hc | hc
  · rw [hz c hc]
    rfl
  · exact hddig c hc

/-- **Reading and printing back** gives the zero-stripped text exactly on the
    texts that fit an `int`. -/
theorem number_toInt_eq_iff (s : Text) :
    number (toInt s).1 = s.dropWhile (· == zero) ↔ IntSized s := by
  refine ⟨fun h => ?_, number_toInt_of_intSized⟩
  -- the stripped text starts with no zero, so the value is not zero
  have hv : (toInt s).1 ≠ 0 := by
    intro h0
    rw [h0] at h
    have hhead := head?_dropWhile_zero s
    rw [← h] at hhead
    exact hhead rfl
  obtain ⟨hread, hrange⟩ := reads_of_toInt_ne_zero hv
  simp only [inIntRange, Bool.and_eq_true, decide_eq_true_eq] at hrange
  generalize (toInt s).1 = v at h hv hread hrange
  rcases Int.lt_or_gt_of_ne hv with hneg | hpos
  · obtain ⟨n, rfl⟩ : ∃ n : Nat, v = -n := ⟨v.natAbs, by omega⟩
    exact intSized_of_number_neg (by omega) (by omega) hread h
  · obtain ⟨n, rfl⟩ : ∃ n : Nat, v = n := ⟨v.toNat, by omega⟩
    exact intSized_of_number_pos (by omega) (by omega) h

/-! ## §6. Fixed-point texts. -/

/-- The decimal point. -/
def point : UInt16 := 46

/-- A text such as `      46.000` as its digits and the number of them behind
    the point: the value is `v / 10 ^ k`. -/
def readFixed (s : Text) : Option (Int × Nat) :=
  match (trimmed s).splitOn point with
  | [whole] => (readSigned whole).map (·, 0)
  | [whole, fraction] =>
      if fraction.all isDigit then (readSigned (whole ++ fraction)).map (·, fraction.length)
      else none
  | _ => none

/-- The text denotes the integer. -/
def SameNumber (s : Text) (n : Int) : Prop :=
  ∃ v k, readFixed s = some (v, k) ∧ v = n * 10 ^ k

/-- One unit that reads as a number is a digit. -/
theorem readSigned_singleton {c : UInt16} {v : Int} (h : readSigned [c] = some v) :
    isDigit c = true ∧ v = digitValue c := by
  obtain ⟨sign, digits, hs, hne, hdig, hv⟩ := readSigned_eq_some.mp h
  cases sign with
  | plus | minus =>
      -- the unit is the sign, and no digit follows it
      simp only [Sign.units, List.cons_append, List.nil_append, List.cons.injEq] at hs
      exact absurd hs.2.symm hne
  | none =>
      simp only [Sign.units, List.nil_append] at hs
      subst hs
      have hdigits : digitsValue [c] = digitValue c := by simp [digitsValue]
      rw [Sign.apply, hdigits] at hv
      exact ⟨hdig c (by simp), hv⟩

/-- A one-unit text denotes a number only if the unit is its digit. -/
theorem SameNumber.of_singleton {c : UInt16} {n : Int} (h : SameNumber [c] n) :
    isDigit c = true ∧ n = digitValue c := by
  obtain ⟨v, k, hread, hvalue⟩ := h
  unfold readFixed at hread
  have htrim : trimmed [c] = if isSpace c = true then [] else [c] := by
    by_cases hc : isSpace c = true
    · simp [trimmed, hc]
    · simp [trimmed, hc, List.rdropWhile]
  -- a blank and the point leave no digits to read
  by_cases hspace : isSpace c = true
  · rw [htrim, if_pos hspace] at hread
    cases hread
  · by_cases hpoint : c = point
    · subst hpoint
      rw [htrim, if_neg hspace] at hread
      cases hread
    · have hsplit : [c].splitOn point = [[c]] :=
        List.splitOn_eq_singleton (by simpa using Ne.symm hpoint)
      rw [htrim, if_neg hspace, hsplit] at hread
      obtain ⟨w, hw, hpair⟩ := Option.map_eq_some_iff.mp hread
      cases hpair
      obtain ⟨hdigit, hv⟩ := readSigned_singleton hw
      refine ⟨hdigit, ?_⟩
      omega

end SapDbLib.Library
