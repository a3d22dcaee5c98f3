/-
  SapDbLib.Library.Condition — A TEXTUAL CONDITION LANGUAGE.

  The comparison fragment of ABAP `WHERE` conditions as texts: words and
  quoted literals separated by blanks, comparisons `FIELD = 'literal'` and
  `FIELD <> 'literal'`, combined by `AND`, `OR`, `NOT` and parentheses.  A
  literal is `'...'` with inner quotes doubled.

    * §1  quoting: `double`, and when a text is its own quoted form;
    * §2  the scanner `scan`, one automaton step per unit;
    * §3  the recursive-descent parser and `read`;
    * §4  the meaning `holds` over the fields of a row.

  The load-bearing facts are about texts **pasted between two quotes**:
  `scan_literal` (a quote-free text comes back as it is) and
  `notMem_quote_of_scan` (a text that comes back as it is has no quote),
  with `leftmost_parse` carrying the first comparison through the parser.
-/
import SapDbLib.Library.Text
import Mathlib.Data.List.Basic

namespace SapDbLib.Library.Condition

/-! ## §1. Quoting. -/

section Quoting

variable {α : Type*} [DecidableEq α] (q : α)

/-- The body of the quoted form of a text: every quote doubled. -/
def double (s : List α) : List α := s.flatMap fun c => if c = q then [q, q] else [c]

theorem length_double (s : List α) : (double q s).length = s.length + s.count q := by
  induction s with
  | nil => rfl
  | cons c s ih =>
      have hcons : double q (c :: s) = (if c = q then [q, q] else [c]) ++ double q s := rfl
      rw [hcons, List.length_append, ih, List.count_cons]
      -- a quote adds two units and is counted once
      by_cases hc : c = q
      · simp [hc]
        omega
      · simp [hc]
        omega

theorem count_double (s : List α) : (double q s).count q = 2 * s.count q := by
  induction s with
  | nil => rfl
  | cons c s ih =>
      have hcons : double q (c :: s) = (if c = q then [q, q] else [c]) ++ double q s := rfl
      rw [hcons, List.count_append, ih, List.count_cons]
      by_cases hc : c = q
      · simp [hc]
        omega
      · simp [hc]

/-- **When a text is its own quoted form.**  If the quoted form of `s` and
    `s` itself are both followed by a closing quote, and no second quote
    follows the latter, then `s` has no quote: the units that doubling adds
    would all be quotes standing after `s`. -/
theorem notMem_of_double_append {s rest tail : List α}
    (h : double q s ++ q :: rest = s ++ q :: tail) (htail : tail.head? ≠ some q) : q ∉ s := by
  intro hmem
  have hpos : 0 < s.count q := List.count_pos_iff.mpr hmem
  have hlen := length_double q s
  rcases List.append_eq_append_iff.mp h with ⟨z, hs, -⟩ | ⟨z, hd, hz⟩
  · -- the quoted form is the longer of the two
    have := congrArg List.length hs
    rw [List.length_append] at this
    omega
  · -- `z` is what doubling added: one unit for each quote of `s`, and all of them quotes
    have hzlen : z.length = s.count q := by
      have := congrArg List.length hd
      rw [List.length_append] at this
      omega
    have hzcount : z.count q = z.length := by
      have := congrArg (List.count q) hd
      rw [List.count_append, count_double] at this
      omega
    have hzall := List.count_eq_length.mp hzcount
    -- so what follows the closing quote starts with a quote too
    cases z with
    | nil => simp at hzlen; omega
    | cons c z =>
        simp only [List.cons_append, List.cons.injEq] at hz
        cases z with
        | nil => exact htail (by rw [hz.2]; rfl)
        | cons d z => exact htail (by rw [hz.2, hzall d (by simp)]; rfl)

end Quoting

/-! ## §2. The scanner. -/

/-- The quote `'''`. -/
def quote : UInt16 := 39

/-- A token: a word up to the next blank, or a quoted literal as the text it
    denotes. -/
inductive Token where
  | word (w : Text)
  | literal (s : Text)
  deriving DecidableEq, Repr

/-- Where the scanner stands. -/
inductive Mode where
  /-- Between two tokens. -/
  | between
  /-- Inside a word. -/
  | word (acc : Text)
  /-- Inside a literal. -/
  | literal (acc : Text)
  /-- After a quote inside a literal: the end of the literal, or the first
      of a doubled quote. -/
  | closing (acc : Text)

/-- Scan a condition text, one unit a step; `none` on an unterminated
    literal or one that touches a word. -/
def scan : Mode → Text → Option (List Token)
  | .between, [] => some []
  | .between, c :: cs =>
      if c = blank then scan .between cs
      else if c = quote then scan (.literal []) cs
      else scan (.word [c]) cs
  | .word acc, [] => some [.word acc]
  | .word acc, c :: cs =>
      if c = blank then (scan .between cs).map (.word acc :: ·)
      -- a literal has to start a token of its own
      else if c = quote then none
      else scan (.word (acc ++ [c])) cs
  -- no closing quote
  | .literal _, [] => none
  | .literal acc, c :: cs =>
      if c = quote then scan (.closing acc) cs else scan (.literal (acc ++ [c])) cs
  | .closing acc, [] => some [.literal acc]
  | .closing acc, c :: cs =>
      -- a second quote stands for one quote of the text, anything but a blank is an error
      if c = quote then scan (.literal (acc ++ [quote])) cs
      else if c = blank then (scan .between cs).map (.literal acc :: ·)
      else none

/-- A word followed by a blank. -/
theorem scan_word (w rest : Text) (hw : blank ∉ w) (hq : quote ∉ w) :
    ∀ acc : Text, scan (.word acc) (w ++ blank :: rest)
      = (scan .between rest).map (.word (acc ++ w) :: ·) := by
  induction w with
  | nil => intro acc; simp [scan]
  | cons c w ih =>
      intro acc
      have hcb : c ≠ blank := fun h => hw (by simp [h])
      have hcq : c ≠ quote := fun h => hq (by simp [h])
      rw [List.cons_append, scan, if_neg hcb, if_neg hcq,
          ih (fun h => hw (by simp [h])) (fun h => hq (by simp [h])), List.append_assoc]
      rfl

/-- A word at the start of a token, followed by a blank. -/
theorem scan_between_word (c : UInt16) (w rest : Text) (hw : blank ∉ c :: w)
    (hq : quote ∉ c :: w) :
    scan .between (c :: w ++ blank :: rest) = (scan .between rest).map (.word (c :: w) :: ·) := by
  simp only [List.mem_cons, not_or] at hw hq
  rw [List.cons_append, scan, if_neg (Ne.symm hw.1), if_neg (Ne.symm hq.1),
      scan_word w rest hw.2 hq.2]
  rfl

/-- **A quote-free text between quotes comes back as it is.** -/
theorem scan_literal (s rest : Text) (hq : quote ∉ s) :
    ∀ acc : Text, scan (.literal acc) (s ++ quote :: rest) = scan (.closing (acc ++ s)) rest := by
  induction s with
  | nil => intro acc; simp [scan]
  | cons c s ih =>
      intro acc
      have hcq : c ≠ quote := fun h => hq (by simp [h])
      rw [List.cons_append, scan, if_neg hcq, ih (fun h => hq (by simp [h])), List.append_assoc]
      rfl

/-- What a scanner inside a literal has read when it succeeds: the quoted
    form of the denoted text, the closing quote, and no further quote.
    Induction on the source, for both modes of a literal at once. -/
theorem scan_literal_sound (src : Text) :
    (∀ acc ts, scan (.literal acc) src = some ts →
      ∃ m rest ts', ts = .literal (acc ++ m) :: ts' ∧ src = double quote m ++ quote :: rest
        ∧ rest.head? ≠ some quote)
    ∧ (∀ acc ts, scan (.closing acc) src = some ts →
      (∃ ts', ts = .literal acc :: ts' ∧ src.head? ≠ some quote)
        ∨ ∃ m rest ts', ts = .literal (acc ++ quote :: m) :: ts'
          ∧ src = quote :: (double quote m ++ quote :: rest) ∧ rest.head? ≠ some quote) := by
  induction src with
  | nil =>
      constructor
      · intro acc ts h
        cases h
      · intro acc ts h
        -- the text ends with the closing quote
        cases h
        exact Or.inl ⟨[], rfl, by simp⟩
  | cons c src ih =>
      obtain ⟨ihLit, ihClose⟩ := ih
      constructor
      · intro acc ts h
        by_cases hc : c = quote
        · subst hc
          rw [scan, if_pos rfl] at h
          rcases ihClose acc ts h with ⟨ts', hts, hhead⟩ | ⟨m, rest, ts', hts, hsrc, hhead⟩
          · -- it closed the literal
            exact ⟨[], src, ts', by simpa using hts, rfl, hhead⟩
          · -- it was the first of a doubled quote
            refine ⟨quote :: m, rest, ts', hts, ?_, hhead⟩
            rw [hsrc]
            simp [double]
        · rw [scan, if_neg hc] at h
          obtain ⟨m, rest, ts', hts, hsrc, hhead⟩ := ihLit _ ts h
          refine ⟨c :: m, rest, ts', by simpa using hts, ?_, hhead⟩
          rw [hsrc]
          simp [double, hc]
      · intro acc ts h
        by_cases hc : c = quote
        · subst hc
          rw [scan, if_pos rfl] at h
          obtain ⟨m, rest, ts', hts, hsrc, hhead⟩ := ihLit _ ts h
          exact Or.inr ⟨m, rest, ts', by simpa using hts, by rw [hsrc], hhead⟩
        · rw [scan, if_neg hc] at h
          split at h
          · obtain ⟨ts', -, rfl⟩ := Option.map_eq_some_iff.mp h
            exact Or.inl ⟨ts', rfl, by simpa using hc⟩
          · cases h

/-- **A text that comes back as it is has no quote.**  `s` stands before a
    closing quote that no further quote follows. -/
theorem notMem_quote_of_scan {s tail : Text} {ts : List Token} (htail : tail.head? ≠ some quote)
    (h : scan (.literal []) (s ++ quote :: tail) = some ts) (hts : ts.head? = some (.literal s)) :
    quote ∉ s := by
  obtain ⟨m, rest, ts', rfl, hsrc, -⟩ := (scan_literal_sound _).1 [] ts h
  have hm : m = s := by simpa using hts
  subst hm
  exact notMem_of_double_append quote hsrc.symm htail

/-- The tokens of a condition text. -/
def tokenize (s : Text) : Option (List Token) := scan .between s

/-! ## §3. The parser. -/

/-- A condition over the fields of a row. -/
inductive Cond where
  /-- `FIELD = 'value'`. -/
  | eq (field value : Text)
  /-- `FIELD <> 'value'`. -/
  | ne (field value : Text)
  | and (c d : Cond)
  | or (c d : Cond)
  | not (c : Cond)
  deriving DecidableEq, Repr

/-- ASCII upper case: key words are read in either case. -/
def upper (c : UInt16) : UInt16 := if 97 ≤ c && c ≤ 122 then c - 32 else c

/-- The token is the given key word. -/
def Token.isWord (kw : String) : Token → Bool
  | .word w => w.map upper == text kw
  | .literal _ => false

/-- One comparison. -/
def parseComparison : List Token → Option (Cond × List Token)
  | .word field :: op :: .literal value :: ts =>
      if op.isWord "=" || op.isWord "EQ" then some (.eq field value, ts)
      else if op.isWord "<>" || op.isWord "NE" then some (.ne field value, ts)
      else none
  | _ => none

mutual

/-- Conditions joined by `OR`. -/
def parseOr : Nat → List Token → Option (Cond × List Token)
  | 0, _ => none
  | n + 1, ts => (parseAnd n ts).bind fun (c, ts) => orRest n c ts

/-- What follows a condition at the level of `OR`. -/
def orRest : Nat → Cond → List Token → Option (Cond × List Token)
  | 0, _, _ => none
  | _ + 1, c, [] => some (c, [])
  | n + 1, c, t :: ts =>
      if t.isWord "OR" then (parseAnd n ts).bind fun (d, ts) => orRest n (.or c d) ts
      else some (c, t :: ts)

/-- Conditions joined by `AND`. -/
def parseAnd : Nat → List Token → Option (Cond × List Token)
  | 0, _ => none
  | n + 1, ts => (parseNot n ts).bind fun (c, ts) => andRest n c ts

/-- What follows a condition at the level of `AND`. -/
def andRest : Nat → Cond → List Token → Option (Cond × List Token)
  | 0, _, _ => none
  | _ + 1, c, [] => some (c, [])
  | n + 1, c, t :: ts =>
      if t.isWord "AND" then (parseNot n ts).bind fun (d, ts) => andRest n (.and c d) ts
      else some (c, t :: ts)

/-- A comparison, a negation or a parenthesised condition. -/
def parseNot : Nat → List Token → Option (Cond × List Token)
  | 0, _ => none
  | _ + 1, [] => none
  | n + 1, t :: ts =>
      if t.isWord "NOT" then (parseNot n ts).map fun (c, ts) => (.not c, ts)
      else if t.isWord "(" then
        (parseOr n ts).bind fun
          | (c, t :: ts) => if t.isWord ")" then some (c, ts) else none
          | (_, []) => none
      else parseComparison (t :: ts)

end

/-- Parse a whole token list; every step of the descent is paid by a token. -/
def parse (ts : List Token) : Option Cond :=
  match parseOr (4 * ts.length + 4) ts with
  | some (c, []) => some c
  | _ => none

/-- **Read a condition text.** -/
def read (s : Text) : Option Cond := (tokenize s).bind parse

/-- The leftmost comparison of a condition, if it stands under no `NOT`. -/
def Cond.leftmost : Cond → Option (Text × Text)
  | .eq field value => some (field, value)
  | .ne _ _ => none
  | .and c _ => c.leftmost
  | .or c _ => c.leftmost
  | .not _ => none

theorem leftmost_andRest (n : Nat) : ∀ (c d : Cond) (ts ts' : List Token),
    andRest n c ts = some (d, ts') → d.leftmost = c.leftmost := by
  induction n with
  | zero => intro c d ts ts' h; cases h
  | succ n ih =>
      intro c d ts ts' h
      cases ts with
      | nil => cases h; rfl
      | cons t ts =>
          rw [andRest] at h
          split at h
          · obtain ⟨⟨e, us⟩, -, hrest⟩ := Option.bind_eq_some_iff.mp h
            exact ih (.and c e) d us ts' hrest
          · cases h; rfl

theorem leftmost_orRest (n : Nat) : ∀ (c d : Cond) (ts ts' : List Token),
    orRest n c ts = some (d, ts') → d.leftmost = c.leftmost := by
  induction n with
  | zero => intro c d ts ts' h; cases h
  | succ n ih =>
      intro c d ts ts' h
      cases ts with
      | nil => cases h; rfl
      | cons t ts =>
          rw [orRest] at h
          split at h
          · obtain ⟨⟨e, us⟩, -, hrest⟩ := Option.bind_eq_some_iff.mp h
            exact ih (.or c e) d us ts' hrest
          · cases h; rfl

/-- A token list that starts with a comparison of a plain field parses to a
    condition whose leftmost comparison it is. -/
theorem leftmost_parse {field value : Text} {ts : List Token} {c : Cond}
    (hnot : (Token.word field).isWord "NOT" = false) (hpar : (Token.word field).isWord "(" = false)
    (h : parse (.word field :: .word (text "=") :: .literal value :: ts) = some c) :
    c.leftmost = some (field, value) := by
  have hcmp : ∀ n, parseNot (n + 1) (.word field :: .word (text "=") :: .literal value :: ts)
      = some (.eq field value, ts) := by
    intro n
    rw [parseNot, if_neg (by simp [hnot]), if_neg (by simp [hpar]), parseComparison,
        if_pos (by decide)]
  unfold parse at h
  split at h
  next d hd =>
    cases h
    -- down to the first comparison, then up again through what follows it on each level
    obtain ⟨⟨e, us⟩, hand, hor⟩ := Option.bind_eq_some_iff.mp (by rwa [parseOr] at hd)
    obtain ⟨⟨f, vs⟩, hprim, hrest⟩ := Option.bind_eq_some_iff.mp (by rwa [parseAnd] at hand)
    rw [List.length_cons, Nat.mul_succ, hcmp] at hprim
    cases hprim
    rw [leftmost_orRest _ _ _ _ _ hor, leftmost_andRest _ _ _ _ _ hrest]
    rfl
  next => cases h

/-! ## §4. Meaning. -/

/-- Character-like values are compared up to trailing blanks. -/
def sameChar (a b : Text) : Bool := a.rdropWhile isBlank == b.rdropWhile isBlank

/-- Whether a row, given by its field texts, meets a condition. -/
def holds (row : Text → Text) : Cond → Bool
  | .eq field value => sameChar (row field) value
  | .ne field value => !sameChar (row field) value
  | .and c d => holds row c && holds row d
  | .or c d => holds row c || holds row d
  | .not c => !holds row c

end SapDbLib.Library.Condition
