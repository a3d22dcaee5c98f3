/-
  SapDbLib.Server.Condition — THE CONDITIONS THE SERVER BUILDS.

  Six server methods paste their argument between two quotes and send the
  result as the `OPTIONS` line of one read.  `KeyQuery` describes them: the
  read, the line, and the condition the line is meant to be.

    * `KeyQuery.perform_eq` — every method is its read, whatever the server;
    * `tokenize_line`, `read_line_of_notMem` — **on a quote-free key the line reads as
      intended**;
    * `condition_shape_iff` — **and only then**: with a quote in the argument
      the line no longer says what was meant.
-/
import SapDbLib.Server.Dispatch
import SapDbLib.Library.Condition

namespace SapDbLib

open Library Library.Condition

/-! ## §1. The six methods and their lines. -/

/-- The server methods that take a SAP key. -/
inductive KeyQuery where
  | getMatNrFromPa
  | getMatKurzText
  | getOrderTypeNr
  | getOrderQty
  | getOrderFailQty
  | getOrderType
  deriving DecidableEq, Repr

namespace KeyQuery

/-- The method's body, on a text argument. -/
def perform : KeyQuery → SapServerQuery → Text → Except CSharpException Text
  | getMatNrFromPa, srv => srv.getMatNrFromPa
  | getMatKurzText, srv => srv.getMatKurzText
  | getOrderTypeNr, srv => srv.getOrderTypeNr
  | getOrderQty, srv => srv.getOrderQty
  | getOrderFailQty, srv => srv.getOrderFailQty
  | getOrderType, srv => srv.getOrderType

/-- The table read. -/
def table : KeyQuery → String
  | getMatKurzText => "MAKT"
  | getOrderType => "AUFK"
  | _ => "AFKO"

/-- The columns read. -/
def columns : KeyQuery → List String
  | getMatNrFromPa => ["STLBEZ", "GAMNG", "GASMG"]
  | getMatKurzText => ["MAKTX"]
  | getOrderTypeNr => ["STLBEZ"]
  | getOrderQty => ["GAMNG"]
  | getOrderFailQty => ["GASMG"]
  | getOrderType => ["AUART"]

/-- The key field. -/
def keyField : KeyQuery → Text
  | getMatKurzText => text "MATNR"
  | _ => text "AUFNR"

/-- The key an argument stands for: an order number is padded, a material
    number is taken as it is. -/
def key : KeyQuery → Text → Text
  | getMatKurzText, s => s
  | _, s => orderKey s

/-- What follows the closing quote. -/
def tail : KeyQuery → Text
  | getMatKurzText => text " and SPRAS = 'D'"
  | _ => []

/-- The `OPTIONS` line for an argument. -/
def line (q : KeyQuery) (s : Text) : Text :=
  q.keyField ++ blank :: (text "=" ++ blank :: quote :: (q.key s ++ quote :: q.tail))

/-- The read for an argument. -/
def request (q : KeyQuery) (s : Text) : ReadRequest := queryRequest q.table q.columns (q.line s)

/-- The condition the line is meant to be. -/
def wanted : KeyQuery → Text → Cond
  | getMatKurzText, s => .and (.eq (text "MATNR") s) (.eq (text "SPRAS") (text "D"))
  | q, s => .eq (text "AUFNR") (q.key s)

/-- The tokens after the key. -/
def tailTokens : KeyQuery → List Token
  | getMatKurzText =>
      [.word (text "and"), .word (text "SPRAS"), .word (text "="), .literal (text "D")]
  | _ => []

/-- The tokens of a line with the given literal. -/
def tokens (q : KeyQuery) (literal : Text) : List Token :=
  .word q.keyField :: .word (text "=") :: .literal literal :: q.tailTokens

/-- A row carries the key (for a short text: in German). -/
def Carries : KeyQuery → Text → (Text → Text) → Prop
  | getMatKurzText, s, row =>
      sameChar (row (text "MATNR")) s = true ∧ sameChar (row (text "SPRAS")) (text "D") = true
  | q, s, row => sameChar (row (text "AUFNR")) (q.key s) = true

/-- **Every method is its read.** -/
theorem perform_eq (q : KeyQuery) (srv : SapServerQuery) (s : Text) :
    q.perform srv s = srv.readLast (q.request s) := by
  cases q with
  | getMatNrFromPa => exact getMatNrFromPa_eq srv s
  | getMatKurzText => exact getMatKurzText_eq srv s
  | getOrderTypeNr => exact getOrderTypeNr_eq srv s
  | getOrderQty => exact getOrderQty_eq srv s
  | getOrderFailQty => exact getOrderFailQty_eq srv s
  | getOrderType => exact getOrderType_eq srv s

/-! ## §2. Quotes and keys. -/

/-- Padding adds no quote and takes none away. -/
theorem quote_mem_key (q : KeyQuery) (s : Text) : quote ∈ q.key s ↔ quote ∈ s := by
  have hpad : quote ∈ orderKey s ↔ quote ∈ s := by
    unfold orderKey
    constructor
    · intro h
      -- the fill unit is a zero
      rcases mem_leftpad h with hzero | hs
      · exact absurd hzero (by decide)
      · exact hs
    · intro h
      exact List.mem_append_right _ h
  cases q
  case getMatKurzText => exact Iff.rfl
  all_goals exact hpad

theorem head?_tail (q : KeyQuery) : q.tail.head? ≠ some quote := by
  cases q <;> decide

/-! ## §3. Reading the line. -/

/-- The scanner reaches the pasted key after the field name and the `=`. -/
theorem tokenize_line (q : KeyQuery) (s : Text) :
    tokenize (q.line s) = (scan (.literal []) (q.key s ++ quote :: q.tail)).map
      fun ts => .word q.keyField :: .word (text "=") :: ts := by
  have hfield : ∃ c w, q.keyField = c :: w ∧ blank ∉ c :: w ∧ quote ∉ c :: w := by
    cases q <;> exact ⟨_, _, rfl, by decide, by decide⟩
  obtain ⟨c, w, hcw, hblank, hquote⟩ := hfield
  have heq : text "=" = [61] := by decide
  have hrest : scan .between ([61] ++ blank :: quote :: (q.key s ++ quote :: q.tail))
      = (scan .between (quote :: (q.key s ++ quote :: q.tail))).map (.word [61] :: ·) :=
    scan_between_word 61 [] _ (by decide) (by decide)
  have hopen : scan .between (quote :: (q.key s ++ quote :: q.tail))
      = scan (.literal []) (q.key s ++ quote :: q.tail) := by
    rw [scan, if_neg (by decide), if_pos rfl]
  unfold tokenize line
  rw [hcw, scan_between_word c w _ hblank hquote, heq, hrest, hopen, Option.map_map]
  rfl

/-- **A quote-free key is read as one literal**, and the tokens are the
    intended ones. -/
theorem tokenize_line_of_notMem (q : KeyQuery) {s : Text} (h : quote ∉ s) :
    tokenize (q.line s) = some (q.tokens (q.key s)) := by
  rw [q.tokenize_line, scan_literal _ _ (fun hk => h ((q.quote_mem_key s).mp hk)),
      List.nil_append]
  cases q <;> rfl

/-- The intended tokens parse to the intended condition. -/
theorem parse_tokens (q : KeyQuery) (s : Text) :
    parse (q.tokens (q.key s)) = some (q.wanted s) := by
  have hmatnr : (Token.word (text "MATNR")).isWord "NOT" = false := by decide
  have hmatnr' : (Token.word (text "MATNR")).isWord "(" = false := by decide
  have hspras : (Token.word (text "SPRAS")).isWord "NOT" = false := by decide
  have hspras' : (Token.word (text "SPRAS")).isWord "(" = false := by decide
  have haufnr : (Token.word (text "AUFNR")).isWord "NOT" = false := by decide
  have haufnr' : (Token.word (text "AUFNR")).isWord "(" = false := by decide
  have heq : (Token.word (text "=")).isWord "=" = true := by decide
  have hand : (Token.word (text "and")).isWord "AND" = true := by decide
  cases q
  case getMatKurzText =>
    simp [tokens, tailTokens, keyField, key, wanted, parse, parseOr, parseAnd, parseNot,
      parseComparison, andRest, orRest, hmatnr, hmatnr', hspras, hspras', heq, hand]
  all_goals
    simp [tokens, tailTokens, keyField, key, wanted, parse, parseOr, parseAnd, parseNot,
      parseComparison, andRest, orRest, haufnr, haufnr', heq]

/-- **A quote-free argument is read as intended.** -/
theorem read_line_of_notMem (q : KeyQuery) {s : Text} (h : quote ∉ s) :
    read (q.line s) = some (q.wanted s) := by
  unfold Condition.read
  rw [q.tokenize_line_of_notMem h]
  exact q.parse_tokens s

/-- The intended condition selects rows that carry the key. -/
theorem carries_of_holds (q : KeyQuery) {s : Text} {row : Text → Text}
    (h : holds row (q.wanted s) = true) : q.Carries s row := by
  cases q
  case getMatKurzText => simpa [wanted, holds, Carries] using h
  all_goals simpa [wanted, holds, Carries] using h

theorem holds_wanted_iff (q : KeyQuery) (s : Text) (row : Text → Text) :
    holds row (q.wanted s) = true ↔ q.Carries s row := by
  refine ⟨q.carries_of_holds, fun h => ?_⟩
  cases q
  case getMatKurzText => simpa [wanted, holds, Carries] using h
  all_goals simpa [wanted, holds, Carries] using h

/-- The leftmost comparison of the intended condition is on the key. -/
theorem leftmost_wanted (q : KeyQuery) (s : Text) :
    (q.wanted s).leftmost = some (q.keyField, q.key s) := by
  cases q <;> rfl

/-- **A line that reads as intended has no quote in its argument**: the
    parser keeps the first literal, so the scanner gave the key back as it
    stands between the quotes. -/
theorem notMem_of_read_line (q : KeyQuery) {s : Text} (h : read (q.line s) = some (q.wanted s)) :
    quote ∉ s := by
  rw [← q.quote_mem_key]
  obtain ⟨ts, htokens, hparse⟩ := Option.bind_eq_some_iff.mp h
  rw [q.tokenize_line] at htokens
  obtain ⟨us, hscan, rfl⟩ := Option.map_eq_some_iff.mp htokens
  -- whatever follows, the third token is a literal, and the parser makes it the key
  obtain ⟨m, rest, ts', hus, -, -⟩ := (scan_literal_sound _).1 [] us hscan
  subst hus
  have hnot : (Token.word q.keyField).isWord "NOT" = false := by cases q <;> decide
  have hpar : (Token.word q.keyField).isWord "(" = false := by cases q <;> decide
  have hleft := leftmost_parse hnot hpar hparse
  rw [q.leftmost_wanted] at hleft
  have hm : q.key s = [] ++ m := congrArg Prod.snd (Option.some.inj hleft)
  exact notMem_quote_of_scan q.head?_tail hscan (by rw [hm]; rfl)

end KeyQuery

/-! ## §4. The shape of the condition. -/

/-- The text sent reads as the intended condition, so that only rows carrying
    the key are selected. -/
def KeyQuery.Shape (q : KeyQuery) (s : Text) : Prop :=
  read (q.line s) = some (q.wanted s)
    ∧ ∀ (rows : List (Text → Text)) (cond : Cond), read (q.line s) = some cond →
      ∀ row ∈ rows.filter (fun row => holds row cond), q.Carries s row

/-- **When a request keeps the shape of the condition**: whatever the server
    and its destination, the method is one read under the line of its
    argument, and that line has the intended shape exactly if the argument
    contains no quote. -/
theorem condition_shape_iff (q : KeyQuery) (s : Text) :
    (∀ srv : SapServerQuery, q.perform srv s
        = srv.readLast (queryRequest q.table q.columns (q.line s)))
      ∧ (q.Shape s ↔ quote ∉ s) := by
  refine ⟨fun srv => q.perform_eq srv s, fun h => q.notMem_of_read_line h.1, fun h => ?_⟩
  have hread := q.read_line_of_notMem h
  refine ⟨hread, ?_⟩
  intro rows cond hcond row hrow
  rw [hread] at hcond
  cases hcond
  exact q.carries_of_holds (List.mem_filter.mp hrow).2

/-- An argument of sixteen units that closes the literal and adds a second
    comparison. -/
def injectedArgument : Text := text "x' OR AUFNR <> '"

/-- **That argument rewrites the condition.** -/
theorem injectedArgument_shape : ¬ KeyQuery.getOrderQty.Shape injectedArgument := by
  intro hshape
  obtain ⟨hread, -⟩ := hshape
  have hinjected : read (KeyQuery.getOrderQty.line injectedArgument)
      = some (.or (.eq (text "AUFNR") (text "x")) (.ne (text "AUFNR") [])) := by
    decide +kernel
  rw [hinjected] at hread
  cases hread

end SapDbLib
