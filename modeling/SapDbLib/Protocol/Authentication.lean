/-
  SapDbLib.Protocol.Authentication — THE HANDSHAKE BEFORE THE FIRST MESSAGE.

  `SaslClient` and `Connection.Authenticate`: the client names a mechanism,
  the peer answers with a line, and behind `BEGIN` the stream belongs to the
  messages.  The lines of the peer are read byte by byte, so that nothing of
  what follows them is taken from the stream.

    * `Connection.authenticate_iff` — **when a connection takes itself as
      authenticated**: the peer refuses less often than there are mechanisms,
      and then accepts or closes the stream;
    * `SaslClient.run_accepted` — **a peer that accepts is understood**: its
      GUID is read back, and the bytes behind its line are left.
-/
import SapDbLib.Library.Decimal
import SapDbLib.Library.Stateful
import SapDbLib.Protocol.TypeSignature

namespace SapDbLib

open Library ProtocolInformation

/-! ## §1. Hexadecimal texts. -/

namespace Sasl

/-- A digit of the format `x2`. -/
def hexDigit (n : Nat) : UInt16 := if n < 10 then (48 + n).toUInt16 else (87 + n).toUInt16

/-- `ToHex`. -/
def toHex (input : Bytes) : Text :=
  input.flatMap fun b => [hexDigit (b.toNat / 16), hexDigit (b.toNat % 16)]

/-- `FromHexChar`. -/
def fromHexChar (c : UInt16) : Except CSharpException UInt8 :=
  if 97 ≤ c ∧ c ≤ 102 then .ok (c - 97 + 10).toUInt8
  else if 65 ≤ c ∧ c ≤ 70 then .ok (c - 65 + 10).toUInt8
  else if 48 ≤ c ∧ c ≤ 57 then .ok (c - 48).toUInt8
  else .error (argumentException (text "Invalid hex char"))

/-- The loop of `Parse` over pairs of digits. -/
def fromHexPairs : Text → Except CSharpException Bytes
  | high :: low :: hex => do
      let h ← fromHexChar high
      let l ← fromHexChar low
      let data ← fromHexPairs hex
      return ((h <<< 4) + l) :: data
  | _ => return []

theorem length_toHex (input : Bytes) : (toHex input).length = 2 * input.length := by
  induction input with
  | nil => rfl
  | cons b input ih =>
      show (toHex input).length + 1 + 1 = 2 * (input.length + 1)
      omega

theorem fromHexChar_hexDigit : ∀ n < 16, fromHexChar (hexDigit n) = .ok n.toUInt8 := by decide

theorem byte_halves (b : UInt8) :
    ((b.toNat / 16).toUInt8 <<< 4) + (b.toNat % 16).toUInt8 = b := by
  have hall : ∀ n : Nat, n < 256 →
      ((n / 16).toUInt8 <<< 4) + (n % 16).toUInt8 = n.toUInt8 := by
    decide +kernel
  have hb := hall b.toNat b.toNat_lt
  rw [hb]
  exact UInt8.ofNat_toNat

/-- What `ToHex` writes is read back. -/
theorem fromHexPairs_toHex (input : Bytes) : fromHexPairs (toHex input) = .ok input := by
  induction input with
  | nil => rfl
  | cons b input ih =>
      have hb := b.toNat_lt
      have hhigh := fromHexChar_hexDigit (b.toNat / 16) (by omega)
      have hlow := fromHexChar_hexDigit (b.toNat % 16) (by omega)
      have hbyte := byte_halves b
      show (fromHexChar (hexDigit (b.toNat / 16)) >>= fun h =>
        fromHexChar (hexDigit (b.toNat % 16)) >>= fun l =>
          fromHexPairs (toHex input) >>= fun data => pure (((h <<< 4) + l) :: data)) = _
      rw [hhigh, hlow, ih]
      exact congrArg (fun x => Except.ok (x :: input)) hbyte

theorem length_fromHexPairs : (hex : Text) → {data : Bytes} → fromHexPairs hex = .ok data →
    data.length = hex.length / 2
  | high :: low :: hex, data, h => by
      obtain ⟨_, -, h⟩ := bind_eq_ok.mp h
      obtain ⟨_, -, h⟩ := bind_eq_ok.mp h
      obtain ⟨data', hdata, h⟩ := bind_eq_ok.mp h
      cases h
      have ih := length_fromHexPairs hex hdata
      simp only [List.length_cons]
      omega
  | [_], _, h => by
      cases h
      simp
  | [], _, h => by
      cases h
      rfl

/-- The digits are ASCII, and neither white space nor line ends. -/
theorem hexDigit_bounds :
    ∀ n < 16, 48 ≤ (hexDigit n).toNat ∧ (hexDigit n).toNat ≤ 102 := by decide

theorem mem_toHex {input : Bytes} {c : UInt16} (h : c ∈ toHex input) :
    48 ≤ c.toNat ∧ c.toNat ≤ 102 := by
  obtain ⟨b, -, hc⟩ := List.mem_flatMap.mp h
  have hb := b.toNat_lt
  have hcases : c = hexDigit (b.toNat / 16) ∨ c = hexDigit (b.toNat % 16) := by
    simpa using hc
  rcases hcases with rfl | rfl
  · exact hexDigit_bounds _ (by omega)
  · exact hexDigit_bounds _ (by omega)

end Sasl

/-! ## §2. Identifiers. -/

/-- `UUID`: its sixteen bytes as they stand in memory. -/
structure UUID where
  bytes : Bytes
  length_bytes : bytes.length = 16
  deriving DecidableEq

namespace UUID

/-- `Zero`. -/
def zero : UUID := ⟨List.replicate 16 0, rfl⟩

/-- `ToString`. -/
def toText (id : UUID) : Text := Sasl.toHex id.bytes

/-- `Parse`. -/
def parse (hex : Text) : Except CSharpException UUID :=
  if hlength : hex.length ≠ 32 then
    .error (exception (text "Cannot parse UUID/GUID of invalid length"))
  else
    match hdata : Sasl.fromHexPairs hex with
    | .error ex => .error ex
    | .ok result => .ok ⟨result, by rw [Sasl.length_fromHexPairs hex hdata, not_not.mp hlength]⟩

/-- An identifier is read back from its text. -/
theorem parse_toText (id : UUID) : parse id.toText = .ok id := by
  have hlength : ¬ id.toText.length ≠ 32 := by
    rw [toText, Sasl.length_toHex, id.length_bytes]
    decide
  have hread : Sasl.fromHexPairs id.toText = .ok id.bytes := Sasl.fromHexPairs_toHex id.bytes
  unfold parse
  rw [dif_neg hlength]
  split
  · next ex hdata =>
      rw [hread] at hdata
      cases hdata
  · next result hdata =>
      rw [hread] at hdata
      cases hdata
      rfl

end UUID

/-! ## §3. Lines. -/

/-- `AuthCommand`. -/
structure AuthCommand where
  value : Text

/-- The command of a line. -/
def AuthCommand.new (value : Text) : AuthCommand := ⟨trimmed value⟩

/-- The indexer: the parts between blanks, and the empty text behind them. -/
def AuthCommand.arg (command : AuthCommand) (index : Nat) : Text :=
  (command.value.splitOn blank).getD index []

/-- An exception without a message of its own. -/
def plainException : CSharpException :=
  exception (text "Exception of type 'System.Exception' was thrown.")

/-- `SaslPeer.GetEnumerator` up to its next command: the line that is read, if
    there is one, and the bytes behind it.  The client has `isFinalRead` set
    whenever it reads, so that the bytes are taken one by one. -/
def SaslPeer.moveNext (sb : Text) : Bytes → Except CSharpException (Option Text × Bytes)
  | [] => .ok (if sb = [] then none else some sb, [])
  -- empty lines are skipped
  | 13 :: 10 :: stream => if sb = [] then moveNext [] stream else .ok (some sb, stream)
  | 13 :: _ => .error plainException
  | a :: stream => moveNext (sb ++ [a.toUInt16]) stream

/-- `Encoding.ASCII`. -/
def asciiBytes (s : Text) : Bytes := s.map fun c => if c < 128 then c.toUInt8 else 63

/-- `WriteLine`. -/
def writeLine (s : Text) : Bytes := asciiBytes s ++ [13, 10]

/-! ## §4. The client. -/

/-- `AuthMech`, without `None`, behind which there is nothing to try. -/
inductive AuthMech where
  | external
  | anonymous
  deriving DecidableEq, Repr

/-- The mechanisms in the order in which `currMech` takes them. -/
def AuthMech.all : List AuthMech := [external, anonymous]

/-- What a handshake comes to: the commands that were sent and, if no
    exception gets out, `ActualId` and the bytes not read yet. -/
structure Handshake where
  sent : List Text
  outcome : Except CSharpException (UUID × Bytes)

/-- Commands sent before. -/
def Handshake.after (sent : List Text) (h : Handshake) : Handshake :=
  { h with sent := sent ++ h.sent }

/-- The command that names a mechanism. -/
def SaslClient.authCommand (identity : Text) : AuthMech → AuthCommand
  | .external => .new (text "AUTH EXTERNAL " ++ Sasl.toHex (asciiBytes identity))
  | .anonymous => .new (text "AUTH ANONYMOUS")

/-- The identifier in the line of a peer that accepts. -/
def SaslClient.readId (reply : AuthCommand) : Except CSharpException UUID :=
  if reply.arg 1 = [] then .ok UUID.zero else UUID.parse (reply.arg 1)

/-- `SaslClient.GetEnumerator`, run by `Run` over the bytes of the peer. -/
def SaslClient.run (identity : Text) : List AuthMech → Bytes → Handshake
  | [], _ => ⟨[], .error (exception (text "Authentication failure"))⟩
  | mech :: mechs, stream =>
      let auth := (authCommand identity mech).value
      match SaslPeer.moveNext [] stream with
      | .error ex => ⟨[auth], .error ex⟩
      -- the peer has closed the stream, which is no failure
      | .ok (none, stream) => ⟨[auth], .ok (UUID.zero, stream)⟩
      | .ok (some ln, stream) =>
          let reply := AuthCommand.new ln
          if reply.arg 0 = text "REJECTED" then (run identity mechs stream).after [auth]
          else if reply.arg 0 ≠ text "OK" then
            (run identity mechs stream).after [auth, text "ERROR"]
          else
            match readId reply with
            | .error ex => ⟨[auth], .error ex⟩
            | .ok actualId => ⟨[auth, text "BEGIN"], .ok (actualId, stream)⟩

/-- `Connection.Authenticate`: the identifier of the connection, and the bytes
    behind the handshake. -/
def Connection.authenticate (id : UUID) (identity : Text) (stream : Bytes) :
    Except CSharpException (UUID × Bytes) := do
  let (actualId, stream) ← (SaslClient.run identity AuthMech.all stream).outcome
  if id ≠ UUID.zero ∧ actualId ≠ id then
    throw (exception (text "Authentication failure: Unexpected GUID"))
  return (if id = UUID.zero then actualId else id, stream)

/-! ## §5. When a connection is authenticated. -/

section Client

variable {stream stream' rest : Bytes} {id : UUID} {identity : Text} {mech : AuthMech}
  {mechs : List AuthMech}

/-- The peer answers with a line that does not accept. -/
def Refuses (stream stream' : Bytes) : Prop :=
  ∃ ln, SaslPeer.moveNext [] stream = .ok (some ln, stream')
    ∧ (AuthCommand.new ln).arg 0 ≠ text "OK"

/-- The peer accepts, and its line holds an identifier. -/
def Accepts (stream : Bytes) (id : UUID) (stream' : Bytes) : Prop :=
  ∃ ln, SaslPeer.moveNext [] stream = .ok (some ln, stream')
    ∧ (AuthCommand.new ln).arg 0 = text "OK" ∧ SaslClient.readId (.new ln) = .ok id

/-- The peer closes the stream instead of an answer. -/
def Closes (stream stream' : Bytes) : Prop := SaslPeer.moveNext [] stream = .ok (none, stream')

/-- So many answers that do not accept. -/
inductive RefusesTimes : Nat → Bytes → Bytes → Prop where
  | never {stream : Bytes} : RefusesTimes 0 stream stream
  | again {n : Nat} {stream stream' stream'' : Bytes} (first : Refuses stream stream')
      (others : RefusesTimes n stream' stream'') : RefusesTimes (n + 1) stream stream''

namespace SaslClient

theorem run_refuses (h : Refuses stream stream') :
    ∃ sent, run identity (mech :: mechs) stream = (run identity mechs stream').after sent := by
  obtain ⟨ln, hline, hrefused⟩ := h
  rw [run, hline]
  dsimp only
  by_cases hrejected : (AuthCommand.new ln).arg 0 = text "REJECTED"
  · rw [if_pos hrejected]
    exact ⟨_, rfl⟩
  · rw [if_neg hrejected, if_pos hrefused]
    exact ⟨_, rfl⟩

theorem run_accepts (h : Accepts stream id stream') :
    run identity (mech :: mechs) stream
      = ⟨[(authCommand identity mech).value, text "BEGIN"], .ok (id, stream')⟩ := by
  obtain ⟨ln, hline, hok, hid⟩ := h
  have hrejected : ¬ (AuthCommand.new ln).arg 0 = text "REJECTED" := by
    rw [hok]
    decide
  unfold run
  rw [hline]
  dsimp only
  rw [if_neg hrejected, if_neg (not_not.mpr hok), hid]

theorem run_closes (h : Closes stream stream') :
    run identity (mech :: mechs) stream
      = ⟨[(authCommand identity mech).value], .ok (UUID.zero, stream')⟩ := by
  unfold run
  rw [h]

/-- What the peer can do to a mechanism. -/
theorem run_cases (identity : Text) (mech : AuthMech) (mechs : List AuthMech) (stream : Bytes) :
    (∃ stream', Refuses stream stream') ∨ (∃ id stream', Accepts stream id stream')
      ∨ (∃ stream', Closes stream stream')
      ∨ ∃ ex, (run identity (mech :: mechs) stream).outcome = .error ex := by
  cases hline : SaslPeer.moveNext [] stream with
  | error ex =>
      refine Or.inr (Or.inr (Or.inr ⟨ex, ?_⟩))
      unfold run
      rw [hline]
  | ok line =>
      obtain ⟨_ | ln, stream'⟩ := line
      · exact Or.inr (Or.inr (Or.inl ⟨stream', hline⟩))
      · by_cases hok : (AuthCommand.new ln).arg 0 = text "OK"
        · cases hid : readId (.new ln) with
          | error ex =>
              have hrejected : ¬ (AuthCommand.new ln).arg 0 = text "REJECTED" := by
                rw [hok]
                decide
              refine Or.inr (Or.inr (Or.inr ⟨ex, ?_⟩))
              unfold run
              rw [hline]
              dsimp only
              rw [if_neg hrejected, if_neg (not_not.mpr hok), hid]
          | ok id => exact Or.inr (Or.inl ⟨id, stream', ln, hline, hok, hid⟩)
        · exact Or.inl ⟨stream', ln, hline, hok⟩

/-- **The client has an identifier** if the peer refuses less often than there
    are mechanisms, and then accepts with it or closes the stream. -/
theorem run_ok_iff :
    (run identity mechs stream).outcome = .ok (id, rest)
      ↔ ∃ n stream', n < mechs.length ∧ RefusesTimes n stream stream'
        ∧ (Accepts stream' id rest ∨ Closes stream' rest ∧ id = UUID.zero) := by
  constructor
  · intro h
    induction mechs generalizing stream with
    | nil => cases h
    | cons mech mechs ih =>
        rcases run_cases identity mech mechs stream with
          ⟨stream', hrefuses⟩ | ⟨id', stream', haccepts⟩ | ⟨stream', hcloses⟩ | ⟨ex, hex⟩
        · obtain ⟨sent, hrun⟩ := @run_refuses stream stream' identity mech mechs hrefuses
          rw [hrun] at h
          obtain ⟨n, s, hn, htimes, hend⟩ := ih h
          exact ⟨n + 1, s, Nat.succ_lt_succ hn, .again hrefuses htimes, hend⟩
        · rw [run_accepts haccepts] at h
          cases h
          exact ⟨0, stream, Nat.succ_pos _, .never, Or.inl haccepts⟩
        · rw [run_closes hcloses] at h
          cases h
          exact ⟨0, stream, Nat.succ_pos _, .never, Or.inr ⟨hcloses, rfl⟩⟩
        · rw [hex] at h
          cases h
  · rintro ⟨n, stream', hn, htimes, hend⟩
    induction htimes generalizing mechs with
    | never =>
        obtain ⟨mech, mechs, rfl⟩ := List.exists_cons_of_length_pos hn
        rcases hend with haccepts | ⟨hcloses, rfl⟩
        · rw [run_accepts haccepts]
        · rw [run_closes hcloses]
    | again first _ ih =>
        obtain ⟨mech, mechs, rfl⟩ := List.exists_cons_of_length_pos (Nat.zero_lt_of_lt hn)
        obtain ⟨sent, hrun⟩ := @run_refuses _ _ identity mech mechs first
        rw [hrun]
        exact ih (Nat.lt_of_succ_lt_succ hn) hend

end SaslClient

/-- **A connection is authenticated** exactly if its peer refuses at most once
    and then accepts, with the GUID of the address if that names one, or if
    the address names none and the peer closes the stream; the bytes behind
    the answer are left for the messages. -/
theorem Connection.authenticate_iff {expected : UUID} :
    Connection.authenticate expected identity stream = .ok (id, rest)
      ↔ ∃ n stream', n < 2 ∧ RefusesTimes n stream stream'
        ∧ (expected = UUID.zero ∨ expected = id)
        ∧ (Accepts stream' id rest ∨ Closes stream' rest ∧ id = UUID.zero) := by
  have hrun : Connection.authenticate expected identity stream = .ok (id, rest)
      ↔ (expected = UUID.zero ∨ expected = id)
        ∧ (SaslClient.run identity AuthMech.all stream).outcome = .ok (id, rest) := by
    unfold Connection.authenticate
    rw [bind_eq_ok]
    constructor
    · rintro ⟨⟨actual, left⟩, houtcome, h⟩
      rw [houtcome]
      dsimp only at h
      by_cases hzero : expected = UUID.zero
      · rw [if_neg fun h => h.1 hzero] at h
        simp only [if_pos hzero] at h
        cases h
        exact ⟨Or.inl hzero, rfl⟩
      · by_cases hsame : actual = expected
        · rw [if_neg fun h => h.2 hsame] at h
          simp only [if_neg hzero] at h
          cases h
          exact ⟨Or.inr rfl, by rw [hsame]⟩
        · rw [if_pos ⟨hzero, hsame⟩] at h
          cases h
    · rintro ⟨hexpected, houtcome⟩
      refine ⟨(id, rest), houtcome, ?_⟩
      dsimp only
      by_cases hzero : expected = UUID.zero
      · rw [if_neg fun h => h.1 hzero]
        simp only [if_pos hzero]
        rfl
      · obtain rfl := hexpected.resolve_left hzero
        rw [if_neg fun h => h.2 rfl]
        simp only [if_neg hzero]
        rfl
  rw [hrun, SaslClient.run_ok_iff]
  constructor
  · rintro ⟨hexpected, n, stream', hn, htimes, hend⟩
    exact ⟨n, stream', hn, htimes, hexpected, hend⟩
  · rintro ⟨n, stream', hn, htimes, hexpected, hend⟩
    exact ⟨hexpected, n, stream', hn, htimes, hend⟩

/-- A line that is written is read. -/
theorem moveNext_writeLine {sb s : Text} (hs : ∀ c ∈ s, c < 128 ∧ c ≠ 13)
    (hne : sb ++ s ≠ []) :
    SaslPeer.moveNext sb (writeLine s ++ rest) = .ok (some (sb ++ s), rest) := by
  induction s generalizing sb with
  | nil =>
      rw [List.append_nil] at hne ⊢
      show SaslPeer.moveNext sb (13 :: 10 :: rest) = _
      rw [SaslPeer.moveNext, if_neg hne]
  | cons c s ih =>
      obtain ⟨hc, hreturn⟩ := hs c List.mem_cons_self
      have hbyte : c.toUInt8.toUInt16 = c := by
        rw [← UInt16.toNat_inj, UInt8.toNat_toUInt16, UInt16.toNat_toUInt8]
        have hlt : c.toNat < 128 := hc
        omega
      have hne' : c.toUInt8 ≠ 13 := by
        intro h
        rw [h] at hbyte
        exact hreturn hbyte.symm
      have hwritten : writeLine (c :: s) ++ rest = c.toUInt8 :: (writeLine s ++ rest) := by
        have hfirst : asciiBytes (c :: s) = c.toUInt8 :: asciiBytes s := by
          show (if c < 128 then c.toUInt8 else 63) :: asciiBytes s = _
          rw [if_pos hc]
        unfold writeLine
        rw [hfirst]
        rfl
      rw [hwritten, SaslPeer.moveNext.eq_4 _ _ _ (fun _ h _ => hne' h) hne', hbyte,
        ih (fun c' hc' => hs c' (List.mem_cons_of_mem _ hc')) (by simp), List.append_assoc]
      rfl

/-- The line of a peer that accepts. -/
theorem accepts_writeLine (guid : UUID) :
    Accepts (writeLine (text "OK " ++ guid.toText) ++ rest) guid rest := by
  have hdigits : ∀ c ∈ guid.toText, 48 ≤ c.toNat ∧ c.toNat ≤ 102 := fun c hc =>
    Sasl.mem_toHex hc
  have hlength : guid.toText.length = 32 := by
    rw [UUID.toText, Sasl.length_toHex, guid.length_bytes]
  have hnil : guid.toText ≠ [] := by
    intro h
    rw [h] at hlength
    cases hlength
  have hascii : ∀ c ∈ text "OK " ++ guid.toText, c < 128 ∧ c ≠ 13 := by
    intro c hc
    rcases List.mem_append.mp hc with hc | hc
    · have hcases : c = 79 ∨ c = 75 ∨ c = 32 := by
        have hok : text "OK " = [79, 75, 32] := by decide
        simpa [hok] using hc
      rcases hcases with rfl | rfl | rfl <;> decide
    · obtain ⟨hlow, hhigh⟩ := hdigits c hc
      refine ⟨?_, ?_⟩
      · show c.toNat < 128
        omega
      · rintro rfl
        exact absurd hlow (by decide)
  -- there is nothing to trim, and one blank
  have htrimmed : trimmed (text "OK " ++ guid.toText) = text "OK " ++ guid.toText := by
    have htrim := @trimmed_eq [] (text "OK " ++ guid.toText) [] (by simp) (by simp)
    rw [List.nil_append, List.append_nil] at htrim
    refine htrim ?_ ?_ (by simp [hnil])
    · intro c hc
      cases hc
      decide
    · intro c hc
      rw [List.getLast?_append_of_ne_nil _ hnil] at hc
      obtain ⟨hlow, hhigh⟩ := hdigits c (List.mem_of_mem_getLast? hc)
      rw [Bool.eq_false_iff]
      intro hspace
      have hbounds : c.toNat ≤ 32 ∨ 133 ≤ c.toNat := isSpace_bounds hspace
      omega
  have hsplit : (text "OK " ++ guid.toText).splitOn blank = [text "OK", guid.toText] := by
    have hjoin : text "OK " ++ guid.toText
        = [blank].intercalate [text "OK", guid.toText] := by
      simp [List.intercalate, List.intersperse]
      rfl
    rw [hjoin]
    refine List.splitOn_intercalate blank ?_ (List.cons_ne_nil _ _)
    intro part hpart
    rcases List.mem_pair.mp hpart with rfl | rfl
    · decide
    · intro hblank
      exact absurd (hdigits blank hblank).1 (by decide)
  have hargs : ∀ i, (AuthCommand.new (text "OK " ++ guid.toText)).arg i
      = [text "OK", guid.toText].getD i [] := by
    intro i
    unfold AuthCommand.arg AuthCommand.new
    rw [htrimmed, hsplit]
  refine ⟨text "OK " ++ guid.toText, ?_, hargs 0, ?_⟩
  · exact moveNext_writeLine hascii (by simp [hnil])
  · unfold SaslClient.readId
    rw [hargs 1]
    show (if guid.toText = [] then _ else UUID.parse guid.toText) = _
    rw [if_neg hnil, guid.parse_toText]

/-- **A peer that accepts is understood**, whatever it is called and whatever
    it sends behind its line: the client begins, has the GUID, and leaves the
    rest to be read as messages. -/
theorem SaslClient.run_accepted (identity : Text) (guid : UUID) (rest : Bytes) :
    run identity AuthMech.all (writeLine (text "OK " ++ guid.toText) ++ rest)
      = ⟨[(authCommand identity .external).value, text "BEGIN"], .ok (guid, rest)⟩ :=
  run_accepts (accepts_writeLine guid)

end Client

end SapDbLib
