/-
  SapDbLib.Protocol.Transport — MESSAGES ON A STREAM.

  `ReadMessage` and `WriteMessage` of `Transport`: sixteen bytes, from which
  the lengths of the rest are known, then the header and the body.  A stream
  gives what has arrived; it ends when the peer closes it or when it is reset.

    * `readMessage_pieces` — **where the bytes are cut does not matter**;
    * `delivers_iff` — **what is delivered** are the messages of frames, and
      the bytes behind the frame are left;
    * `messages_delivered` — **a sequence of messages arrives** as it was
      sent, an empty body as none, and then the end;
    * `truncated_not_delivered` — a message is never delivered in part.

  Lengths are `int` here, also where the format has `uint`: `toRead` and
  `bodyLen` may be negative.
-/
import SapDbLib.Library.Segments
import SapDbLib.Protocol.Header

namespace SapDbLib

open Library ProtocolInformation MessageReader

/-! ## §1. Messages and streams. -/

/-- `Message`, with its body or null. -/
@[ext] structure Protocol.Message where
  header : Header
  body : Option Bytes

/-- What a stream still gives, and whether it ends with a reset. -/
structure NetworkStream where
  pieces : Segments
  reset : Bool

/-- The bytes that are still to come. -/
def NetworkStream.bytes (s : NetworkStream) : Bytes := s.pieces.bytes

/-- Why reading a message stops. -/
inductive TransportFault where
  | ioException
  | fault (fault : ReadFault)
  deriving DecidableEq, Repr

/-- What is done with a stream. -/
abbrev Incoming (α : Type) := Stateful TransportFault NetworkStream α

/-- An exception of the code. -/
def throwIncoming {α : Type} (ex : CSharpException) : Incoming α := throw (.fault (.exception ex))

/-- A computation without the stream. -/
def liftRead {α : Type} : Except ReadFault α → Incoming α
  | .ok a => pure a
  | .error f => throw (.fault f)

/-- `Transport.Read`: the loop of `stream.Read`. -/
def NetworkStream.read (count : Nat) : Incoming Bytes := do
  let s ← get
  let (bytes, rest) := s.pieces.receive count
  if bytes.length < count ∧ s.reset = true then throw .ioException
  else
    set { s with pieces := rest }
    return bytes

/-! ## §2. `ReadMessage`. -/

/-- An `int` after wrapping around. -/
def wrapInt (n : Int) : Int := n.bmod 4294967296

/-- `Padded` of an `int`. -/
def paddedInt (pos alignment : Int) : Int :=
  if pos.tmod alignment ≠ 0 then wrapInt (pos + (alignment - pos.tmod alignment)) else pos

/-- `System.OverflowException`. -/
def overflowException : CSharpException :=
  .other (text "System.OverflowException") (text "Arithmetic operation resulted in an overflow.")

/-- `toRead` and `bodyLen`, read from the fixed part of the header. -/
def readLengths (e : Endian) (hbuf : Bytes) : Reader (Int × Int) := do
  -- the endian byte, the message type and the flags do not matter here
  MessageReader.seek hbuf 3
  let version ← readByte hbuf
  if 2 < version.toNat then
    throwEx (notSupportedException (text "Protocol version '" ++ decimal version.toNat
      ++ text "' is not supported"))
  else
    let bodyLength ← readPrimitive e hbuf .uint32
    let _serial ← readPrimitive e hbuf .uint32
    let headerLength ← readPrimitive e hbuf .uint32
    return (paddedInt headerLength.toInt 8, bodyLength.toInt)

/-- The same, in the order that the first byte names. -/
def frameLengths (native : ByteOrder) (hbuf : Bytes) : Except ReadFault (Int × Int) := do
  let (lengths, _) ← readLengths { native := native, endianness := hbuf.headD 0 } hbuf 0
  return lengths

section ReadMessage

variable (sameKey : {k : ClrType} → Value k → Value k → Bool) (native : ByteOrder)

/-- The part of `ReadMessageReal` behind the fixed part of the header. -/
def readRest (hbuf : Bytes) (toRead bodyLen : Int) : Incoming Protocol.Message := do
  if (134217728 : Int) < wrapInt (toRead + bodyLen) then
    throwIncoming (exception (text "Message length " ++ decimal (wrapInt (toRead + bodyLen)).toNat
      ++ text " exceeds maximum allowed 134217728 bytes"))
  else if wrapInt (16 + toRead) < 0 then throwIncoming overflowException
  -- `Array.Copy (hbuf, header, 16)`
  else if wrapInt (16 + toRead) < 16 then
    throwIncoming (argumentException (text "Destination array was not long enough."))
  else
    let fields ← NetworkStream.read toRead.toNat
    if fields.length ≠ toRead.toNat then
      throwIncoming (exception (text "Message header length mismatch: " ++ decimal fields.length
        ++ text " of expected " ++ decimal toRead.toNat))
    else if bodyLen = 0 then
      let header ← liftRead (Header.fromBytes sameKey native (hbuf ++ fields))
      return { header := header, body := none }
    else if bodyLen < 0 then throwIncoming overflowException
    else
      let body ← NetworkStream.read bodyLen.toNat
      if body.length ≠ bodyLen.toNat then
        throwIncoming (exception (text "Message body length mismatch: " ++ decimal body.length
          ++ text " of expected " ++ decimal bodyLen.toNat))
      else
        let header ← liftRead (Header.fromBytes sameKey native (hbuf ++ fields))
        return { header := header, body := some body }

/-- `ReadMessageReal`. -/
def readMessageReal : Incoming (Option Protocol.Message) := do
  let hbuf ← NetworkStream.read 16
  if hbuf.length = 0 then return none
  else if hbuf.length ≠ 16 then
    throwIncoming (exception (text "Header read length mismatch: " ++ decimal hbuf.length
      ++ text " of expected 16"))
  else
    let (toRead, bodyLen) ← liftRead (frameLengths native hbuf)
    let msg ← readRest sameKey native hbuf toRead bodyLen
    return some msg

/-- What `ReadMessage` returns: a message or null, the stream behind it, and
    whether the connection was lost. -/
structure Received where
  message : Option Protocol.Message
  lost : Bool
  stream : NetworkStream

/-- `ReadMessage`. -/
def readMessage (s : NetworkStream) : Except ReadFault Received :=
  match readMessageReal sameKey native s with
  | .ok (msg, rest) => .ok { message := msg, lost := false, stream := rest }
  | .error .ioException => .ok { message := none, lost := true, stream := { s with pieces := [] } }
  | .error (.fault f) => .error f

end ReadMessage

/-- `WriteMessage`: the bytes that go to the stream. -/
def writeMessage (native : ByteOrder) (msg : Protocol.Message) : Except CSharpException Bytes := do
  let (_, stream) ← msg.header.write native ⟨[], 0⟩
  return stream.buffer ++ msg.body.getD []

/-! ## §3. Where the bytes are cut. -/

/-- Streams that differ in the pieces only. -/
def NetworkStream.SameBytes (s t : NetworkStream) : Prop :=
  s.bytes = t.bytes ∧ s.reset = t.reset

theorem NetworkStream.read_eq (count : Nat) (s : NetworkStream) :
    NetworkStream.read count s
      = if (s.bytes.take count).length < count ∧ s.reset = true then .error .ioException
        else .ok (s.bytes.take count, { s with pieces := (s.pieces.receive count).2 }) := by
  show (if (s.pieces.receive count).1.length < count ∧ s.reset = true then throw _ else _ :
    Incoming Bytes) s = _
  rw [Segments.receive_fst]
  show (if (s.bytes.take count).length < count ∧ s.reset = true then throw _ else _ :
    Incoming Bytes) s = _
  split_ifs <;> rfl

theorem alike_read (count : Nat) :
    Alike NetworkStream.SameBytes (NetworkStream.read count) (NetworkStream.read count) := by
  intro s t hst
  rw [NetworkStream.read_eq, NetworkStream.read_eq, hst.1, hst.2]
  split_ifs
  · exact Or.inl ⟨.ioException, rfl, rfl⟩
  · refine Or.inr ⟨_, _, _, rfl, rfl, ?_, rfl⟩
    show (s.pieces.receive count).2.bytes = (t.pieces.receive count).2.bytes
    rw [Segments.bytes_receive_snd, Segments.bytes_receive_snd]
    exact congrArg (List.drop count) hst.1

theorem alike_throwIncoming {α : Type} (ex : CSharpException) :
    Alike NetworkStream.SameBytes (throwIncoming ex : Incoming α) (throwIncoming ex) :=
  alike_throw _

theorem alike_liftRead {α : Type} (r : Except ReadFault α) :
    Alike NetworkStream.SameBytes (liftRead r) (liftRead r) := by
  cases r with
  | error f => exact alike_throw _
  | ok a => exact alike_pure a

section Pieces

variable {sameKey : {k : ClrType} → Value k → Value k → Bool} {native : ByteOrder}

theorem alike_readRest (hbuf : Bytes) (toRead bodyLen : Int) :
    Alike NetworkStream.SameBytes (readRest sameKey native hbuf toRead bodyLen)
      (readRest sameKey native hbuf toRead bodyLen) := by
  unfold readRest
  refine (alike_throwIncoming _).ite ((alike_throwIncoming _).ite ((alike_throwIncoming _).ite
    ((alike_read _).bind fun fields => (alike_throwIncoming _).ite (Alike.ite ?_
      ((alike_throwIncoming _).ite ((alike_read _).bind fun body =>
        (alike_throwIncoming _).ite ?_))))))
  · exact (alike_liftRead _).bind fun header => alike_pure _
  · exact (alike_liftRead _).bind fun header => alike_pure _

theorem alike_readMessageReal :
    Alike NetworkStream.SameBytes (readMessageReal sameKey native)
      (readMessageReal sameKey native) := by
  unfold readMessageReal
  refine (alike_read 16).bind fun hbuf => (alike_pure none).ite ((alike_throwIncoming _).ite ?_)
  exact (alike_liftRead _).bind fun lengths => (alike_readRest hbuf _ _).bind fun msg =>
    alike_pure _

variable (sameKey native) in
/-- What `n` calls of `ReadMessage` come back with, up to an exception. -/
def outcomes : Nat → NetworkStream → List (Except ReadFault (Option Protocol.Message × Bool))
  | 0, _ => []
  | n + 1, s =>
      match readMessage sameKey native s with
      | .error f => [.error f]
      | .ok r => .ok (r.message, r.lost) :: outcomes n r.stream

/-- **Where the bytes are cut does not matter**, however often a message is
    read and whatever the bytes are. -/
theorem readMessage_pieces {s t : NetworkStream} (h : s.SameBytes t) (n : Nat) :
    outcomes sameKey native n s = outcomes sameKey native n t := by
  induction n generalizing s t with
  | zero => rfl
  | succ n ih =>
      rw [outcomes, outcomes]
      have hreal : Alike NetworkStream.SameBytes (readMessageReal sameKey native)
          (readMessageReal sameKey native) := alike_readMessageReal
      rcases hreal s t h with ⟨f, hs, ht⟩ | ⟨msg, s', t', hs, ht, h'⟩
      · rw [readMessage, readMessage, hs, ht]
        cases f with
        | ioException =>
            have hlost : NetworkStream.SameBytes { s with pieces := [] } { t with pieces := [] } :=
              ⟨rfl, h.2⟩
            dsimp only
            rw [ih hlost]
        | fault f => rfl
      · rw [readMessage, readMessage, hs, ht]
        dsimp only
        rw [ih h']

theorem readMessage_pieces_garbage :
    outcomes (fun _ _ => false) .bigEndian 3 ⟨[(1, [2])], false⟩
      = outcomes (fun _ _ => false) .bigEndian 3 ⟨[(1, []), (2, [])], false⟩ :=
  readMessage_pieces ⟨rfl, rfl⟩ 3

end Pieces

/-! ## §4. Frames. -/

section Frames

variable {sameKey : {k : ClrType} → Value k → Value k → Bool} {native : ByteOrder}
  {s s' : NetworkStream} {m : Protocol.Message}

/-- The lengths pass all checks of `ReadMessageReal`. -/
def LengthsOk (toRead bodyLen : Int) : Prop :=
  wrapInt (toRead + bodyLen) ≤ 134217728 ∧ 16 ≤ wrapInt (16 + toRead) ∧ 0 ≤ bodyLen

variable (sameKey native) in
/-- The parts of a frame: the fixed part of the header, the rest of it, and
    the body. -/
structure FrameParts (hbuf fields body : Bytes) (m : Protocol.Message) : Prop where
  fixed : hbuf.length = 16
  lengths : ∃ bodyLen : Int, frameLengths native hbuf = .ok (fields.length, bodyLen)
    ∧ LengthsOk fields.length bodyLen ∧ body.length = bodyLen.toNat
  header : Header.fromBytes sameKey native (hbuf ++ fields) = .ok m.header
  body : m.body = if body = [] then none else some body

variable (sameKey native) in
/-- The bytes of a message on the stream. -/
def IsFrame (frame : Bytes) (m : Protocol.Message) : Prop :=
  ∃ hbuf fields body, frame = hbuf ++ fields ++ body ∧ FrameParts sameKey native hbuf fields body m

/-- What a successful read gives and leaves. -/
theorem runs_read {count : Nat} {bytes : Bytes} (h : Runs (NetworkStream.read count) s bytes s') :
    bytes = s.bytes.take count ∧ s'.bytes = s.bytes.drop count ∧ s'.reset = s.reset := by
  unfold Runs at h
  rw [NetworkStream.read_eq] at h
  split_ifs at h
  cases h
  exact ⟨rfl, Segments.bytes_receive_snd _ _, rfl⟩

/-- A read of bytes that are there. -/
theorem read_runs {count : Nat} (h : count ≤ s.bytes.length) :
    ∃ s', Runs (NetworkStream.read count) s (s.bytes.take count) s'
      ∧ s'.bytes = s.bytes.drop count ∧ s'.reset = s.reset := by
  have hlen : (s.bytes.take count).length = count := by rw [List.length_take]; omega
  refine ⟨{ s with pieces := (s.pieces.receive count).2 }, ?_,
    Segments.bytes_receive_snd count s.pieces, rfl⟩
  unfold Runs
  rw [NetworkStream.read_eq, if_neg (by omega)]

theorem runs_liftRead {α : Type} {r : Except ReadFault α} {a : α} :
    Runs (liftRead r) s a s' ↔ r = .ok a ∧ s = s' := by
  cases r with
  | error f => exact ⟨fun h => absurd h runs_throw, fun h => by cases h.1⟩
  | ok b =>
      show Runs (pure b) s a s' ↔ _
      rw [runs_pure, Except.ok.injEq]

theorem paddedInt_bounds {pos : Int} (hlow : -2147483648 ≤ pos) (hhigh : pos < 2147483648) :
    -2147483648 ≤ paddedInt pos 8 ∧ paddedInt pos 8 < 2147483648 := by
  unfold paddedInt wrapInt
  split_ifs
  · exact ⟨Int.le_bmod (by decide), Int.bmod_lt (by decide)⟩
  · exact ⟨hlow, hhigh⟩

theorem toInt_bounds (v : BitVec 32) : -2147483648 ≤ v.toInt ∧ v.toInt < 2147483648 := by
  have hlow : -(2 ^ 32) ≤ 2 * v.toInt := BitVec.le_two_mul_toInt
  have hhigh : 2 * v.toInt < 2 ^ 32 := BitVec.two_mul_toInt_lt
  omega

/-- The lengths are values of type `int`. -/
theorem frameLengths_bounds {hbuf : Bytes} {toRead bodyLen : Int}
    (h : frameLengths native hbuf = .ok (toRead, bodyLen)) :
    -2147483648 ≤ toRead ∧ toRead < 2147483648 := by
  unfold frameLengths at h
  obtain ⟨⟨lengths, pos⟩, hrun, h⟩ := bind_eq_ok.mp h
  cases h
  obtain ⟨u, p, -, hrun⟩ := runs_bind.mp hrun
  obtain ⟨version, p, -, hrun⟩ := runs_bind.mp hrun
  rw [runs_ite] at hrun
  split_ifs at hrun
  · exact absurd hrun runs_throw
  · obtain ⟨bodyLength, p, -, hrun⟩ := runs_bind.mp hrun
    obtain ⟨serial, p, -, hrun⟩ := runs_bind.mp hrun
    obtain ⟨headerLength, p, -, hrun⟩ := runs_bind.mp hrun
    cases (runs_pure.mp hrun).1
    obtain ⟨hlow, hhigh⟩ := toInt_bounds headerLength
    exact paddedInt_bounds hlow hhigh

/-- Nothing but a length of `int` passes the checks as it is. -/
theorem LengthsOk.toRead_nonneg {toRead bodyLen : Int} (h : LengthsOk toRead bodyLen)
    (hlow : -2147483648 ≤ toRead) (hhigh : toRead < 2147483648) : 0 ≤ toRead := by
  have hwrap := h.2.1
  unfold wrapInt at hwrap
  by_contra hneg
  rw [Int.bmod_eq_of_le (by omega) (by omega)] at hwrap
  omega

/-- The steps behind the fixed part of the header. -/
theorem runs_readRest {hbuf : Bytes} {toRead bodyLen : Int} (hlow : -2147483648 ≤ toRead)
    (hhigh : toRead < 2147483648) (h : Runs (readRest sameKey native hbuf toRead bodyLen) s m s') :
    ∃ fields body, s.bytes = fields ++ body ++ s'.bytes ∧ s'.reset = s.reset
      ∧ LengthsOk toRead bodyLen ∧ (fields.length : Int) = toRead
      ∧ body.length = bodyLen.toNat
      ∧ Header.fromBytes sameKey native (hbuf ++ fields) = .ok m.header
      ∧ m.body = if body = [] then none else some body := by
  obtain ⟨h₁, h⟩ := runs_unless.mp h
  obtain ⟨h₂, h⟩ := runs_unless.mp h
  obtain ⟨h₃, h⟩ := runs_unless.mp h
  obtain ⟨fields, s₁, hfields, h⟩ := runs_bind.mp h
  obtain ⟨rfl, hbytes₁, hreset₁⟩ := runs_read hfields
  obtain ⟨hlen, h⟩ := runs_unless.mp h
  rw [not_ne_iff] at hlen
  have hsplit : s.bytes = s.bytes.take toRead.toNat ++ s₁.bytes := by
    rw [hbytes₁, List.take_append_drop]
  rw [runs_ite] at h
  by_cases hzero : bodyLen = 0
  · rw [if_pos hzero] at h
    obtain ⟨header, s₂, hheader, h⟩ := runs_bind.mp h
    obtain ⟨hfrom, rfl⟩ := runs_liftRead.mp hheader
    obtain ⟨rfl, rfl⟩ := runs_pure.mp h
    have hok : LengthsOk toRead bodyLen := ⟨by omega, by omega, by omega⟩
    have hnonneg := hok.toRead_nonneg hlow hhigh
    refine ⟨s.bytes.take toRead.toNat, [], ?_, hreset₁, hok, by omega, ?_, hfrom, rfl⟩
    · rw [List.append_nil]
      exact hsplit
    · rw [hzero]
      rfl
  · rw [if_neg hzero] at h
    obtain ⟨hpos, h⟩ := runs_unless.mp h
    obtain ⟨body, s₂, hbody, h⟩ := runs_bind.mp h
    obtain ⟨rfl, hbytes₂, hreset₂⟩ := runs_read hbody
    obtain ⟨hbodyLen, h⟩ := runs_unless.mp h
    rw [not_ne_iff] at hbodyLen
    obtain ⟨header, s₃, hheader, h⟩ := runs_bind.mp h
    obtain ⟨hfrom, rfl⟩ := runs_liftRead.mp hheader
    obtain ⟨rfl, rfl⟩ := runs_pure.mp h
    have hok : LengthsOk toRead bodyLen := ⟨by omega, by omega, by omega⟩
    have hnonneg := hok.toRead_nonneg hlow hhigh
    have hne : s₁.bytes.take bodyLen.toNat ≠ [] := by
      apply List.ne_nil_of_length_pos
      omega
    refine ⟨s.bytes.take toRead.toNat, s₁.bytes.take bodyLen.toNat, ?_, hreset₂.trans hreset₁,
      hok, by omega, hbodyLen, hfrom, ?_⟩
    · rw [hbytes₂, List.append_assoc, List.take_append_drop]
      exact hsplit
    · rw [if_neg hne]

/-- A frame's rest is read. -/
theorem readRest_runs {hbuf fields body rest : Bytes} {bodyLen : Int}
    (hok : LengthsOk fields.length bodyLen) (hbody : body.length = bodyLen.toNat)
    (hheader : Header.fromBytes sameKey native (hbuf ++ fields) = .ok m.header)
    (hm : m.body = if body = [] then none else some body)
    (hs : s.bytes = fields ++ body ++ rest) :
    ∃ s', Runs (readRest sameKey native hbuf fields.length bodyLen) s m s' ∧ s'.bytes = rest
      ∧ s'.reset = s.reset := by
  have hlength := congrArg List.length hs
  simp only [List.length_append] at hlength
  obtain ⟨s₁, hread₁, hbytes₁, hreset₁⟩ :=
    read_runs (show fields.length ≤ s.bytes.length by omega)
  rw [hs, List.append_assoc, List.take_left] at hread₁
  rw [hs, List.append_assoc, List.drop_left] at hbytes₁
  obtain ⟨hlimit, hroom, hnonneg⟩ := hok
  have htoNat : (fields.length : Int).toNat = fields.length := Int.toNat_natCast _
  unfold readRest
  rw [if_neg (by omega), if_neg (by omega), if_neg (by omega), htoNat]
  by_cases hzero : bodyLen = 0
  · have hnil : body = [] := by
      apply List.eq_nil_of_length_eq_zero
      rw [hbody, hzero]
      rfl
    rw [hnil] at hbytes₁ hm
    refine ⟨s₁, hread₁.bind ?_, hbytes₁, hreset₁⟩
    rw [if_neg (by simp), if_pos hzero]
    exact (runs_liftRead.mpr ⟨hheader, rfl⟩).bind
      (runs_pure.mpr ⟨Protocol.Message.ext rfl hm.symm, rfl⟩)
  · have hne : body ≠ [] := by
      apply List.ne_nil_of_length_pos
      omega
    have hlength₁ := congrArg List.length hbytes₁
    rw [List.length_append] at hlength₁
    obtain ⟨s₂, hread₂, hbytes₂, hreset₂⟩ :=
      read_runs (show bodyLen.toNat ≤ s₁.bytes.length by omega)
    rw [hbytes₁, ← hbody, List.take_left] at hread₂
    rw [hbytes₁, ← hbody, List.drop_left] at hbytes₂
    refine ⟨s₂, hread₁.bind ?_, hbytes₂, hreset₂.trans hreset₁⟩
    rw [if_neg (by simp), if_neg hzero, if_neg (by omega), ← hbody]
    refine hread₂.bind ?_
    rw [if_neg (by simp)]
    rw [if_neg hne] at hm
    exact (runs_liftRead.mpr ⟨hheader, rfl⟩).bind
      (runs_pure.mpr ⟨Protocol.Message.ext rfl hm.symm, rfl⟩)

/-- **What is delivered** are the messages of frames; the bytes behind the
    frame are left. -/
theorem delivers_iff {rest : Bytes} :
    (∃ s', Runs (readMessageReal sameKey native) s (some m) s' ∧ s'.bytes = rest
        ∧ s'.reset = s.reset)
      ↔ ∃ frame, s.bytes = frame ++ rest ∧ IsFrame sameKey native frame m := by
  constructor
  · intro h
    obtain ⟨s', h, rfl, -⟩ := h
    obtain ⟨hbuf, s₁, hfixed, h⟩ := runs_bind.mp h
    obtain ⟨rfl, hbytes₁, hreset₁⟩ := runs_read hfixed
    rw [runs_ite] at h
    by_cases hnone : (s.bytes.take 16).length = 0
    · rw [if_pos hnone] at h
      cases (runs_pure.mp h).1
    · rw [if_neg hnone] at h
      obtain ⟨hlen, h⟩ := runs_unless.mp h
      rw [not_ne_iff] at hlen
      obtain ⟨⟨toRead, bodyLen⟩, s₂, hlift, h⟩ := runs_bind.mp h
      obtain ⟨hlengths, rfl⟩ := runs_liftRead.mp hlift
      obtain ⟨msg, s₃, hrest, h⟩ := runs_bind.mp h
      obtain ⟨hmsg, rfl⟩ := runs_pure.mp h
      cases hmsg
      obtain ⟨hlow, hhigh⟩ := frameLengths_bounds hlengths
      obtain ⟨fields, body, hsplit, -, hok, hfields, hbody, hheader, hm⟩ :=
        runs_readRest hlow hhigh hrest
      subst hfields
      refine ⟨s.bytes.take 16 ++ fields ++ body, ?_, _, fields, body, rfl,
        ⟨hlen, ⟨bodyLen, hlengths, hok, hbody⟩, hheader, hm⟩⟩
      rw [List.append_assoc, List.append_assoc, ← List.append_assoc fields, ← hsplit, hbytes₁,
          List.take_append_drop]
  · intro h
    obtain ⟨frame, hs, hbuf, fields, body, rfl, hframe⟩ := h
    obtain ⟨hlen, ⟨bodyLen, hlengths, hok, hbody⟩, hheader, hm⟩ := hframe
    have hlength := congrArg List.length hs
    simp only [List.length_append] at hlength
    obtain ⟨s₁, hread, hbytes₁, hreset₁⟩ := read_runs (show 16 ≤ s.bytes.length by omega)
    have hassoc : hbuf ++ fields ++ body ++ rest = hbuf ++ (fields ++ body ++ rest) := by
      simp only [List.append_assoc]
    rw [hs, hassoc, List.take_left' hlen] at hread
    rw [hs, hassoc, List.drop_left' hlen] at hbytes₁
    obtain ⟨s', hrest, hbytes', hreset'⟩ := readRest_runs hok hbody hheader hm hbytes₁
    refine ⟨s', hread.bind ?_, hbytes', hreset'.trans hreset₁⟩
    rw [if_neg (by omega), if_neg (by omega)]
    exact (runs_liftRead.mpr ⟨hlengths, rfl⟩).bind (hrest.bind (runs_pure.mpr ⟨rfl, rfl⟩))

/-- **Frames delimit themselves**: what comes behind one does not matter. -/
theorem frames_delimit_themselves {frame frame' rest rest' : Bytes} {m' : Protocol.Message}
    (h : IsFrame sameKey native frame m) (h' : IsFrame sameKey native frame' m')
    (heq : frame ++ rest = frame' ++ rest') : frame = frame' ∧ m = m' := by
  obtain ⟨hbuf, fields, body, rfl, hlen, ⟨bodyLen, hlengths, -, hbody⟩, hheader, hm⟩ := h
  obtain ⟨hbuf', fields', body', rfl, hlen', ⟨bodyLen', hlengths', -, hbody'⟩, hheader', hm'⟩ := h'
  simp only [List.append_assoc] at heq
  obtain ⟨hfixed, heq⟩ := List.append_inj heq (by omega)
  rw [← hfixed, hlengths, Except.ok.injEq, Prod.mk.injEq] at hlengths'
  obtain ⟨hfields, heq⟩ := List.append_inj heq (by omega)
  obtain ⟨hbodies, -⟩ := List.append_inj heq (by omega)
  rw [← hfixed, ← hfields, hheader, Except.ok.injEq] at hheader'
  rw [hbodies, ← hm'] at hm
  rw [hfixed, hfields, hbodies]
  exact ⟨rfl, Protocol.Message.ext hheader' hm⟩

end Frames

/-! ## §5. Messages that are written. -/

/-- The message as it arrives: an empty body is none. -/
def Protocol.Message.received (m : Protocol.Message) : Protocol.Message :=
  { m with body := if m.body.getD [] = [] then none else m.body }

theorem Protocol.Message.body_received (m : Protocol.Message) :
    m.received.body.getD [] = m.body.getD [] := by
  unfold Protocol.Message.received
  dsimp only
  split_ifs with h
  · exact h.symm
  · rfl

/-- The bytes of a message. -/
def Protocol.Message.frame (o : ByteOrder) (m : Protocol.Message) : Bytes :=
  m.header.encode o ++ m.body.getD []

/-- The array of a header's fields. -/
def Header.content (o : ByteOrder) (h : Header) : Bytes :=
  (entryValues h.fields.entries).encode o 16

/-- The first sixteen bytes of a header. -/
def Header.fixed (o : ByteOrder) (h : Header) : Bytes :=
  [h.endianness, h.messageType, h.flags, h.majorVersion] ++ o.bytes 4 h.length.toNat
    ++ o.bytes 4 h.serial.toNat ++ o.bytes 4 (h.content o).length

theorem Header.length_fixed (o : ByteOrder) (h : Header) : (h.fixed o).length = 16 := by
  rw [Header.fixed]
  simp only [List.length_append, List.length_cons, List.length_nil, ByteOrder.length_bytes]

/-- A header is its fixed part, its fields and padding. -/
theorem Header.encode_eq (o : ByteOrder) (h : Header) :
    h.encode o = h.fixed o ++ (h.content o ++ pad (h.content o).length 8) := by
  have hstart : contentStart 12 fieldCodeEntry.alignment = 16 := rfl
  have hpad : pad (padded 12 4 + 4) fieldCodeEntry.alignment = [] := rfl
  have hnum : ∀ v, encodeNumber o 4 v 12 = o.bytes 4 v := by
    intro v
    rw [encodeNumber, pad, padNeeded_of_mod (by rfl), List.replicate_zero, List.nil_append]
  have hfields : h.encodeFields o = h.fixed o ++ h.content o := by
    rw [Header.encodeFields, Header.fixed, Value.encode, encodeArray, hpad, hstart, hnum]
    simp only [List.append_assoc, List.append_nil]
    rfl
  have hlength : pad (h.fixed o ++ h.content o).length 8 = pad (h.content o).length 8 := by
    rw [List.length_append, Header.length_fixed, pad, pad, Nat.add_comm]
    exact congrArg (List.replicate · 0) (padNeeded_add_mul (h.content o).length 2 8)
  rw [Header.encode, hfields, hlength, List.append_assoc]

section Written

variable {sameKey : {k : ClrType} → Value k → Value k → Bool} {native : ByteOrder}

variable (sameKey native) in
/-- A message that a machine can read: its version is supported, its length is
    that of its body, its fields are readable, and it is not too large. -/
structure Protocol.Message.Deliverable (m : Protocol.Message) : Prop where
  version : m.header.majorVersion.toNat ≤ 2
  length : m.header.length.toNat = (m.body.getD []).length
  fields : ∀ entry ∈ m.header.fields.entries,
    entry.2.Readable sameKey { native := native, endianness := m.header.endianness }
  size : (m.frame (wireOrder native m.header.endianness)).length ≤ 16 + maxMessageLength

theorem wrapInt_of_bounds {n : Int} (hlow : -2147483648 ≤ n) (hhigh : n < 2147483648) :
    wrapInt n = n := Int.bmod_eq_of_le (by omega) (by omega)

/-- Small lengths are padded like natural numbers. -/
theorem paddedInt_natCast {n : Nat} (h : n ≤ maxMessageLength) :
    paddedInt (n : Int) 8 = (padded n 8 : Nat) := by
  have hmax : maxMessageLength = 134217728 := rfl
  have hmod : (n : Int).tmod 8 = (n % 8 : Nat) := rfl
  unfold paddedInt padded
  rw [hmod]
  by_cases hzero : n % 8 = 0
  · simp [hzero]
  · have hpos : (n % 8 : Nat) ≠ (0 : Int) := by omega
    rw [if_pos hpos, if_pos hzero, wrapInt_of_bounds (by omega) (by omega)]
    omega

/-- The lengths in the fixed part of a header. -/
theorem frameLengths_fixed {h : Header} (hversion : h.majorVersion.toNat ≤ 2)
    (hcontent : (h.content (wireOrder native h.endianness)).length ≤ maxMessageLength)
    (hlength : h.length.toNat ≤ maxMessageLength) :
    frameLengths native (h.fixed (wireOrder native h.endianness))
      = .ok ((padded (h.content (wireOrder native h.endianness)).length 8 : Nat),
          (h.length.toNat : Int)) := by
  have horder : wireOrder native h.endianness
      = Endian.order { native := native, endianness := h.endianness } := rfl
  rw [horder] at hcontent ⊢
  unfold frameLengths
  have hhead : (h.fixed (Endian.order { native := native, endianness := h.endianness })).headD 0
      = h.endianness := rfl
  rw [hhead]
  generalize Endian.mk native h.endianness = e at hcontent ⊢
  generalize hdata : h.fixed e.order = data
  have hat : HasAt data 0 ([h.endianness, h.messageType, h.flags, h.majorVersion]
      ++ e.order.bytes 4 h.length.toNat ++ e.order.bytes 4 h.serial.toNat
      ++ e.order.bytes 4 (h.content e.order).length) := by
    rw [← hdata]
    exact List.prefix_rfl
  obtain ⟨hfront, hcount⟩ := hasAt_append.mp hat
  obtain ⟨hfront, hserial⟩ := hasAt_append.mp hfront
  obtain ⟨hfront, hbody⟩ := hasAt_append.mp hfront
  simp only [List.length_append, List.length_cons, List.length_nil, ByteOrder.length_bytes,
    Nat.zero_add, Nat.reduceAdd] at hbody hserial hcount
  have hroom : 0 + 3 ≤ data.length := by
    have hlen := hfront.length_le (List.cons_ne_nil _ _)
    simp only [List.length_cons, List.length_nil] at hlen
    omega
  have hversionAt : HasAt data 3 [h.majorVersion] :=
    (hasAt_cons.mp (hasAt_cons.mp (hasAt_cons.mp hfront).2).2).2
  have hmax : maxMessageLength = 134217728 := rfl
  have hvalue : (BitVec.ofNat 32 (h.content e.order).length).toNat
      = (h.content e.order).length := by
    rw [BitVec.toNat_ofNat]
    omega
  have hrun : Runs (readLengths e data) 0
      (paddedInt (BitVec.ofNat 32 (h.content e.order).length).toInt 8, h.length.toInt) 16 := by
    have hcountAt : HasAt data 12
        (e.order.bytes 4 (BitVec.ofNat 32 (h.content e.order).length).toNat) := by
      rwa [hvalue]
    refine (runs_seek_reader hroom).bind ((readByte_at hversionAt).bind ?_)
    rw [if_neg (by omega)]
    exact (readUInt32_at (by rfl) hbody).bind ((readUInt32_at (by rfl) hserial).bind
      ((readUInt32_at (by rfl) hcountAt).bind (runs_pure.mpr ⟨rfl, rfl⟩)))
  have hint : ∀ v : BitVec 32, v.toNat ≤ maxMessageLength → v.toInt = (v.toNat : Int) := by
    intro v hv
    exact BitVec.toInt_eq_toNat_of_lt (by omega)
  rw [hint _ (by omega), hint _ hlength, hvalue, paddedInt_natCast hcontent] at hrun
  unfold Runs at hrun
  rw [hrun]
  rfl

/-- **The bytes of a message are a frame** of it, as it arrives. -/
theorem isFrame_frame {m : Protocol.Message} (h : m.Deliverable sameKey native)
    (hsend : m.header.fields.Sendable (wireOrder native m.header.endianness)) :
    IsFrame sameKey native (m.frame (wireOrder native m.header.endianness)) m.received := by
  have hlength := h.length
  have hsize := h.size
  have hmax : maxMessageLength = 134217728 := rfl
  have hsizes : (m.frame (wireOrder native m.header.endianness)).length
      = 16 + padded (m.header.content (wireOrder native m.header.endianness)).length 8
        + (m.body.getD []).length := by
    rw [Protocol.Message.frame, Header.encode_eq, List.length_append, List.length_append,
        List.length_append, Header.length_fixed, length_pad, padded_eq]
  have hpadded := padded_eq (m.header.content (wireOrder native m.header.endianness)).length 8
  have hfields : (m.header.content (wireOrder native m.header.endianness)
      ++ pad (m.header.content (wireOrder native m.header.endianness)).length 8).length
      = padded (m.header.content (wireOrder native m.header.endianness)).length 8 := by
    rw [List.length_append, length_pad, padded_eq]
  have hlengths : ∃ bodyLen : Int, frameLengths native
        (m.header.fixed (wireOrder native m.header.endianness))
      = .ok ((m.header.content (wireOrder native m.header.endianness)
          ++ pad (m.header.content (wireOrder native m.header.endianness)).length 8).length, bodyLen)
      ∧ LengthsOk (m.header.content (wireOrder native m.header.endianness)
          ++ pad (m.header.content (wireOrder native m.header.endianness)).length 8).length bodyLen
      ∧ (m.body.getD []).length = bodyLen.toNat := by
    rw [hfields]
    refine ⟨m.header.length.toNat, frameLengths_fixed h.version (by omega) (by omega), ⟨?_, ?_, ?_⟩,
      by omega⟩
    · rw [wrapInt_of_bounds (by omega) (by omega)]
      omega
    · rw [wrapInt_of_bounds (by omega) (by omega)]
      omega
    · omega
  have hheader : Header.fromBytes sameKey native
      (m.header.fixed (wireOrder native m.header.endianness)
        ++ (m.header.content (wireOrder native m.header.endianness)
          ++ pad (m.header.content (wireOrder native m.header.endianness)).length 8))
      = .ok m.header := by
    have hstream : maxStreamLength = 2147483647 := rfl
    rw [← Header.encode_eq]
    refine Header.fromBytes_encode hsend h.fields ?_
    rw [Protocol.Message.frame, List.length_append] at hsize
    omega
  have hbody : m.received.body = if m.body.getD [] = [] then none else some (m.body.getD []) := by
    unfold Protocol.Message.received
    dsimp only
    cases m.body with
    | none => rfl
    | some body => rfl
  refine ⟨_, _, _, ?_, ⟨Header.length_fixed _ _, hlengths, hheader, hbody⟩⟩
  rw [Protocol.Message.frame, Header.encode_eq]

end Written

/-! ## §6. Sequences of messages. -/

section Sequences

variable {sameKey : {k : ClrType} → Value k → Value k → Bool} {w r native : ByteOrder}
  {s : NetworkStream} {m : Protocol.Message}

/-- What a machine writes in its own order is a frame on every machine. -/
theorem isFrame_of_write {bytes : Bytes} (hown : m.header.endianness = nativeEndianness w)
    (hread : m.Deliverable sameKey r) (hwrite : writeMessage w m = .ok bytes) :
    IsFrame sameKey r bytes m.received := by
  obtain ⟨⟨u, stream⟩, hrun, hbytes⟩ := bind_eq_ok.mp hwrite
  have horder : wireOrder w m.header.endianness = wireOrder r m.header.endianness := by
    rw [hown, wireOrder_nativeEndianness, wireOrder_nativeEndianness]
  obtain ⟨hsend, -, rfl⟩ := (Header.emits (Or.inl hown) stream).mp hrun
  cases hbytes
  rw [horder] at hsend ⊢
  exact isFrame_frame hread hsend

/-- The end of a stream. -/
theorem readMessage_end (h : s.bytes = []) :
    ∃ s', readMessage sameKey native s = .ok ⟨none, s.reset, s'⟩ := by
  rw [readMessage, readMessageReal, bind_apply, NetworkStream.read_eq, h, List.take_nil]
  cases hreset : s.reset with
  | true => exact ⟨_, rfl⟩
  | false => exact ⟨_, rfl⟩

/-- A stream that begins with a frame gives its message. -/
theorem readMessage_frame {frame rest : Bytes} (hframe : IsFrame sameKey native frame m)
    (hs : s.bytes = frame ++ rest) :
    ∃ s', readMessage sameKey native s = .ok ⟨some m, false, s'⟩ ∧ s'.bytes = rest
      ∧ s'.reset = s.reset := by
  obtain ⟨s', hrun, hrest, hreset⟩ := delivers_iff.mpr ⟨frame, hs, hframe⟩
  unfold Runs at hrun
  refine ⟨s', ?_, hrest, hreset⟩
  rw [readMessage, hrun]

/-- **A sequence of messages arrives** as it was sent, an empty body as none,
    however it is cut into pieces, and then the end of the stream. -/
theorem messages_delivered {ms : List Protocol.Message} {frames : List Bytes}
    (hown : ∀ m ∈ ms, m.header.endianness = nativeEndianness w)
    (hread : ∀ m ∈ ms, m.Deliverable sameKey r)
    (hwrite : List.Forall₂ (fun m frame => writeMessage w m = .ok frame) ms frames)
    (hs : s.bytes = frames.flatten) :
    outcomes sameKey r (ms.length + 1) s
      = ms.map (fun m => .ok (some m.received, false)) ++ [.ok (none, s.reset)] := by
  induction hwrite generalizing s with
  | nil =>
      have hend : ∃ s', readMessage sameKey r s = .ok ⟨none, s.reset, s'⟩ := readMessage_end hs
      obtain ⟨s', hend⟩ := hend
      show outcomes sameKey r 1 s = [.ok (none, s.reset)]
      rw [outcomes, hend]
      rfl
  | @cons m frame ms frames hfirst hrest ih =>
      have hframe := isFrame_of_write (hown m (by simp)) (hread m (by simp)) hfirst
      obtain ⟨s', hmessage, hbytes, hreset⟩ := readMessage_frame hframe hs
      have hrun := ih (fun m' hm' => hown m' (List.mem_cons_of_mem _ hm'))
        (fun m' hm' => hread m' (List.mem_cons_of_mem _ hm')) hbytes
      show outcomes sameKey r (ms.length + 1 + 1) s = _
      rw [outcomes, hmessage]
      dsimp only
      rw [hrun, hreset]
      rfl

/-- Two messages of a little-endian machine arrive at a big-endian one, in
    pieces, in front of a reset; the second has an empty body. -/
theorem messages_delivered_two :
    outcomes (fun _ _ => false) .bigEndian 3
        ⟨[(108, [1, 0]), (1, [1, 0, 0, 0, 5, 0, 0, 0, 0, 0, 0]), (0, [7, 108, 2, 0]),
          (1, [0, 0, 0, 0, 6, 0, 0, 0, 0, 0, 0, 0])], true⟩
      = [.ok (some ⟨⟨108, 1, 0, 1, 1, 5, HeaderFields.empty⟩, some [7]⟩, false),
         .ok (some ⟨⟨108, 2, 0, 1, 0, 6, HeaderFields.empty⟩, none⟩, false), .ok (none, true)] := by
  have hread : ∀ m ∈ ([⟨⟨108, 1, 0, 1, 1, 5, HeaderFields.empty⟩, some [7]⟩,
      ⟨⟨108, 2, 0, 1, 0, 6, HeaderFields.empty⟩, some []⟩] : List Protocol.Message),
      m.Deliverable (fun _ _ => false) .bigEndian := by
    intro m hm
    rcases List.mem_pair.mp hm with rfl | rfl
    · exact ⟨by decide, rfl, fun _ h => absurd h List.not_mem_nil, by decide⟩
    · exact ⟨by decide, rfl, fun _ h => absurd h List.not_mem_nil, by decide⟩
  have hwrite : List.Forall₂ (fun m frame => writeMessage .littleEndian m = .ok frame)
      [⟨⟨108, 1, 0, 1, 1, 5, HeaderFields.empty⟩, some [7]⟩,
        ⟨⟨108, 2, 0, 1, 0, 6, HeaderFields.empty⟩, some []⟩]
      [[108, 1, 0, 1, 1, 0, 0, 0, 5, 0, 0, 0, 0, 0, 0, 0, 7],
        [108, 2, 0, 1, 0, 0, 0, 0, 6, 0, 0, 0, 0, 0, 0, 0]] := .cons rfl (.cons rfl .nil)
  refine messages_delivered (w := .littleEndian) (fun m hm => ?_) hread hwrite rfl
  rcases List.mem_pair.mp hm with rfl | rfl <;> rfl

/-- `x` ends with the loss of the connection on a stream that is reset, and
    with an exception on one that is closed. -/
def Stops {α : Type} (x : Incoming α) (s : NetworkStream) : Prop :=
  (s.reset = true → x s = .error .ioException)
    ∧ (s.reset = false → ∃ ex, x s = .error (.fault (.exception ex)))

theorem Stops.bind {α β : Type} {x : Incoming α} {f : α → Incoming β} (h : Stops x s) :
    Stops (x >>= f) s := by
  refine ⟨fun hreset => ?_, fun hreset => ?_⟩
  · rw [bind_apply, h.1 hreset]
  · obtain ⟨ex, hex⟩ := h.2 hreset
    exact ⟨ex, by rw [bind_apply, hex]⟩

theorem stops_bind_of_runs {α β : Type} {x : Incoming α} {f : α → Incoming β} {a : α}
    {s' : NetworkStream} (hx : Runs x s a s') (hreset : s'.reset = s.reset)
    (h : Stops (f a) s') : Stops (x >>= f) s := by
  unfold Runs at hx
  unfold Stops at h ⊢
  rw [bind_apply, hx]
  rwa [hreset] at h

/-- A read that comes back short, in front of a check of its length. -/
theorem stops_read {β : Type} {count : Nat} {f : Bytes → Incoming β}
    (hshort : s.bytes.length < count)
    (h : ∀ s', ∃ ex, f s.bytes s' = .error (.fault (.exception ex))) :
    Stops (NetworkStream.read count >>= f) s := by
  have htake : s.bytes.take count = s.bytes := List.take_of_length_le (by omega)
  unfold Stops
  rw [bind_apply, NetworkStream.read_eq, htake]
  refine ⟨fun hreset => ?_, fun hreset => ?_⟩
  · rw [if_pos ⟨hshort, hreset⟩]
  · rw [if_neg (by rw [hreset]; simp)]
    exact h _

/-- A stream that ends inside a message: **a message is never delivered in
    part**.  A reset counts as the end, anything else is an exception. -/
theorem truncated_not_delivered {part missing : Bytes}
    (hframe : IsFrame sameKey native (part ++ missing) m) (hmissing : missing ≠ [])
    (hs : s.bytes = part) :
    (s.reset = true → ∃ s', readMessage sameKey native s = .ok ⟨none, true, s'⟩)
      ∧ (s.reset = false → part ≠ [] →
        ∃ ex, readMessage sameKey native s = .error (.exception ex)) := by
  by_cases hpart : part = []
  · refine ⟨fun hreset => ?_, fun _ hne => absurd hpart hne⟩
    rw [← hreset]
    exact readMessage_end (hs.trans hpart)
  have hstops : Stops (readMessageReal sameKey native) s := by
    obtain ⟨hbuf, fields, body, hsplit, hlen, ⟨bodyLen, hlengths, hok, hbody⟩, -, -⟩ := hframe
    have hlength := congrArg List.length hsplit
    have hmissingLen := List.length_pos_of_ne_nil hmissing
    have hpartLen := List.length_pos_of_ne_nil hpart
    have hsLen : s.bytes.length = part.length := by rw [hs]
    simp only [List.length_append] at hlength
    rw [readMessageReal]
    by_cases hfixed : part.length < 16
    · -- inside the fixed part of the header
      refine stops_read (by omega) fun s' => ?_
      rw [hs, if_neg (by omega), if_pos (by omega)]
      exact ⟨_, rfl⟩
    obtain ⟨s₁, hread, hbytes₁, hreset₁⟩ := read_runs (show 16 ≤ s.bytes.length by omega)
    have htake : s.bytes.take 16 = hbuf := by
      have hfirst := congrArg (List.take 16) hsplit
      rwa [List.take_append_of_le_length (by omega), List.append_assoc, List.take_left' hlen,
          ← hs] at hfirst
    have hdrop : s₁.bytes ++ missing = fields ++ body := by
      have hsecond := congrArg (List.drop 16) hsplit
      rwa [List.drop_append_of_le_length (by omega), List.append_assoc, List.drop_left' hlen,
          ← hs, ← hbytes₁] at hsecond
    rw [htake] at hread
    refine stops_bind_of_runs hread hreset₁ ?_
    rw [if_neg (by omega), if_neg (by omega)]
    refine stops_bind_of_runs (runs_liftRead.mpr ⟨hlengths, rfl⟩) rfl (Stops.bind ?_)
    obtain ⟨hlimit, hroom, hnonneg⟩ := hok
    have hlength₁ := congrArg List.length hdrop
    simp only [List.length_append] at hlength₁
    rw [readRest, if_neg (by omega), if_neg (by omega), if_neg (by omega), Int.toNat_natCast]
    by_cases hfields : s₁.bytes.length < fields.length
    · -- inside the fields
      refine stops_read hfields fun s' => ?_
      rw [if_pos (by omega)]
      exact ⟨_, rfl⟩
    · -- inside the body
      obtain ⟨s₂, hread₂, hbytes₂, hreset₂⟩ :=
        read_runs (show fields.length ≤ s₁.bytes.length by omega)
      have hlength₂ : s₂.bytes.length = s₁.bytes.length - fields.length := by
        rw [hbytes₂, List.length_drop]
      refine stops_bind_of_runs hread₂ hreset₂ ?_
      have hcount : (s₁.bytes.take fields.length).length = fields.length := by
        rw [List.length_take]
        omega
      rw [if_neg (by omega), if_neg (by omega), if_neg (by omega)]
      refine stops_read (by omega) fun s' => ?_
      rw [if_pos (by omega)]
      exact ⟨_, rfl⟩
  refine ⟨fun hreset => ?_, fun hreset _ => ?_⟩
  · rw [readMessage, hstops.1 hreset]
    exact ⟨_, rfl⟩
  · obtain ⟨ex, hex⟩ := hstops.2 hreset
    rw [readMessage, hex]
    exact ⟨ex, rfl⟩

theorem truncated_not_delivered_header :
    ∃ ex, readMessage (fun _ _ => false) .bigEndian ⟨[(108, [1, 0, 1, 1])], false⟩
      = .error (.exception ex) := by
  have hread : Protocol.Message.Deliverable (fun _ _ => false) .bigEndian
      ⟨⟨108, 1, 0, 1, 1, 5, HeaderFields.empty⟩, some [7]⟩ :=
    ⟨by decide, rfl, fun _ h => absurd h List.not_mem_nil, by decide⟩
  have hframe : IsFrame (fun _ _ => false) .bigEndian
      ([108, 1, 0, 1, 1] ++ [0, 0, 0, 5, 0, 0, 0, 0, 0, 0, 0, 7])
      ⟨⟨108, 1, 0, 1, 1, 5, HeaderFields.empty⟩, some [7]⟩ :=
    isFrame_frame hread ⟨fun _ h => absurd h List.not_mem_nil, by rfl, trivial, by decide⟩
  exact (truncated_not_delivered hframe (by decide) rfl).2 rfl (by decide)

end Sequences

end SapDbLib
