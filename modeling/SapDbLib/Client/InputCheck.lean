/-
  SapDbLib.Client.InputCheck — WHAT THE INPUT CHECK LETS THROUGH.

  The gate of the five checked queries is a length and the value `toInt`
  returns.  On texts of that length `toInt` cannot overflow, so the gate is
  a statement about texts alone:

    * `accepts_iff` — **accepted are the texts of the right length that read
      as an integer other than zero**;
    * `Accepts.unit_mem` — what such a text consists of;
    * `perform_issues` — when a query sends its call, and that it does
      nothing otherwise.
-/
import SapDbLib.Client.SapDbLib

namespace SapDbLib

open Library

/-! ## §1. The accepted texts. -/

theorem checkInputToDecimal_iff {s : Text} (hlen : s.length ≤ 9) :
    checkInputToDecimal s = true ↔ ∃ v, v ≠ 0 ∧ ReadsInt s v := by
  unfold checkInputToDecimal
  rw [bne_iff_ne]
  constructor
  · intro h
    exact ⟨(toInt s).1, h, (reads_of_toInt_ne_zero h).1⟩
  · intro hvalue
    obtain ⟨v, hv, hread⟩ := hvalue
    rw [toInt_eq_iff.mpr ⟨hread, hread.inIntRange hlen⟩]
    exact hv

theorem LibQuery.width_le (q : LibQuery) : q.width ≤ 9 := by
  cases q <;> decide

/-- **The gate as a statement about texts.** -/
theorem LibQuery.accepts_iff (q : LibQuery) (s : Text) :
    q.Accepts s ↔ s.length = q.width ∧ ∃ v, v ≠ 0 ∧ ReadsInt s v := by
  unfold LibQuery.Accepts
  constructor
  · intro haccepts
    obtain ⟨hlen, hcheck⟩ := haccepts
    exact ⟨hlen, (checkInputToDecimal_iff (hlen ▸ q.width_le)).mp hcheck⟩
  · intro hvalue
    obtain ⟨hlen, hread⟩ := hvalue
    exact ⟨hlen, (checkInputToDecimal_iff (hlen ▸ q.width_le)).mpr hread⟩

/-- Every unit of an accepted text is white space, a sign or a digit. -/
theorem LibQuery.Accepts.unit_mem {q : LibQuery} {s : Text} (h : q.Accepts s) {c : UInt16}
    (hc : c ∈ s) : isSpace c = true ∨ c = minus ∨ c = plus ∨ isDigit c = true := by
  obtain ⟨-, v, -, hread⟩ := (q.accepts_iff s).mp h
  exact hread.unit_mem hc

/-! ## §2. Calls sent. -/

/-- The text has the query's length and can be converted to an integer. -/
def LibQuery.Reads (q : LibQuery) (s : Text) : Prop := s.length = q.width ∧ ∃ v, ReadsInt s v

/-- An answered remote call is the one call that was sent. -/
theorem issued_callQuery {lib : SAPDBLib} {bus : Bus} {rc : RemoteCall} {out : Text} {a : Answer}
    (h : lib.callQuery bus rc out = .ok a) : a.issued = [rc] := by
  unfold SAPDBLib.callQuery at h
  cases hremote : lib.m_remoteApp with
  | none => simp [hremote] at h
  | some remote =>
      simp only [hremote, Except.ok.injEq] at h
      rw [← h]
      cases (bus.call remote rc).toReply <;> rfl

/-- **When a query sends its call**: on a text that does not read as zero,
    exactly if the text has the right length and can be converted; otherwise
    it returns false, sends nothing and leaves the out parameter alone. -/
theorem perform_issues (q : LibQuery) (lib : SAPDBLib) (bus : Bus) (s out : Text)
    (hzero : ¬ ReadsInt s 0) :
    (q.Reads s → q.perform lib bus s out = lib.callQuery bus (q.remoteCall s) out
        ∧ ∀ a, q.perform lib bus s out = .ok a → a.issued = [q.remoteCall s])
      ∧ (¬ q.Reads s → q.perform lib bus s out = .ok (.stopped out)) := by
  rw [q.perform_eq]
  constructor
  · intro hreads
    obtain ⟨hlen, v, hread⟩ := hreads
    -- the value that `toInt` returns is the condition, so it must not be zero
    have hv : v ≠ 0 := fun h0 => hzero (h0 ▸ hread)
    rw [if_pos ((q.accepts_iff s).mpr ⟨hlen, v, hv, hread⟩)]
    exact ⟨rfl, fun a ha => issued_callQuery ha⟩
  · intro hreads
    have hrejected : ¬ q.Accepts s := by
      intro haccepts
      obtain ⟨hlen, v, -, hread⟩ := (q.accepts_iff s).mp haccepts
      exact hreads ⟨hlen, v, hread⟩
    rw [if_neg hrejected]

/-- A client whose bus was reachable. -/
def connectedClient : SAPDBLib :=
  { m_remoteApp := some (remoteInterface (text "my.qtconnect.DBus"))
    m_busName := text "my.qtconnect.DBus"
    m_lastError := none }

/-- A bus that is up and answers every call with an empty string. -/
def idleBus : Bus :=
  { reach := fun _ _ => true
    alive := fun _ => true
    connectionError := []
    isValid := fun _ => true
    interfaceError := fun _ => []
    answer := fun _ => .reply [.string []] }

/-- The order number `60098052` is sent. -/
theorem perform_issues_orderNr :
    LibQuery.getOrderTypeNr.perform connectedClient idleBus (text "60098052") []
      = connectedClient.callQuery idleBus
          (LibQuery.getOrderTypeNr.remoteCall (text "60098052")) [] := by
  have hdigits : (text "60098052").all isDigit = true := by decide
  have hread : ReadsInt (text "60098052") 60098052 :=
    readsInt_digits (by decide) (List.all_eq_true.mp hdigits)
  have hzero : ¬ ReadsInt (text "60098052") 0 := fun h => absurd (h.unique hread) (by decide)
  exact ((perform_issues .getOrderTypeNr connectedClient idleBus (text "60098052") [] hzero).1
    ⟨by decide, 60098052, hread⟩).1

/-- **A signed text of seven digits is sent too.** -/
theorem signed_text_issued :
    ¬ ∀ a, LibQuery.getOrderTypeNr.perform connectedClient idleBus (text "+1234567") [] = .ok a →
      (a.issued ≠ [] ↔ (text "+1234567").length = 8
        ∧ ∀ c ∈ text "+1234567", isDigit c = true) := by
  intro h
  have hrun : LibQuery.getOrderTypeNr.perform connectedClient idleBus (text "+1234567") []
      = .ok { returned := true, out := []
              issued := [LibQuery.getOrderTypeNr.remoteCall (text "+1234567")] } := by rfl
  have hdigits := ((h _ hrun).mp (by simp)).2
  exact absurd (List.all_eq_true.mpr hdigits) (by decide)

end SapDbLib
