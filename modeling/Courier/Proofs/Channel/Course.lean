/-
The course of a handshake, as a fold over what happens to it.

Where the program only listens, a handshake depends on nothing but the sessions that are received
and the closes of the link: `Establishment.advance` says what each of them makes of how far it has
come.
-/
import Courier.Channel.Requests

namespace Courier

/-! ## The pure course -/

/-- What happens to a channel from outside. -/
inductive Incident where
  | session (session : Session)
  | close

/-- The request that makes it happen. -/
def Incident.request : Incident → Request
  | session s => .receive (.session s)
  | close => .closeLink

/-- How far a handshake has come. -/
structure Progress where
  standing : Standing
  connected : Bool := true
  compression : Compression
  encryption : Encryption
  /-- What was sent for it. -/
  sent : List Session := [{ state := .new }]
  outcome : Option Outcome := none

namespace Progress

/-- A session is taken in: the link is closed if it is the last, unless that fails. -/
def takeIn (fails : Bool) (session : Session) (p : Progress) : Progress :=
  { p with
    standing := p.standing.after session
    connected := p.connected && (fails || !session.state.isTerminal) }

def send (session : Session) (p : Progress) : Progress :=
  { p with sent := p.sent ++ [session] }

def conclude (outcome : Outcome) (p : Progress) : Progress :=
  { p with outcome := some outcome }

end Progress

namespace Establishment

/-- A handshake that is not over answers a session. -/
def answer (establishment : Establishment) (session : Session) (p : Progress) : Progress :=
  match establishment.next session with
  | .error error => p.conclude (.error error)
  | .ok .complete => p.conclude (.ok session)
  | .ok (.negotiate compression encryption) =>
    p.send {
      header := { id := session.header.id }
      state := .negotiating
      compression := some compression
      encryption := some encryption }
  | .ok (.configure compression encryption) =>
    { p with
      compression := compression.getD p.compression
      encryption := encryption.getD p.encryption }
  | .ok .authenticate =>
    p.send {
      header := {
        id := session.header.id
        sender := some (establishment.identity.at? establishment.place) }
      state := .authenticating
      scheme := some establishment.authentication.scheme
      authentication := some establishment.authentication.document }

/-- How far a handshake has come after one more incident, over a link that fails to close or not.
Once it is over, nothing is sent, and the outcome remains. -/
def advance (establishment : Establishment) (fails : Bool) (p : Progress) : Incident → Progress
  | .session session =>
    let p := p.takeIn fails session
    if p.outcome.isSome then p else establishment.answer session p
  | .close =>
    if fails || !p.connected then p
    else
      let p := { p with connected := false }
      if p.outcome.isSome then p
      else
        p.conclude (.error (.transport (.connectionClosed
          ("transport closed in the '" ++ p.standing.state.text ++ "' state"))))

end Establishment

/-- As long as a handshake is not over, the link is open and the session is not over. -/
def Progress.IsOpen (p : Progress) : Prop :=
  p.outcome = none → p.connected = true ∧ p.standing.state.isTerminal = false

theorem Establishment.next_of_terminal {establishment : Establishment} {session : Session}
    (h : session.state.isTerminal = true) : establishment.next session = .ok .complete := by
  unfold next
  cases hstate : session.state <;> rw [hstate] at h <;> first | rfl | cases h

/-- An offer and a confirmation come with a negotiating session, a question who we are with an
authenticating one. -/
theorem Establishment.state_of_next {establishment : Establishment} {session : Session}
    {step : HandshakeStep} (h : establishment.next session = .ok step) :
    match step with
    | .negotiate _ _ | .configure _ _ => session.state = .negotiating
    | .authenticate => session.state = .authenticating
    | .complete => True := by
  cases hstate : session.state with
  | negotiating =>
    simp only [next, hstate] at h
    split at h
    · cases h
      rfl
    · cases hcompression : choose establishment.compression session.compressionOptions
        "compression" with
      | error error =>
        rw [hcompression] at h
        cases h
      | ok compression =>
        cases hencryption : choose establishment.encryption session.encryptionOptions
          "encryption" with
        | error error =>
          rw [hcompression, hencryption] at h
          cases h
        | ok encryption =>
          rw [hcompression, hencryption] at h
          cases h
          rfl
  | authenticating =>
    simp only [next, hstate] at h
    cases h
    rfl
  | new | established | finishing | finished | failed =>
    simp only [next, hstate] at h
    cases h
    trivial

/-- A step after which another session is expected leaves the outcome open. -/
theorem Establishment.outcome_answer {establishment : Establishment} {session : Session}
    {step : HandshakeStep} (h : establishment.next session = .ok step)
    (hcontinues : step.continues = true) (p : Progress) :
    (establishment.answer session p).outcome = p.outcome := by
  unfold answer
  rw [h]
  cases step with
  | complete => cases hcontinues
  | negotiate => rfl
  | configure => rfl
  | authenticate => rfl

theorem Establishment.standing_answer (establishment : Establishment) (session : Session)
    (p : Progress) : (establishment.answer session p).standing = p.standing := by
  unfold answer
  split <;> rfl

theorem Establishment.connected_answer (establishment : Establishment) (session : Session)
    (p : Progress) : (establishment.answer session p).connected = p.connected := by
  unfold answer
  split <;> rfl

theorem Establishment.isOpen_advance (establishment : Establishment) (fails : Bool) {p : Progress}
    (hp : p.IsOpen) (incident : Incident) : (establishment.advance fails p incident).IsOpen := by
  intro hnone
  cases incident with
  | session session =>
    have houtcome : (p.takeIn fails session).outcome = none := by
      cases hover : (p.takeIn fails session).outcome with
      | none => rfl
      | some outcome => simp [advance, hover] at hnone
    have hadvance : establishment.advance fails p (.session session) =
        establishment.answer session (p.takeIn fails session) := by
      simp [advance, houtcome]
    rw [hadvance] at hnone ⊢
    have hterminal : session.state.isTerminal = false := by
      cases hstate : session.state.isTerminal with
      | false => rfl
      | true =>
        unfold answer at hnone
        rw [next_of_terminal hstate] at hnone
        cases hnone
    rw [standing_answer, connected_answer]
    have hopen := hp houtcome
    constructor
    · simp [Progress.takeIn, hopen.1, hterminal]
    · show (p.standing.after session).state.isTerminal = false
      rw [Standing.state_after]
      exact hterminal
  | close =>
    by_cases hstays : (fails || !p.connected) = true
    · simp only [advance, if_pos hstays] at hnone ⊢
      exact hp hnone
    · simp only [advance, if_neg hstays] at hnone
      split at hnone
      · rename_i hover
        have hnone : p.outcome = none := hnone
        rw [hnone] at hover
        cases hover
      · cases hnone

theorem Establishment.advance_of_over (establishment : Establishment) (fails : Bool)
    {p : Progress} (hover : p.outcome.isSome = true) (incident : Incident) :
    let q := establishment.advance fails p incident
    q.outcome = p.outcome ∧ q.sent = p.sent ∧ q.compression = p.compression ∧
      q.encryption = p.encryption := by
  cases incident with
  | session session => simp [advance, Progress.takeIn, hover]
  | close =>
    by_cases hstays : (fails || !p.connected) = true
    · simp only [advance, if_pos hstays, and_self]
    · simp only [advance, if_neg hstays, if_pos hover, and_self]

/-- Once a handshake is over, its outcome remains and nothing is sent, whatever happens. -/
theorem Establishment.foldl_advance_of_over (establishment : Establishment) (fails : Bool)
    {p : Progress} (hover : p.outcome.isSome = true) (incidents : List Incident) :
    let q := incidents.foldl (establishment.advance fails) p
    q.outcome = p.outcome ∧ q.sent = p.sent ∧ q.compression = p.compression ∧
      q.encryption = p.encryption := by
  induction incidents generalizing p with
  | nil => exact ⟨rfl, rfl, rfl, rfl⟩
  | cons incident incidents ih =>
    obtain ⟨houtcome, hsent, hcompression, hencryption⟩ :=
      establishment.advance_of_over fails hover incident
    have hrest := ih (houtcome ▸ hover)
    exact ⟨hrest.1.trans houtcome, hrest.2.1.trans hsent, hrest.2.2.1.trans hcompression,
      hrest.2.2.2.trans hencryption⟩

end Courier
