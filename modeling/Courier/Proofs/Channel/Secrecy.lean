/-
Credentials are sent in answer to an authenticating session, and show nowhere else.

`veiled` shows a world as it would be if everybody were a guest: the authentications of the
handshakes are replaced, and so are those in the sessions that were sent.  Nothing that a session or
a close of the link makes of a world looks behind the veil, so what two handshakes with different
authentications do looks the same (`credentials_only_answer`).  Where no authenticating session comes
in, there is nothing to be replaced in what was sent, and the two do the same.
-/
import Courier.Proofs.Channel.Concluding
import Courier.Proofs.Channel.Course
import Courier.Proofs.Channel.Vigil

namespace Courier

variable {σ : Type} {h : Host σ} {w : World σ} {mask : Session → Session}

/-! ## Veils -/

/-- A session without the credentials that it shows. -/
def Session.unsigned (session : Session) : Session :=
  if session.state = .authenticating then
    { session with scheme := none, authentication := none }
  else session

/-- A session as a guest would have sent it. -/
def Session.asGuest (session : Session) : Session :=
  if session.state = .authenticating then session.withAuthentication .guest else session

theorem Session.unsigned_asGuest (session : Session) :
    session.asGuest.unsigned = session.unsigned := by
  unfold asGuest unsigned
  by_cases hstate : session.state = .authenticating
  · simp [hstate, withAuthentication]
  · simp [hstate]

/-- An envelope with a mask over the sessions. -/
def Envelope.shown (mask : Session → Session) : Envelope → Envelope
  | session s => session (mask s)
  | other => other

theorem Envelope.shown_shown (outer inner : Session → Session) (envelope : Envelope) :
    (envelope.shown inner).shown outer = envelope.shown fun session => outer (inner session) := by
  cases envelope <;> rfl

theorem Envelope.shown_id : Envelope.shown id = id := by
  funext envelope
  cases envelope <;> rfl

/-- An event with a mask over the sessions that were sent. -/
def World.Event.shown (mask : Session → Session) : World.Event → World.Event
  | sent envelope => sent (envelope.shown mask)
  | unsent envelope fault => unsent (envelope.shown mask) fault
  | other => other

theorem World.Event.shown_shown (outer inner : Session → Session) (event : World.Event) :
    (event.shown inner).shown outer = event.shown fun session => outer (inner session) := by
  cases event <;> simp [shown, Envelope.shown_shown]

theorem World.Event.shown_id : World.Event.shown id = id := by
  funext event
  cases event <;> simp [shown, Envelope.shown_id]

def Establishment.asGuest (establishment : Establishment) : Establishment :=
  { establishment with authentication := .guest }

def Handshake.asGuest (handshake : Handshake) : Handshake :=
  { handshake with establishment := handshake.establishment.asGuest }

/-- A channel all handshakes of which are those of guests. -/
def Channel.asGuest (channel : Channel) : Channel :=
  { channel with handshakes := channel.handshakes.map Handshake.asGuest }

def Link.shown (mask : Session → Session) (link : Link) : Link :=
  { link with sent := link.sent.map (Envelope.shown mask) }

theorem Link.shown_id (link : Link) : link.shown id = link := by
  simp [shown, Envelope.shown_id]

/-- A world of guests, with a mask over the sessions that were sent.  What the program makes of it
does not show. -/
def World.veiled (mask : Session → Session) (w : World σ) : World Unit where
  now := w.now
  channel := w.channel.asGuest
  link := w.link.shown mask
  held := w.held
  waiting := w.waiting
  arrived := w.arrived
  depth := w.depth
  drawn := w.drawn
  trace := w.trace.map (World.Event.shown mask)
  user := ()

abbrev World.veiledWith {α : Type} (mask : Session → Session) (result : α × World σ) :
    α × World Unit :=
  (result.1, result.2.veiled mask)

/-- The step that starts a handshake, for one who is called with the outcome or waits for it. -/
def Reporter.start (establishment : Establishment) : Reporter → Step
  | callback name => .request (.establish establishment name)
  | waiting name => .await establishment name

/-- A mask that changes nothing but what shows credentials. -/
def Spares (mask : Session → Session) : Prop :=
  ∀ session : Session, session.state ≠ .authenticating → mask session = session

/-- A mask makes the answers to a session those of a guest, if the session asks for credentials. -/
def Covers (mask : Session → Session) (session : Session) : Prop :=
  session.state = .authenticating → ∀ (answer : Session) (authentication : Authentication),
    answer.state = .authenticating →
      mask (answer.withAuthentication authentication) = answer.withAuthentication .guest

theorem spares_asGuest : Spares Session.asGuest :=
  fun _ hstate => if_neg hstate

theorem covers_asGuest (session : Session) : Covers Session.asGuest session :=
  fun _ _ _ hanswer => if_pos hanswer

namespace World

@[simp] theorem standing_veiled (w : World σ) :
    (w.veiled mask).channel.standing = w.channel.standing := rfl

@[simp] theorem link_veiled (w : World σ) : (w.veiled mask).link = w.link.shown mask := rfl

theorem handshakes_veiled (w : World σ) :
    (w.veiled mask).channel.handshakes = w.channel.handshakes.map Handshake.asGuest := rfl

theorem modify_veiled {change : Channel → Channel}
    (hchange : ∀ channel, change channel.asGuest = (change channel).asGuest) (w : World σ) :
    (w.veiled mask).modify change = (w.modify change).veiled mask := by
  simp only [modify, veiled, hchange]

/-! ## Sending -/

theorem send_shown (link : Link) (envelope : Envelope) :
    (link.shown mask).send (envelope.shown mask) =
      ((link.send envelope).1, (link.send envelope).2.shown mask) := by
  have hfault : (link.shown mask).sendFault? = link.sendFault? := rfl
  unfold Link.send
  rw [hfault]
  cases link.sendFault? with
  | some fault => rfl
  | none => simp [Link.shown]

theorem record_veiled (event : Event) (w : World σ) :
    (w.veiled mask).record (event.shown mask) = (w.record event).veiled mask := by
  simp [record, veiled]

theorem transmit_veiled (envelope : Envelope) (isActivity : Bool) (w : World σ) :
    (w.veiled mask).transmit (envelope.shown mask) isActivity =
      veiledWith mask (w.transmit envelope isActivity) := by
  have htouched : (if isActivity then (w.veiled mask).touch else w.veiled mask) =
      (if isActivity then w.touch else w).veiled mask := by
    cases isActivity <;> rfl
  unfold transmit
  rw [htouched]
  generalize (if isActivity = true then w.touch else w) = u
  dsimp only
  rw [link_veiled, send_shown]
  rcases u.link.send envelope with ⟨_ | _, link⟩
  · exact congrArg (Prod.mk _) (record_veiled (.unsent envelope _) { u with link })
  · exact congrArg (Prod.mk _) (record_veiled (.sent envelope) { u with link })

theorem transmit_masked {session masked : Session} (hmasked : mask session = masked) (w : World σ) :
    (w.veiled mask).transmit (.session masked) true =
      veiledWith mask (w.transmit (.session session) true) := by
  rw [← hmasked]
  exact transmit_veiled (.session session) true w

theorem setCompression_shown (link : Link) (compression : Compression) :
    (link.shown mask).setCompression compression =
      ((link.setCompression compression).1, (link.setCompression compression).2.shown mask) := by
  have hfault : (link.shown mask).compressionFault? = link.compressionFault? := rfl
  unfold Link.setCompression
  rw [hfault]
  cases link.compressionFault? compression <;> rfl

theorem setEncryption_shown (link : Link) (encryption : Encryption) :
    (link.shown mask).setEncryption encryption =
      ((link.setEncryption encryption).1, (link.setEncryption encryption).2.shown mask) := by
  have hfault : (link.shown mask).encryptionFault? = link.encryptionFault? := rfl
  unfold Link.setEncryption
  rw [hfault]
  cases link.encryptionFault? encryption <;> rfl

theorem configure_none_veiled (encryption : Option Encryption) (w : World σ) :
    (w.veiled mask).configure none encryption = veiledWith mask (w.configure none encryption) := by
  cases encryption with
  | none => rfl
  | some encryption =>
    unfold configure
    dsimp only
    rw [link_veiled, setEncryption_shown]
    show (if w.link.encryption = encryption then _ else _) = _
    by_cases hsame : w.link.encryption = encryption
    · rw [if_pos hsame, if_pos hsame]
    · rw [if_neg hsame, if_neg hsame]
      have hrecorded := fun link =>
        @record_veiled σ mask (.encryptionSet encryption) { w with link }
      rcases w.link.setEncryption encryption with ⟨_ | _, link⟩ <;>
        exact congrArg (Prod.mk _) (hrecorded link)

theorem configure_veiled (compression : Option Compression) (encryption : Option Encryption)
    (w : World σ) :
    (w.veiled mask).configure compression encryption =
      veiledWith mask (w.configure compression encryption) := by
  cases compression with
  | none => exact configure_none_veiled encryption w
  | some compression =>
    rw [configure_some, configure_some, link_veiled, setCompression_shown]
    show (if w.link.compression = compression then _ else _) = _
    by_cases hsame : w.link.compression = compression
    · rw [if_pos hsame, if_pos hsame]
      exact configure_none_veiled encryption w
    · rw [if_neg hsame, if_neg hsame]
      have hrecorded := fun link =>
        @record_veiled σ mask (.compressionSet compression) { w with link }
      rcases w.link.setCompression compression with ⟨_ | _, link⟩
      · exact congrArg (Prod.mk _) (hrecorded link)
      · dsimp only
        rw [← configure_none_veiled, ← hrecorded]
        rfl

section

variable (hmask : Spares mask)
include hmask

/-- Sessions that show no credentials are sent through the veil. -/
theorem sendSession_veiled {session : Session} (hstate : session.state ≠ .authenticating)
    (w : World σ) :
    (w.veiled mask).sendSession session = veiledWith mask (w.sendSession session) :=
  transmit_masked (hmask session hstate) w

theorem negotiate_veiled (compression : Compression) (encryption : Encryption) (w : World σ) :
    (w.veiled mask).negotiate compression encryption =
      veiledWith mask (w.negotiate compression encryption) := by
  unfold negotiate
  rw [standing_veiled]
  cases w.channel.standing.ensure .negotiating "negotiate a session" with
  | error error => rfl
  | ok => exact sendSession_veiled hmask (fun heq => by cases heq) w

theorem performStep_veiled {session : Session} (hcovers : Covers mask session)
    {establishment : Establishment} {step : HandshakeStep}
    (hstep : establishment.next session = .ok step) (w : World σ) :
    (w.veiled mask).performStep establishment.asGuest step =
      veiledWith mask (w.performStep establishment step) := by
  cases step with
  | negotiate compression encryption => exact negotiate_veiled hmask _ _ w
  | configure compression encryption => exact configure_veiled _ _ w
  | complete => rfl
  -- Credentials are shown here only; the session has asked for them, so the mask covers what is sent.
  | authenticate =>
    have hstate : session.state = .authenticating := Establishment.state_of_next hstep
    show (w.veiled mask).authenticate establishment.identity .guest establishment.place =
      veiledWith mask
        (w.authenticate establishment.identity establishment.authentication establishment.place)
    unfold authenticate
    rw [standing_veiled]
    cases w.channel.standing.ensure .authenticating "authenticate a session" with
    | error error => rfl
    | ok =>
      cases checkIdentity establishment.identity with
      | error error => rfl
      | ok =>
        dsimp only
        exact transmit_masked (hcovers hstate _ _ rfl) w

/-! ## Starting -/

theorem establish_veiled (establishment : Establishment) (reporter : Reporter) (w : World σ) :
    (w.veiled mask).establish establishment.asGuest reporter =
      veiledWith mask (w.establish establishment reporter) := by
  have hnumber : (w.veiled mask).channel.handshakes.length = w.channel.handshakes.length := by
    rw [handshakes_veiled, List.length_map]
  by_cases hnew : w.channel.standing.state = .new
  · cases hidentity : checkIdentity establishment.identity with
    | error error =>
      have hidentity' : checkIdentity establishment.asGuest.identity = .error error := hidentity
      unfold establish
      rw [standing_veiled, ensure_eq_ok.mpr hnew, hidentity, hidentity']
    | ok =>
      have hstarted : (w.veiled mask).started establishment.asGuest reporter =
          (w.started establishment reporter).veiled mask := by
        unfold started
        rw [hnumber, handshakes_veiled]
        simp [modify, veiled, Channel.asGuest, Handshake.asGuest, addCloseListener,
          addSessionListener]
      have habandoned : ∀ u : World σ, (u.veiled mask).abandoned (w.veiled mask).channel.handshakes =
          (u.abandoned w.channel.handshakes).veiled mask := by
        intro u
        unfold abandoned
        rw [hnumber, handshakes_veiled]
        rfl
      rw [establish_of_new (by exact hnew) (by exact hidentity), establish_of_new hnew hidentity,
        hstarted, sendSession_veiled hmask (by decide)]
      rcases (w.started establishment reporter).sendSession { state := .new } with ⟨_ | _, u⟩
      · exact congrArg (Prod.mk _) (habandoned u)
      · rfl
  · have hrefused : w.channel.standing.ensure .new "establish a session" =
        .error (.invalidState "establish a session" w.channel.standing.state) := if_neg hnew
    unfold establish
    rw [standing_veiled, hrefused]

theorem await_veiled (establishment : Establishment) (name : Name) (w : World σ) :
    (w.veiled mask).await establishment.asGuest name = (w.await establishment name).veiled mask := by
  have hwaiting : ({ w.veiled mask with waiting := (w.veiled mask).waiting + 1 } : World Unit) =
      ({ w with waiting := w.waiting + 1 } : World σ).veiled mask := rfl
  unfold await
  dsimp only
  rw [hwaiting, establish_veiled hmask]
  rcases establish establishment (.waiting name) _ with ⟨_ | _, u⟩ <;> rfl

end

theorem settle_veiled (w : World σ) : (w.veiled mask).settle = w.settle.veiled mask := by
  rw [settle_eq, settle_eq]
  simp [veiled, Event.shown, Function.comp_def]

theorem start_veiled (hmask : Spares mask) (establishment : Establishment) (reporter : Reporter)
    (w : World σ) :
    (w.veiled mask).step .silent (reporter.start establishment.asGuest) =
      veiledWith mask (w.step h (reporter.start establishment)) := by
  cases reporter with
  | callback name =>
    have hestablished := establish_veiled hmask establishment (.callback name) w
    show (Prod.fst (if !w.held then _ else _), settle (Prod.snd (if !w.held then _ else _))) =
      (Prod.fst (if !w.held then _ else _),
        veiled mask (settle (Prod.snd (if !w.held then _ else _))))
    rw [← settle_veiled]
    by_cases hheld : w.held = true
    · simp only [hheld, Bool.not_true, Bool.false_eq_true, if_false, answer, hestablished]
    · simp only [hheld, Bool.not_false, if_true]
  | waiting name =>
    have hawaited := await_veiled hmask establishment name w
    show (Prod.fst (if w.held then _ else _), settle (Prod.snd (if w.held then _ else _))) =
      (Prod.fst (if w.held then _ else _),
        veiled mask (settle (Prod.snd (if w.held then _ else _))))
    rw [← settle_veiled]
    by_cases hheld : w.held = true
    · simp only [hheld, if_true, hawaited]
    · simp only [hheld, Bool.false_eq_true, if_false]

/-! ## Telling -/

theorem foldl_veiled {α : Type} {tell : World σ → α → World σ}
    {tell' : World Unit → α → World Unit}
    (htell : ∀ w a, tell' (w.veiled mask) a = (tell w a).veiled mask) (called : List α)
    (w : World σ) : called.foldl tell' (w.veiled mask) = (called.foldl tell w).veiled mask :=
  List.foldl_hom (veiled mask) htell

theorem struck_veiled (w : World σ) : (w.veiled mask).struck = w.struck.veiled mask := by
  have hrung : (w.veiled mask).rung = w.rung.veiled mask := by
    simp [rung, record, veiled, Link.shown, Event.shown]
  have hsevered : ∀ v : World σ, (v.veiled mask).severed = v.severed.veiled mask := by
    intro v
    unfold severed
    show (if v.alive then _ else _) = veiled mask (if v.alive then _ else _)
    split <;> rfl
  unfold struck
  rw [hrung, hsevered]
  exact (apply_ite (veiled mask) ((w.link.failsToClose || !w.link.connected) = true) _ _).symm

section

variable (hh : h.IsReserved)
include hh

theorem callOut_veiled (call : Call) (w : World σ) :
    (w.veiled mask).callOut .silent call = (w.callOut h call).veiled mask := by
  obtain ⟨user, huser⟩ := hh.callOut call w
  rw [huser]
  rfl

theorem called_veiled {event : Event} (hshown : event.shown mask = event) (call : Call)
    (w : World σ) :
    ((w.veiled mask).record event).callOut .silent call =
      ((w.record event).callOut h call).veiled mask := by
  have hrecorded : (w.veiled mask).record event = (w.record event).veiled mask := by
    rw [← record_veiled, hshown]
  rw [hrecorded, callOut_veiled hh]

theorem conclude_veiled (number : Nat) (outcome : Outcome) (w : World σ) :
    (w.veiled mask).conclude .silent number outcome =
      (w.conclude h number outcome).veiled mask := by
  have hretired : ∀ handshake, (w.veiled mask).retire number handshake.asGuest =
      (w.retire number handshake).veiled mask := by
    intro handshake
    simp [retire, modify, veiled, Channel.asGuest, Handshake.asGuest]
  have hreported : ∀ reporter (u : World σ), (u.veiled mask).report .silent number reporter outcome =
      (u.report h number reporter outcome).veiled mask := by
    intro reporter u
    cases reporter with
    | waiting name => rfl
    | callback name => exact called_veiled hh rfl _ u
  unfold conclude
  rw [handshakes_veiled, List.getElem?_map]
  cases w.channel.handshakes[number]? with
  | none => rfl
  | some handshake =>
    show (if handshake.finished then _ else _) = veiled mask (if handshake.finished then _ else _)
    by_cases hfinished : handshake.finished = true
    · rw [if_pos hfinished, if_pos hfinished]
    · rw [if_neg hfinished, if_neg hfinished, hretired, hreported]
      rfl

theorem handshakeReceives_veiled (hmask : Spares mask) (number : Nat) {session : Session}
    (hcovers : Covers mask session) (w : World σ) :
    (w.veiled mask).handshakeReceives .silent number session =
      (w.handshakeReceives h number session).veiled mask := by
  have hadded : ((w.veiled mask).addSessionListener (.handshake number) true).2 =
      (w.addSessionListener (.handshake number) true).2.veiled mask := rfl
  by_cases hpending : Pending number w
  -- What comes next does not depend on the authentication, so both handshakes take the same step.
  · obtain ⟨handshake, hget, hfinished⟩ := hpending
    have hget' : (w.veiled mask).channel.handshakes[number]? = some handshake.asGuest := by
      rw [handshakes_veiled, List.getElem?_map, hget, Option.map_some]
    have hnext : handshake.asGuest.establishment.next session =
        handshake.establishment.next session := rfl
    rw [handshakeReceives_of_pending hget' hfinished, handshakeReceives_of_pending hget hfinished,
      hnext, hadded]
    cases hstep : handshake.establishment.next session with
    | error error => exact conclude_veiled hh number _ w
    | ok step =>
      dsimp only
      rw [show handshake.asGuest.establishment = handshake.establishment.asGuest from rfl,
        performStep_veiled hmask hcovers hstep]
      cases step.continues with
      | false => exact conclude_veiled hh number _ w
      | true =>
        rcases performStep handshake.establishment step _ with ⟨_ | _, u⟩
        · exact conclude_veiled hh number _ u
        · rfl
  · have hpending' : ¬Pending number (w.veiled mask) := by
      rintro ⟨handshake, hget, hfinished⟩
      rw [handshakes_veiled, List.getElem?_map, Option.map_eq_some_iff] at hget
      obtain ⟨handshake, hget, rfl⟩ := hget
      exact hpending ⟨handshake, hget, hfinished⟩
    rw [handshakeReceives_of_not_pending hpending', handshakeReceives_of_not_pending hpending]

theorem deliverSession_veiled (hmask : Spares mask) {session : Session}
    (hcovers : Covers mask session) (w : World σ) :
    (w.veiled mask).deliverSession .silent session =
      (w.deliverSession h session).veiled mask := by
  unfold deliverSession
  dsimp only
  rw [modify_veiled (by exact fun _ => rfl)]
  refine foldl_veiled (fun w subscriber => ?_) _ _
  cases subscriber with
  | handshake number => exact handshakeReceives_veiled hh hmask number hcovers w
  | named name => exact called_veiled hh rfl _ w

theorem deliverClose_veiled (w : World σ) :
    (w.veiled mask).deliverClose .silent = (w.deliverClose h).veiled mask := by
  unfold deliverClose
  dsimp only
  rw [modify_veiled (by exact fun _ => rfl)]
  refine foldl_veiled (fun u subscriber => ?_) _ _
  cases subscriber with
  | named name => exact called_veiled hh rfl _ u
  | handshake number =>
    show (u.veiled mask).handshakeCloses .silent number w.channel.standing.state =
      (u.handshakeCloses h number w.channel.standing.state).veiled mask
    unfold handshakeCloses
    split
    · rfl
    · exact conclude_veiled hh number _ u

/-! ## Sessions and closes -/

theorem closeLink_veiled (w : World σ) :
    ((w.veiled mask).closeLink .silent).2 = (w.closeLink h).2.veiled mask := by
  rw [closeLink_eq, closeLink_eq, struck_veiled, deliverClose_veiled hh]
  exact (apply_ite (veiled mask) (w.hearsClose = true) _ _).symm

theorem receiveSession_veiled (hmask : Spares mask) {session : Session}
    (hcovers : Covers mask session) (w : World σ) :
    (w.veiled mask).receiveSession .silent session =
      (w.receiveSession h session).veiled mask := by
  unfold receiveSession
  dsimp only
  rw [modify_veiled (by exact fun _ => rfl)]
  split
  · rw [← deliverSession_veiled hh hmask hcovers, ← closeLink_veiled hh]
    rfl
  · exact deliverSession_veiled hh hmask hcovers _

/-- A session or a close makes the same of a world behind the veil. -/
theorem step_incident_veiled (hmask : Spares mask) {incident : Incident}
    (hcovers : ∀ session, incident = .session session → Covers mask session) (w : World σ) :
    ((w.veiled mask).step .silent (.request incident.request)).2 =
      (w.step h (.request incident.request)).2.veiled mask := by
  have hperformed : ((w.veiled mask).perform .silent incident.request).2 =
      (w.perform h incident.request).2.veiled mask := by
    cases incident with
    | close => exact closeLink_veiled hh w
    | session session =>
      show Prod.snd (if !w.held then _ else _) = veiled mask (Prod.snd (if !w.held then _ else _))
      by_cases hheld : w.held = true
      · simp only [hheld, Bool.not_true, Bool.false_eq_true, if_false]
        exact receiveSession_veiled hh hmask (hcovers session rfl) w.touch
      · simp only [hheld, Bool.not_false, if_true]
  show ((w.veiled mask).perform .silent incident.request).2.settle =
    (w.perform h incident.request).2.settle.veiled mask
  rw [hperformed, settle_veiled]

theorem after_incidents_veiled (hmask : Spares mask) {incidents : List Incident}
    (hcovers : ∀ session, .session session ∈ incidents → Covers mask session) (w : World σ) :
    (w.veiled mask).after .silent (incidents.map fun incident => .request incident.request) =
      (w.after h (incidents.map fun incident => .request incident.request)).veiled mask := by
  induction incidents generalizing w with
  | nil => rfl
  | cons incident incidents ih =>
    have hfirst := step_incident_veiled hh hmask
      (fun session heq => hcovers session (heq ▸ List.mem_cons_self)) w
    have hrest := ih (fun session hmem => hcovers session (List.mem_cons_of_mem _ hmem))
      (w.step h (.request incident.request)).2
    rw [← hfirst] at hrest
    exact hrest

end

/-! ## Behind the veil -/

theorem conclusions_veiled (w : World σ) : (w.veiled mask).conclusions = w.conclusions := by
  have hshown : Event.conclusion? ∘ Event.shown mask = Event.conclusion? := by
    funext event
    cases event <;> rfl
  show (w.trace.map (Event.shown mask)).filterMap Event.conclusion? = _
  rw [List.filterMap_map, hshown]
  rfl

theorem answers_veiled (w : World σ) : (w.veiled mask).answers = w.answers := by
  have hshown : Event.resolution? ∘ Event.shown mask = Event.resolution? := by
    funext event
    cases event <;> rfl
  show (w.trace.map (Event.shown mask)).filterMap Event.resolution? ++ w.arrived = _
  rw [List.filterMap_map, hshown]
  rfl

/-- Credentials that do not show to guests do not show without signature, either. -/
theorem unsigned_of_veiled {v w : World σ}
    (hsame : v.veiled Session.asGuest = w.veiled Session.asGuest) :
    v.link.sent.map (Envelope.shown Session.unsigned) =
        w.link.sent.map (Envelope.shown Session.unsigned) ∧
      v.trace.map (Event.shown Session.unsigned) = w.trace.map (Event.shown Session.unsigned) := by
  have hsent : v.link.sent.map (Envelope.shown .asGuest) =
      w.link.sent.map (Envelope.shown .asGuest) := congrArg (fun u => u.link.sent) hsame
  have htrace : v.trace.map (Event.shown .asGuest) = w.trace.map (Event.shown .asGuest) :=
    congrArg World.trace hsame
  have hsent' := congrArg (List.map (Envelope.shown Session.unsigned)) hsent
  have htrace' := congrArg (List.map (Event.shown Session.unsigned)) htrace
  simp only [List.map_map, Function.comp_def, Envelope.shown_shown, Event.shown_shown,
    Session.unsigned_asGuest] at hsent' htrace'
  exact ⟨hsent', htrace'⟩

/-- Two handshakes that differ in their authentication only send the same, but for what the
authenticating sessions that they send show of it; their outcomes are told alike, and they leave the
link and the channel alike.  Where no authenticating session comes in, there is no difference. -/
theorem credentials_only_answer (hh : h.IsReserved) (establishment : Establishment)
    (reporter : Reporter) (incidents : List Incident) (a b : Authentication) (w : World σ) :
    let start (authentication : Authentication) :=
      w.step h (reporter.start { establishment with authentication })
    let now (authentication : Authentication) :=
      (start authentication).2.after h (incidents.map fun incident => .request incident.request)
    (start a).1 = (start b).1 ∧
      (now a).link.sent.map (Envelope.shown Session.unsigned) =
        (now b).link.sent.map (Envelope.shown Session.unsigned) ∧
      (now a).trace.map (Event.shown Session.unsigned) =
        (now b).trace.map (Event.shown Session.unsigned) ∧
      (now a).conclusions = (now b).conclusions ∧ (now a).answers = (now b).answers ∧
      { (now a).link with sent := [] } = { (now b).link with sent := [] } ∧
      (now a).channel.asGuest = (now b).channel.asGuest ∧
      ((∀ session, .session session ∈ incidents → session.state ≠ .authenticating) →
        (now a).link = (now b).link ∧ (now a).trace = (now b).trace) := by
  intro start now
  have hstart : ∀ {mask}, Spares mask → ∀ authentication,
      veiledWith mask (start authentication) =
        (w.veiled mask).step .silent (reporter.start establishment.asGuest) :=
    fun hmask authentication =>
      (start_veiled (h := h) hmask { establishment with authentication } reporter w).symm
  have hnow : ∀ mask, Spares mask →
      (∀ session, .session session ∈ incidents → Covers mask session) →
      (now a).veiled mask = (now b).veiled mask := by
    intro mask hmask hcovers
    have hafter := fun authentication =>
      after_incidents_veiled hh hmask hcovers (start authentication).2
    have hstarted : (start a).2.veiled mask = (start b).2.veiled mask :=
      congrArg Prod.snd ((hstart hmask a).trans (hstart hmask b).symm)
    rw [← hafter a, ← hafter b, hstarted]
  have hguest := hnow _ spares_asGuest fun session _ => covers_asGuest session
  obtain ⟨hsent, htrace⟩ := unsigned_of_veiled hguest
  refine ⟨?_, hsent, htrace, ?_, ?_, ?_, ?_, fun hnone => ?_⟩
  · have hreply := congrArg Prod.fst (hstart spares_asGuest a)
    exact hreply.trans (congrArg Prod.fst (hstart spares_asGuest b)).symm
  · rw [← conclusions_veiled (now a), hguest, conclusions_veiled]
  · rw [← answers_veiled (now a), hguest, answers_veiled]
  · exact congrArg (fun u : World Unit => { u.link with sent := [] }) hguest
  · exact congrArg World.channel hguest
  -- No answer shows credentials, so nothing needs a mask.
  · have hplain := hnow id (fun _ _ => rfl) fun session hmem hstate =>
      absurd hstate (hnone session hmem)
    have hlink : (now a).link.shown id = (now b).link.shown id := congrArg World.link hplain
    have htrace : (now a).trace.map (Event.shown id) = (now b).trace.map (Event.shown id) :=
      congrArg World.trace hplain
    rw [Link.shown_id, Link.shown_id] at hlink
    rw [Event.shown_id, List.map_id, List.map_id] at htrace
    exact ⟨hlink, htrace⟩

/-- A server that asks twice who somebody is, the second time after an offer. -/
def twiceAsked : List Incident :=
  let header : Header := { id := some "s" }
  let question : Session := { header, state := .authenticating }
  [.session question,
    .session {
      header, state := .negotiating
      compressionOptions := some [.gzip], encryptionOptions := some [.off, .tls] },
    .session question, .session { header, state := .established }, .close]

/-- What becomes of Alice with that server, if she shows an authentication. -/
def aliceAsked (authentication : Authentication) : World Unit :=
  let establishment := { aliceAsGuest with authentication }
  (({ user := () } : World Unit).step .silent
    (Reporter.start establishment (.callback "door"))).2.after .silent
      (twiceAsked.map fun incident => .request incident.request)

def aliceSends (authentication : Authentication) : List Envelope :=
  let header : Header := { id := some "s" }
  let answer : Session := {
    header := { header with sender := some (aliceAsGuest.identity.at? none) }
    state := .authenticating }
  [.session { state := .new }, .session (answer.withAuthentication authentication),
    .session { header, state := .negotiating, compression := some .gzip, encryption := some .off },
    .session (answer.withAuthentication authentication)]

/-- She shows a token in one run, and leaves it to the transport in the other. -/
theorem credentials_only_answer_token :
    let token := Authentication.external "token" "issuer"
    (@Host.silent Unit).IsReserved ∧
      (aliceAsked token).link.sent = aliceSends token ∧
      (aliceAsked .transport).link.sent = aliceSends .transport ∧
      (aliceAsked token).link.sent.map (Envelope.shown Session.unsigned) =
        (aliceAsked .transport).link.sent.map (Envelope.shown Session.unsigned) ∧
      (aliceAsked token).conclusions = (aliceAsked .transport).conclusions := by
  intro token
  have htoken : (aliceAsked token).link.sent = aliceSends token := by decide +kernel
  have htransport : (aliceAsked .transport).link.sent = aliceSends .transport := by decide +kernel
  have hsame := credentials_only_answer Host.silent_isReserved aliceAsGuest (.callback "door")
    twiceAsked token .transport { user := () }
  refine ⟨Host.silent_isReserved, htoken, htransport, ?_⟩
  unfold aliceAsked
  dsimp only at hsame ⊢
  exact ⟨hsame.2.1, hsame.2.2.2.1⟩

end World
end Courier
