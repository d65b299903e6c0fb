/-
A channel follows the course of its handshake.

The channel gets along its course by a listener that takes itself out of two registries and puts
itself back into one, by a mark that it is over, and by what it knows of the session.  `Follows`
relates a world to how far its handshake has come, also in the middle of a delivery.  Between
deliveries every incident takes it one step further (`Rests.step`), and so a run is the fold of the
pure course (`handshake_follows_course`).
-/
import Courier.Proofs.Channel.Concluding
import Courier.Proofs.Channel.Course
import Courier.Proofs.Channel.Hosts

namespace Courier

/-! ## Registries with one handshake at most -/

namespace Registry

variable {registry : Registry Subscriber} {n : Nat}

/-- No handshake is registered. -/
def Vacant (registry : Registry Subscriber) : Prop :=
  ∀ entry ∈ registry.entries, ∃ name, entry.listener = .named name

/-- One handshake is registered, for one delivery. -/
def Solely (n : Nat) (registry : Registry Subscriber) : Prop :=
  ∃ before after, registry.entries = before ++ ⟨.handshake n, true⟩ :: after ∧
    (∀ entry ∈ before, ∃ name, entry.listener = .named name) ∧
    ∀ entry ∈ after, ∃ name, entry.listener = .named name

/-- A handshake is registered or not, and no other is. -/
def Has (registry : Registry Subscriber) (n : Nat) : Bool → Prop
  | true => Solely n registry
  | false => Vacant registry

theorem Vacant.add (h : registry.Vacant) :
    (registry.add (.handshake n) true).2.Solely n := by
  have hnot : registry.contains (.handshake n) = false := by
    rw [Bool.eq_false_iff]
    intro hcontains
    rw [contains_iff] at hcontains
    obtain ⟨entry, hentry, heq⟩ := List.mem_map.mp hcontains
    obtain ⟨name, hname⟩ := h entry hentry
    rw [hname] at heq
    cases heq
  unfold Registry.add
  rw [hnot]
  exact ⟨registry.entries, [], rfl, h, by simp⟩

theorem Vacant.remove (h : registry.Vacant) (listener : Subscriber) :
    (registry.remove listener).2.Vacant :=
  fun entry hentry => h entry (List.mem_filter.mp hentry).1

theorem Vacant.withoutOnce (h : registry.Vacant) : registry.withoutOnce.Vacant :=
  fun entry hentry => h entry (List.mem_filter.mp hentry).1

theorem Solely.mem (h : registry.Solely n) {entry : Registration Subscriber}
    (hentry : entry ∈ registry.entries) :
    entry = ⟨.handshake n, true⟩ ∨ ∃ name, entry.listener = .named name := by
  obtain ⟨before, after, hentries, hbefore, hafter⟩ := h
  rw [hentries] at hentry
  rcases List.mem_append.mp hentry with hmem | hmem
  · exact .inr (hbefore entry hmem)
  · rcases List.mem_cons.mp hmem with heq | hmem
    · exact .inl heq
    · exact .inr (hafter entry hmem)

theorem Solely.remove (h : registry.Solely n) : (registry.remove (.handshake n)).2.Vacant := by
  intro entry hentry
  obtain ⟨hmem, hne⟩ := List.mem_filter.mp hentry
  rcases h.mem hmem with rfl | hnamed
  · simp at hne
  · exact hnamed

theorem Solely.withoutOnce (h : registry.Solely n) : registry.withoutOnce.Vacant := by
  intro entry hentry
  obtain ⟨hmem, honce⟩ := List.mem_filter.mp hentry
  rcases h.mem hmem with rfl | hnamed
  · cases honce
  · exact hnamed

theorem Has.remove {b : Bool} (h : registry.Has n b) :
    (registry.remove (.handshake n)).2.Has n false := by
  cases b with
  | true => exact Solely.remove h
  | false => exact Vacant.remove h _

theorem Has.withoutOnce {b : Bool} (h : registry.Has n b) :
    registry.withoutOnce.Has n false := by
  cases b with
  | true => exact Solely.withoutOnce h
  | false => exact Vacant.withoutOnce h

/-- In a delivery where no handshake is registered, none is told. -/
theorem Vacant.foldl {ω : Type} {tell : ω → Subscriber → ω} {P : ω → Prop}
    (h : registry.Vacant) (htold : ∀ name w, P w → P (tell w (.named name))) {w : ω} (hw : P w) :
    P (registry.listeners.foldl tell w) := by
  unfold Vacant at h
  unfold listeners
  generalize registry.entries = entries at h
  induction entries generalizing w with
  | nil => exact hw
  | cons entry entries ih =>
    obtain ⟨name, hname⟩ := h entry List.mem_cons_self
    rw [List.map_cons, List.foldl_cons, hname]
    exact ih (htold name w hw) fun entry hentry => h entry (List.mem_cons_of_mem _ hentry)

/-- In a delivery to a registry with one handshake, the handshake is told once. -/
theorem Solely.foldl {ω : Type} {tell : ω → Subscriber → ω} {P Q : ω → Prop}
    (h : registry.Solely n) (hbefore : ∀ name w, P w → P (tell w (.named name)))
    (htold : ∀ w, P w → Q (tell w (.handshake n)))
    (hafter : ∀ name w, Q w → Q (tell w (.named name))) {w : ω} (hw : P w) :
    Q (registry.listeners.foldl tell w) := by
  obtain ⟨before, after, hentries, hfirst, hrest⟩ := h
  have hfirst : (⟨before⟩ : Registry Subscriber).Vacant := hfirst
  have hrest : (⟨after⟩ : Registry Subscriber).Vacant := hrest
  have hlisteners : registry.listeners =
      Registry.listeners ⟨before⟩ ++ .handshake n :: Registry.listeners ⟨after⟩ := by
    simp [listeners, hentries]
  rw [hlisteners, List.foldl_append, List.foldl_cons]
  exact hrest.foldl hafter (htold _ (hfirst.foldl hbefore hw))

end Registry

/-! ## The invariant -/

/-- A host whose callbacks leave the channel alone. -/
def Host.IsQuiet {σ : Type} (h : Host σ) : Prop :=
  ∀ call (w : World σ), ∃ user, h.call call w = { w with user }

/-- A link that delivers what is sent while it is open, and takes every option. -/
structure Link.IsPlain (link : Link) : Prop where
  delivers : link.failingSends = []
  compresses : ∀ compression, link.compressionFault? compression = none
  encrypts : ∀ encryption, link.encryptionFault? encryption = none

/-- What does not change in the course of a handshake: which it is, and what was there before. -/
structure Course where
  number : Nat
  establishment : Establishment
  name : Name
  /-- Whether the link fails to close. -/
  fails : Bool
  sent : List Envelope
  told : List (Nat × Name × Outcome)

def Course.handshake (course : Course) (finished : Bool) : Handshake where
  establishment := course.establishment
  reporter := .callback course.name
  finished := finished

namespace World

variable {σ : Type} {v w : World σ} {h : Host σ} {course : Course} {p : Progress}
  {listening watching : Bool}

/-- A world where a handshake has come as far as `p`, and is registered or not for the next session
and for the close. -/
structure Follows (course : Course) (p : Progress) (listening watching : Bool) (w : World σ) :
    Prop where
  held : w.held = true
  standing : w.channel.standing = p.standing
  handshake : w.channel.handshakes[course.number]? = some (course.handshake p.outcome.isSome)
  listening : w.channel.sessionListeners.Has course.number listening
  watching : w.channel.closeListeners.Has course.number watching
  connected : w.link.connected = p.connected
  fails : w.link.failsToClose = course.fails
  plain : w.link.IsPlain
  compression : w.link.compression = p.compression
  encryption : w.link.encryption = p.encryption
  sent : w.link.sent = course.sent ++ p.sent.map .session
  told : w.conclusions =
    course.told ++ p.outcome.toList.map fun outcome => (course.number, course.name, outcome)

namespace Follows

theorem of_eq (hv : Follows course p listening watching v) (hheld : w.held = v.held)
    (hstanding : w.channel.standing = v.channel.standing)
    (hhandshakes : w.channel.handshakes = v.channel.handshakes)
    (hsession : w.channel.sessionListeners = v.channel.sessionListeners)
    (hclose : w.channel.closeListeners = v.channel.closeListeners)
    (hlink : w.link = v.link) (htold : w.conclusions = v.conclusions) :
    Follows course p listening watching w where
  held := by rw [hheld, hv.held]
  standing := by rw [hstanding, hv.standing]
  handshake := by rw [hhandshakes, hv.handshake]
  listening := by rw [hsession]; exact hv.listening
  watching := by rw [hclose]; exact hv.watching
  connected := by rw [hlink, hv.connected]
  fails := by rw [hlink, hv.fails]
  plain := by rw [hlink]; exact hv.plain
  compression := by rw [hlink, hv.compression]
  encryption := by rw [hlink, hv.encryption]
  sent := by rw [hlink, hv.sent]
  told := by rw [htold, hv.told]

end Follows

theorem callOut_quiet (hh : h.IsQuiet) (call : Call) (w : World σ) :
    ∃ user, w.callOut h call = { w with user } := by
  obtain ⟨user, huser⟩ := hh call { w with depth := w.depth + 1 }
  refine ⟨user, ?_⟩
  unfold callOut
  rw [huser]
  rfl

namespace Follows

/-- A listener of the program is called. -/
theorem callOut (hh : h.IsQuiet) (call : Call) (hw : Follows course p listening watching w) :
    Follows course p listening watching (w.callOut h call) := by
  obtain ⟨user, huser⟩ := callOut_quiet hh call w
  rw [huser]
  exact hw.of_eq rfl rfl rfl rfl rfl rfl rfl

theorem tellSession_named (hh : h.IsQuiet) (session : Session) (name : Name)
    (hw : Follows course p listening watching w) :
    Follows course p listening watching (w.tellSession h session (.named name)) := by
  have hnoted : Follows course p listening watching
      (w.record (.notified name (.envelope (.session session)))) :=
    hw.of_eq rfl rfl rfl rfl rfl rfl (conclusions_record rfl w)
  exact hnoted.callOut hh _

theorem tellClose_named (hh : h.IsQuiet) (state : SessionState) (name : Name)
    (hw : Follows course p listening watching w) :
    Follows course p listening watching (w.tellClose h state (.named name)) := by
  have hnoted : Follows course p listening watching
      (w.record (.notified name (.closed state))) :=
    hw.of_eq rfl rfl rfl rfl rfl rfl (conclusions_record rfl w)
  exact hnoted.callOut hh _

theorem touch (hw : Follows course p listening watching w) :
    Follows course p listening watching w.touch :=
  hw.of_eq rfl rfl rfl rfl rfl rfl rfl

theorem stopKeepAlive (hw : Follows course p listening watching w) :
    Follows course p listening watching w.stopKeepAlive :=
  hw.of_eq rfl rfl rfl rfl rfl rfl rfl

theorem settle (hw : Follows course p listening watching w) :
    Follows course p listening watching w.settle := by
  have htold : w.settle.conclusions = w.conclusions := (alike_settle w).conclusions
  rw [settle_eq] at htold ⊢
  exact hw.of_eq rfl rfl rfl rfl rfl rfl htold

/-! ### What a handshake does -/

/-- What is sent over an open link is sent. -/
theorem sendSession (hw : Follows course p listening watching w) (hopen : p.connected = true)
    (session : Session) :
    (w.sendSession session).1 = .ok () ∧
      Follows course (p.send session) listening watching (w.sendSession session).2 := by
  have hfault : w.touch.link.sendFault? = none := by
    have hdelivers := hw.plain.delivers
    have hconnected := hw.connected
    rw [hopen] at hconnected
    simp [Link.sendFault?, World.touch, modify, hdelivers, hconnected]
  have hsend : w.touch.link.send (.session session) = (.ok (), { w.link with
      attempts := w.link.attempts + 1
      sent := w.link.sent ++ [.session session] }) := by
    unfold Link.send
    rw [hfault]
    rfl
  have heq : w.sendSession session = (.ok (), ({ w.touch with link := { w.link with
      attempts := w.link.attempts + 1
      sent := w.link.sent ++ [.session session] } } : World σ).record
        (.sent (.session session))) := by
    unfold World.sendSession transmit
    simp only [if_true]
    rw [hsend]
  rw [heq]
  refine ⟨rfl, ⟨hw.held, hw.standing, hw.handshake, hw.listening, hw.watching, hw.connected,
    hw.fails, ⟨hw.plain.delivers, hw.plain.compresses, hw.plain.encrypts⟩, hw.compression,
    hw.encryption, ?_, ?_⟩⟩
  · show w.link.sent ++ [.session session] = _
    rw [hw.sent]
    simp [Progress.send]
  · rw [conclusions_record rfl]
    exact hw.told

theorem configure_none (hw : Follows course p listening watching w)
    (encryption : Option Encryption) :
    (w.configure none encryption).1 = .ok () ∧
      Follows course { p with encryption := encryption.getD p.encryption } listening watching
        (w.configure none encryption).2 := by
  unfold configure
  cases encryption with
  | none => exact ⟨rfl, hw⟩
  | some value =>
    by_cases hsame : w.link.encryption = value
    · simp only [if_pos hsame]
      exact ⟨trivial, { hw with encryption := hsame }⟩
    · have hset : w.link.setEncryption value =
          (.ok (), { w.link with encryption := value }) := by
        unfold Link.setEncryption
        rw [hw.plain.encrypts value]
      simp only [if_neg hsame, hset]
      refine ⟨trivial, ⟨hw.held, hw.standing, hw.handshake, hw.listening, hw.watching, hw.connected,
        hw.fails, ⟨hw.plain.delivers, hw.plain.compresses, hw.plain.encrypts⟩, hw.compression,
        rfl, hw.sent, ?_⟩⟩
      rw [conclusions_record rfl]
      exact hw.told

/-- A link that takes every option is set to those that are confirmed. -/
theorem configure (hw : Follows course p listening watching w)
    (compression : Option Compression) (encryption : Option Encryption) :
    (w.configure compression encryption).1 = .ok () ∧
      Follows course { p with
        compression := compression.getD p.compression
        encryption := encryption.getD p.encryption } listening watching
        (w.configure compression encryption).2 := by
  cases compression with
  | none => exact hw.configure_none encryption
  | some value =>
    rw [configure_some]
    by_cases hsame : w.link.compression = value
    · rw [if_pos hsame]
      have hset : Follows course { p with compression := value } listening watching w :=
        { hw with compression := hsame }
      exact hset.configure_none encryption
    · have hset : w.link.setCompression value =
          (.ok (), { w.link with compression := value }) := by
        unfold Link.setCompression
        rw [hw.plain.compresses value]
      have hfollows : Follows course { p with compression := value } listening watching
          (({ w with link := { w.link with compression := value } } : World σ).record
            (.compressionSet value)) := by
        refine ⟨hw.held, hw.standing, hw.handshake, hw.listening, hw.watching, hw.connected,
          hw.fails, ⟨hw.plain.delivers, hw.plain.compresses, hw.plain.encrypts⟩, rfl,
          hw.encryption, hw.sent, ?_⟩
        rw [conclusions_record rfl]
        exact hw.told
      rw [if_neg hsame]
      simp only [hset]
      exact hfollows.configure_none encryption

/-- A handshake that is told its outcome is over, and registered nowhere. -/
theorem conclude (hh : h.IsQuiet) (hw : Follows course p listening watching w)
    (hnone : p.outcome = none) (outcome : Outcome) :
    Follows course (p.conclude outcome) false false (w.conclude h course.number outcome) := by
  have hget := hw.handshake
  rw [hnone] at hget
  have hnoted : Follows course (p.conclude outcome) false false
      (w.noted course.number (course.handshake false) outcome) := by
    refine ⟨hw.held, hw.standing, ?_, hw.listening.remove, hw.watching.remove, hw.connected,
      hw.fails, hw.plain, hw.compression, hw.encryption, hw.sent, ?_⟩
    · rw [handshakes_noted, List.getElem?_set_self (getElem?_lt hget)]
      rfl
    · rw [conclusions_noted, hw.told, hnone]
      simp [Course.handshake, Progress.conclude]
  rw [conclude_of_pending hget rfl]
  exact hnoted.callOut hh _

/-- A step after which another session is expected is taken, and does what the course says. -/
theorem performStep {session : Session} {step : HandshakeStep}
    (hnext : course.establishment.next session = .ok step) (hcontinues : step.continues = true)
    (hidentity : checkIdentity course.establishment.identity = .ok ())
    (hstate : p.standing.state = session.state) (hid : p.standing.id = session.header.id)
    (hopen : p.connected = true) (hw : Follows course p listening watching w) :
    (w.performStep course.establishment step).1 = .ok () ∧
      Follows course (course.establishment.answer session p) listening watching
        (w.performStep course.establishment step).2 := by
  have hexpected := Establishment.state_of_next hnext
  have hstanding := hw.standing
  cases step with
  | complete => cases hcontinues
  | negotiate compression encryption =>
    have hensure : w.channel.standing.ensure .negotiating "negotiate a session" = .ok () := by
      rw [ensure_eq_ok, hstanding, hstate, hexpected]
    have hq : course.establishment.answer session p = p.send {
        header := { id := w.channel.standing.id }
        state := .negotiating
        compression := some compression
        encryption := some encryption } := by
      rw [hstanding, hid, Establishment.answer, hnext]
    rw [hq]
    simp only [World.performStep, negotiate, hensure]
    exact hw.sendSession hopen _
  | configure compression encryption =>
    have hq : course.establishment.answer session p = { p with
        compression := compression.getD p.compression
        encryption := encryption.getD p.encryption } := by
      rw [Establishment.answer, hnext]
    rw [hq]
    exact hw.configure compression encryption
  | authenticate =>
    have hensure : w.channel.standing.ensure .authenticating "authenticate a session" =
        .ok () := by
      rw [ensure_eq_ok, hstanding, hstate, hexpected]
    have hq : course.establishment.answer session p = p.send
        (Session.withAuthentication {
          header := {
            id := w.channel.standing.id
            sender := some (course.establishment.identity.at? course.establishment.place) }
          state := .authenticating } course.establishment.authentication) := by
      rw [hstanding, hid, Establishment.answer, hnext]
      rfl
    rw [hq]
    simp only [World.performStep, authenticate, hensure, hidentity]
    exact hw.sendSession hopen _

/-- A handshake that is told of a session answers it, and is registered again if it is not over. -/
theorem handshakeReceives (hh : h.IsQuiet) {session : Session}
    (hidentity : checkIdentity course.establishment.identity = .ok ())
    (hw : Follows course p false watching w) (hnone : p.outcome = none)
    (hstate : p.standing.state = session.state) (hid : p.standing.id = session.header.id)
    (hopen : session.state.isTerminal = false → p.connected = true ∧ watching = true) :
    Follows course (course.establishment.answer session p)
      (course.establishment.answer session p).outcome.isNone
      (course.establishment.answer session p).outcome.isNone
      (w.handshakeReceives h course.number session) := by
  have hget : w.channel.handshakes[course.number]? = some (course.handshake false) := by
    rw [hw.handshake, hnone]
    rfl
  have hestablishment : (course.handshake false).establishment = course.establishment := rfl
  rw [handshakeReceives_of_pending hget rfl, hestablishment]
  cases hnext : course.establishment.next session with
  | error error =>
    have hq : course.establishment.answer session p = p.conclude (.error error) := by
      rw [Establishment.answer, hnext]
    rw [hq]
    exact hw.conclude hh hnone _
  | ok step =>
    dsimp only
    cases hcontinues : step.continues with
    | false =>
      have hcomplete : step = .complete := by cases step <;> first | rfl | cases hcontinues
      have hq : course.establishment.answer session p = p.conclude (.ok session) := by
        rw [Establishment.answer, hnext, hcomplete]
      rw [hq]
      exact hw.conclude hh hnone _
    | true =>
      have hterminal : session.state.isTerminal = false := by
        cases hover : session.state.isTerminal with
        | false => rfl
        | true =>
          rw [Establishment.next_of_terminal hover] at hnext
          cases hnext
          cases hcontinues
      obtain ⟨hconnected, rfl⟩ := hopen hterminal
      have hregistered : Follows course p true true
          (w.addSessionListener (.handshake course.number) true).2 :=
        { hw with listening := Registry.Vacant.add hw.listening }
      obtain ⟨hresult, hperformed⟩ :=
        hregistered.performStep hnext hcontinues hidentity hstate hid hconnected
      rw [Establishment.outcome_answer hnext hcontinues, hnone, if_pos rfl]
      cases hperform : (w.addSessionListener (.handshake course.number) true).2.performStep
        course.establishment step with
      | mk result u =>
        rw [hperform] at hresult hperformed
        cases hresult
        exact hperformed

/-! ### What happens to a channel -/

/-- A close that fails, or that comes after another, changes nothing. -/
theorem closeLink_idle (hw : Follows course p listening watching w)
    (hidle : (course.fails || !p.connected) = true) :
    Follows course p listening watching (w.closeLink h).2 := by
  have hcounted : Follows course p listening watching
      { w.record .closing with link := { w.link with closeCalls := w.link.closeCalls + 1 } } :=
    { hw with
      plain := ⟨hw.plain.delivers, hw.plain.compresses, hw.plain.encrypts⟩
      told := by rw [← hw.told]; exact conclusions_record rfl w }
  have hfails := hw.fails
  have hconnected := hw.connected
  unfold closeLink
  dsimp only
  split
  · exact hcounted
  · rename_i hsucceeds
    have hcut : p.connected = false := by
      have hnot : course.fails = false := by
        rw [← hfails]
        exact Bool.eq_false_iff.mpr hsucceeds
      simpa [hnot] using hidle
    unfold disconnect
    rw [if_neg (by
      show ¬ w.link.connected = true
      rw [hconnected, hcut]
      exact Bool.false_ne_true)]
    exact hcounted

/-- The link has been closed, and the listeners for that are taken out of their registry. -/
theorem takeClose (hw : Follows course p listening watching w) :
    Follows course { p with connected := false } listening false
      (w.cut.modify fun channel =>
        { channel with closeListeners := channel.closeListeners.withoutOnce }) :=
  { hw with
    watching := hw.watching.withoutOnce
    connected := rfl
    plain := ⟨hw.plain.delivers, hw.plain.compresses, hw.plain.encrypts⟩
    told := by rw [← hw.told]; exact conclusions_record rfl w }

theorem closable (hw : Follows course p listening watching w)
    (hbusy : (course.fails || !p.connected) = false) : Closable w := by
  obtain ⟨hfails, hconnected⟩ := Bool.or_eq_false_iff.mp hbusy
  refine ⟨?_, ?_, ?_⟩
  · rw [hw.connected]
    exact Bool.not_eq_false' .. |>.mp hconnected
  · simp [alive, hw.held]
  · rw [hw.fails, hfails]

/-- A handshake that is not registered for the close does not hear of it. -/
theorem closeLink_unheard (hh : h.IsQuiet) (hw : Follows course p listening false w)
    (hbusy : (course.fails || !p.connected) = false) :
    Follows course { p with connected := false } listening false (w.closeLink h).2 := by
  rw [closeLink_of_closable (hw.closable hbusy)]
  exact Registry.Vacant.foldl hw.watching (fun name _ hu => hu.tellClose_named hh _ name)
    hw.takeClose

/-- A handshake that is told of the close after the session is over does nothing. -/
theorem closeLink_ignored (hh : h.IsQuiet) (hterminal : p.standing.state.isTerminal = true)
    (hw : Follows course p listening true w) (hbusy : (course.fails || !p.connected) = false) :
    Follows course { p with connected := false } listening false (w.closeLink h).2 := by
  rw [closeLink_of_closable (hw.closable hbusy)]
  refine Registry.Solely.foldl hw.watching (fun name _ hu => hu.tellClose_named hh _ name)
    (fun u hu => ?_) (fun name _ hu => hu.tellClose_named hh _ name) hw.takeClose
  show Follows _ _ _ _ (u.handshakeCloses h course.number w.channel.standing.state)
  unfold handshakeCloses
  rw [hw.standing, if_pos hterminal]
  exact hu

/-- A handshake that is told of the close before the session is over has failed. -/
theorem closeLink_heard (hh : h.IsQuiet) (hnone : p.outcome = none)
    (hterminal : p.standing.state.isTerminal = false)
    (hw : Follows course p listening true w) (hbusy : (course.fails || !p.connected) = false) :
    Follows course ({ p with connected := false }.conclude (.error (.transport (.connectionClosed
      ("transport closed in the '" ++ p.standing.state.text ++ "' state"))))) false false
      (w.closeLink h).2 := by
  rw [closeLink_of_closable (hw.closable hbusy)]
  refine Registry.Solely.foldl hw.watching (fun name _ hu => hu.tellClose_named hh _ name)
    (fun u hu => ?_) (fun name _ hu => hu.tellClose_named hh _ name) hw.takeClose
  show Follows _ _ _ _ (u.handshakeCloses h course.number w.channel.standing.state)
  unfold handshakeCloses
  rw [hw.standing, if_neg (by rw [hterminal]; exact Bool.false_ne_true)]
  exact hu.conclude hh hnone _

/-- A session is taken in; if it is the last, the link is closed, and the handshake does not
mind. -/
theorem admitted (hh : h.IsQuiet) (session : Session)
    (hw : Follows course p listening watching w) :
    ∃ watching', Follows course (p.takeIn course.fails session) listening watching'
        (w.admitted h session) ∧
      (session.state.isTerminal = false → watching' = watching) ∧
      (watching = false → watching' = false) := by
  have hstanding : Follows course { p with standing := p.standing.after session } listening watching
      (w.modify fun channel => { channel with standing := channel.standing.after session }) :=
    { hw with standing := by rw [← hw.standing]; rfl }
  unfold World.admitted
  dsimp only
  cases hterminal : session.state.isTerminal with
  | false =>
    have hq : p.takeIn course.fails session =
        { p with standing := p.standing.after session } := by
      simp [Progress.takeIn, hterminal]
    rw [hq]
    exact ⟨watching, hstanding, fun _ => rfl, id⟩
  | true =>
    have hstopped := hstanding.stopKeepAlive
    have hover : (p.standing.after session).state.isTerminal = true := by
      rw [Standing.state_after]
      exact hterminal
    rw [if_pos rfl]
    cases hidle : (course.fails || !p.connected) with
    | true =>
      have hq : p.takeIn course.fails session =
          { p with standing := p.standing.after session } := by
        cases hfails : course.fails <;> cases hconnected : p.connected <;>
          simp [Progress.takeIn, hterminal, hfails, hconnected] at hidle ⊢
      rw [hq]
      exact ⟨watching, hstopped.closeLink_idle hidle, fun hnot => (by cases hnot), id⟩
    | false =>
      have hfails : course.fails = false := (Bool.or_eq_false_iff.mp hidle).1
      have hq : p.takeIn course.fails session =
          { p with standing := p.standing.after session, connected := false } := by
        simp [Progress.takeIn, hterminal, hfails]
      rw [hq]
      refine ⟨false, ?_, fun hnot => (by cases hnot), fun _ => rfl⟩
      cases watching with
      | true => exact hstopped.closeLink_ignored hh hover hidle
      | false => exact hstopped.closeLink_unheard hh hidle

end Follows

/-- Between deliveries, a handshake is registered for the next session and for the close until it is
over. -/
def Rests (course : Course) (p : Progress) (w : World σ) : Prop :=
  Follows course p p.outcome.isNone p.outcome.isNone w

namespace Rests

theorem closeLink (hh : h.IsQuiet) (hp : p.IsOpen) (hw : Rests course p w) :
    Rests course (course.establishment.advance course.fails p .close) (w.closeLink h).2 := by
  cases hidle : (course.fails || !p.connected) with
  | true =>
    have hq : course.establishment.advance course.fails p .close = p := by
      simp only [Establishment.advance, hidle, if_pos]
    rw [hq]
    exact Follows.closeLink_idle hw hidle
  | false =>
    unfold Rests at hw
    cases houtcome : p.outcome with
    | none =>
      have hq : course.establishment.advance course.fails p .close =
          { p with connected := false }.conclude (.error (.transport (.connectionClosed
            ("transport closed in the '" ++ p.standing.state.text ++ "' state")))) := by
        simp [Establishment.advance, hidle, houtcome]
      rw [houtcome] at hw
      rw [hq]
      exact Follows.closeLink_heard hh houtcome (hp houtcome).2 hw hidle
    | some outcome =>
      have hq : course.establishment.advance course.fails p .close =
          { p with connected := false } := by
        simp [Establishment.advance, hidle, houtcome]
      have hover : p.outcome.isNone = false := by rw [houtcome]; rfl
      rw [hover] at hw
      rw [hq]
      show Follows course _ p.outcome.isNone p.outcome.isNone _
      rw [hover]
      exact Follows.closeLink_unheard hh hw hidle

theorem receive (hh : h.IsQuiet)
    (hidentity : checkIdentity course.establishment.identity = .ok ()) (hp : p.IsOpen)
    (hw : Rests course p w) (session : Session) :
    Rests course (course.establishment.advance course.fails p (.session session))
      (w.receive h (.session session)).2 := by
  -- A last session closes the link first, and that may take the handshake out of the registry for
  -- the close; it is over then in any case.
  obtain ⟨watching, hadmitted, hkeeps, hnever⟩ := Follows.admitted hh session (Follows.touch hw)
  show Rests course _ ((w.touch.admitted h session).deliverSession h session)
  have htaken : Follows course (p.takeIn course.fails session) false watching
      ((w.touch.admitted h session).modify fun channel =>
        { channel with sessionListeners := channel.sessionListeners.withoutOnce }) :=
    { hadmitted with listening := hadmitted.listening.withoutOnce }
  have houtcome : (p.takeIn course.fails session).outcome = p.outcome := rfl
  cases hover : p.outcome with
  | some outcome =>
    have hq : course.establishment.advance course.fails p (.session session) =
        p.takeIn course.fails session := by
      simp [Establishment.advance, houtcome, hover]
    have hwatching : watching = false := hnever (by rw [hover]; rfl)
    have hlistening := hadmitted.listening
    rw [hover] at hlistening
    subst hwatching
    rw [hq]
    unfold Rests
    rw [houtcome, hover]
    exact Registry.Vacant.foldl hlistening
      (fun name _ hu => hu.tellSession_named hh session name) htaken
  | none =>
    have hq : course.establishment.advance course.fails p (.session session) =
        course.establishment.answer session (p.takeIn course.fails session) := by
      simp [Establishment.advance, houtcome, hover]
    have hlistening := hadmitted.listening
    rw [hover] at hlistening
    rw [hq]
    refine Registry.Solely.foldl hlistening
      (fun name _ hu => hu.tellSession_named hh session name) (fun u hu => ?_)
      (fun name _ hu => hu.tellSession_named hh session name) htaken
    refine hu.handshakeReceives hh hidentity (houtcome.trans hover) ?_ ?_ ?_
    · exact Standing.state_after _ _
    · exact Standing.id_after _ _
    · intro hterminal
      constructor
      · simp [Progress.takeIn, hterminal, (hp hover).1]
      · rw [hkeeps hterminal, hover]
        rfl

end Rests

/-! ## Runs -/

/-- A new channel over an open link, where no handshake is registered. -/
structure Fresh (w : World σ) : Prop where
  held : w.held = true
  new : w.channel.standing.state = .new
  connected : w.link.connected = true
  plain : w.link.IsPlain
  unheard : w.channel.sessionListeners.Vacant
  unwatched : w.channel.closeListeners.Vacant

/-- How far a handshake has come that is started now. -/
def outset (w : World σ) : Progress where
  standing := w.channel.standing
  compression := w.link.compression
  encryption := w.link.encryption

/-- The course of a handshake that is started now. -/
def courseOf (establishment : Establishment) (name : Name) (w : World σ) : Course where
  number := w.channel.handshakes.length
  establishment := establishment
  name := name
  fails := w.link.failsToClose
  sent := w.link.sent
  told := w.conclusions

/-- The start succeeds, and sends the one new session. -/
theorem Fresh.establish (hw : Fresh w) {establishment : Establishment}
    (hidentity : checkIdentity establishment.identity = .ok ()) (name : Name) :
    (w.establish establishment (.callback name)).1 = .ok () ∧
      Rests (w.courseOf establishment name) w.outset
        (w.establish establishment (.callback name)).2 := by
  have hstarted : Follows (w.courseOf establishment name) { w.outset with sent := [] } true true
      (w.started establishment (.callback name)) := by
    refine ⟨hw.held, rfl, ?_, hw.unheard.add, hw.unwatched.add, hw.connected, rfl, hw.plain, rfl,
      rfl, ?_, ?_⟩
    · rw [handshakes_started]
      exact List.getElem?_concat_length
    · exact (List.append_nil _).symm
    · exact (List.append_nil _).symm
  obtain ⟨hresult, hsent⟩ := hstarted.sendSession rfl { state := .new }
  rw [establish_of_new hw.new hidentity]
  cases hsend : (w.started establishment (.callback name)).sendSession { state := .new } with
  | mk result u =>
    rw [hsend] at hresult hsent
    cases hresult
    exact ⟨rfl, hsent⟩

/-- An incident takes a handshake one step along its course. -/
theorem Rests.step (hh : h.IsQuiet)
    (hidentity : checkIdentity course.establishment.identity = .ok ()) (hp : p.IsOpen)
    (hw : Rests course p w) (incident : Incident) :
    Rests course (course.establishment.advance course.fails p incident)
      (w.step h (.request incident.request)).2 := by
  have hheld : (incident.request.isForChannel && !w.held) = false := by
    rw [hw.held]
    simp
  show Rests course _ (w.perform h incident.request).2.settle
  unfold perform
  rw [hheld, if_neg Bool.false_ne_true]
  cases incident with
  | session session => exact Follows.settle (hw.receive hh hidentity hp session)
  | close => exact Follows.settle (hw.closeLink hh hp)

theorem Rests.after (hh : h.IsQuiet)
    (hidentity : checkIdentity course.establishment.identity = .ok ()) (hp : p.IsOpen)
    (hw : Rests course p w) (incidents : List Incident) :
    Rests course (incidents.foldl (course.establishment.advance course.fails) p)
      (w.after h (incidents.map fun incident => .request incident.request)) := by
  induction incidents generalizing p w with
  | nil => exact hw
  | cons incident incidents ih =>
    exact ih (Establishment.isOpen_advance _ _ hp incident) (hw.step hh hidentity hp incident)

/-- On a new channel over an open link, with a program that only listens, the start of a handshake
succeeds, and whatever happens then, the handshake gets along the course that is the fold of what
happened: what is sent, to what the link is set, whether it is closed, where the session stands, and
the one outcome that is told. -/
theorem handshake_follows_course (hw : Fresh w) (hh : h.IsQuiet) {establishment : Establishment}
    (hidentity : checkIdentity establishment.identity = .ok ()) (name : Name)
    (incidents : List Incident) :
    let started := w.step h (.request (.establish establishment name))
    let now := started.2.after h (incidents.map fun incident => .request incident.request)
    let p := incidents.foldl (establishment.advance w.link.failsToClose) w.outset
    started.1 = .flag true ∧
      now.link.sent = w.link.sent ++ p.sent.map .session ∧
      now.link.compression = p.compression ∧ now.link.encryption = p.encryption ∧
      now.link.connected = p.connected ∧ now.channel.standing = p.standing ∧
      now.conclusions = w.conclusions ++
        p.outcome.toList.map fun outcome => (w.channel.handshakes.length, name, outcome) := by
  intro started now p
  obtain ⟨hresult, hestablished⟩ := hw.establish hidentity name
  have hperform : w.perform h (.establish establishment name) =
      (.flag true, (w.establish establishment (.callback name)).2) := by
    unfold perform
    rw [hw.held]
    show (Reply.ofChannel (w.establish establishment (.callback name)).1, _) = _
    rw [hresult]
    rfl
  have hopen : w.outset.IsOpen := by
    intro _
    refine ⟨rfl, ?_⟩
    show w.channel.standing.state.isTerminal = false
    rw [hw.new]
    rfl
  have hstarted : Rests (w.courseOf establishment name) w.outset started.2 := by
    show Rests _ _ (w.perform h (.establish establishment name)).2.settle
    rw [hperform]
    exact Follows.settle hestablished
  have hnow : Rests (w.courseOf establishment name) p now :=
    hstarted.after hh hidentity hopen incidents
  refine ⟨congrArg Prod.fst hperform, hnow.sent, hnow.compression, hnow.encryption,
    hnow.connected, hnow.standing, hnow.told⟩

/-- A handshake from the offer of the server to the established session, and a close after that. -/
theorem handshake_follows_course_established :
    let w : World Unit := { user := () }
    let header : Header := { id := some "s" }
    let offer : Session := {
      header, state := .negotiating
      compressionOptions := some [.gzip], encryptionOptions := some [.off, .tls] }
    let confirmation : Session := {
      header, state := .negotiating
      compression := some .gzip, encryption := some .off }
    let established : Session := { header, state := .established }
    let incidents : List Incident := [.session offer, .session confirmation,
      .session { header, state := .authenticating }, .session established, .close]
    let started := w.step .silent (.request (.establish aliceAsGuest "door"))
    let now := started.2.after .silent (incidents.map fun incident => .request incident.request)
    now.link.sent = [.session { state := .new }, .session confirmation, .session {
        header := { header with sender := some (aliceAsGuest.identity.at? none) }
        state := .authenticating, scheme := some .guest, authentication := some (.object []) }] ∧
      now.link.compression = .gzip ∧ now.link.connected = false ∧
      now.conclusions = [(0, "door", .ok established)] := by
  intro w header offer confirmation established incidents
  have hw : Fresh w := ⟨rfl, rfl, rfl, ⟨rfl, fun _ => rfl, fun _ => rfl⟩,
    fun _ hentry => absurd hentry List.not_mem_nil,
    fun _ hentry => absurd hentry List.not_mem_nil⟩
  have hh : Host.IsQuiet (@Host.silent Unit) := fun _ u => ⟨u.user, rfl⟩
  have hidentity : checkIdentity aliceAsGuest.identity = .ok () := rfl
  have hcourse := handshake_follows_course hw hh hidentity "door" incidents
  have hp : incidents.foldl (aliceAsGuest.advance w.link.failsToClose) w.outset = {
      standing := { state := .established, id := some "s" }
      connected := false
      compression := .gzip
      encryption := .off
      sent := [{ state := .new }, confirmation, {
        header := { header with sender := some (aliceAsGuest.identity.at? none) }
        state := .authenticating, scheme := some .guest, authentication := some (.object []) }]
      outcome := some (.ok established) } := rfl
  dsimp only at hcourse ⊢
  rw [hp] at hcourse
  obtain ⟨_, hsent, hcompression, _, hconnected, _, htold⟩ := hcourse
  exact ⟨hsent, hcompression, hconnected, htold⟩
end World
end Courier
