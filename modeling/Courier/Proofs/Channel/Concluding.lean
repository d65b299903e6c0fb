/-
How handshakes are started, registered and told.

What an operation does to handshakes comes down to three things.  One is started, and is pending and
in both registries from then on (`started`); one is registered for another session; and one is told
its outcome: it is over and out of the registries, and whoever it concerns hears of it (`noted`,
`announced`).
-/
import Courier.Proofs.Channel.Handshakes

namespace Courier
namespace World

variable {σ : Type} {v w : World σ} {h : Host σ} {n : Nat}

/-! ## Starting -/

/-- Alice of example.org, as a guest. -/
def aliceAsGuest : Establishment where
  identity := { name := some "alice", domain := some "example.org" }
  authentication := .guest

/-- A handshake has been started, and nothing has been sent for it yet. -/
def started (establishment : Establishment) (reporter : Reporter) (w : World σ) : World σ :=
  let number := w.channel.handshakes.length
  let handshakes := w.channel.handshakes ++ [{ establishment := establishment, reporter := reporter }]
  let w := w.modify fun channel => { channel with handshakes }
  ((w.addCloseListener (.handshake number) true).2.addSessionListener (.handshake number) true).2

theorem connected_of_transmit {envelope : Envelope} {isActivity : Bool}
    (h : (w.transmit envelope isActivity).1 = .ok ()) : w.link.connected = true := by
  have hlink : (if isActivity then w.touch else w).link = w.link := by cases isActivity <;> rfl
  cases hconnected : w.link.connected with
  | true => rfl
  | false =>
    have hfault : ∃ fault, w.link.sendFault? = some fault := by
      unfold Link.sendFault?
      split
      · exact ⟨_, rfl⟩
      · exact ⟨_, by rw [hconnected]; rfl⟩
    obtain ⟨fault, hfault⟩ := hfault
    simp [transmit, Link.send, hlink, hfault] at h

theorem ensure_eq_ok {standing : Standing} {state : SessionState} {operation : String} :
    standing.ensure state operation = .ok () ↔ standing.state = state := by
  unfold Standing.ensure
  split <;> simp [*]

theorem startSession_of_new (hnew : w.channel.standing.state = .new) (listener : Subscriber) :
    w.startSession listener =
      match (w.addSessionListener listener true).2.sendSession { state := .new } with
      | (.ok (), w) => (.ok (), w)
      | (.error error, w) => (.error error, (w.removeSessionListener listener).2) := by
  unfold startSession
  generalize (w.addSessionListener listener true).2.sendSession { state := .new } = sent
  obtain ⟨result, u⟩ := sent
  cases result <;> simp only [ensure_eq_ok.mpr hnew]

/-- The handshake that was started last is given up. -/
def abandoned (handshakes : List Handshake) (w : World σ) : World σ :=
  let number := handshakes.length
  ((w.removeSessionListener (.handshake number)).2.removeCloseListener
    (.handshake number)).2.modify fun channel => { channel with handshakes }

theorem establish_of_new {establishment : Establishment} (hnew : w.channel.standing.state = .new)
    (hidentity : checkIdentity establishment.identity = .ok ()) (reporter : Reporter) :
    w.establish establishment reporter =
      match (w.started establishment reporter).sendSession { state := .new } with
      | (.ok (), w) => (.ok (), w)
      | (.error error, u) => (.error error, u.abandoned w.channel.handshakes) := by
  unfold establish
  rw [ensure_eq_ok.mpr hnew, hidentity]
  dsimp only
  rw [startSession_of_new (by exact hnew)]
  simp only [started]
  generalize sendSession _ _ = sent
  obtain ⟨result, u⟩ := sent
  cases result <;> rfl

theorem getElem?_lt {number : Nat} {handshake : Handshake}
    (hget : w.channel.handshakes[number]? = some handshake) :
    number < w.channel.handshakes.length :=
  (List.getElem?_eq_some_iff.mp hget).1

theorem handshakes_started {establishment : Establishment} {reporter : Reporter} :
    (w.started establishment reporter).channel.handshakes =
      w.channel.handshakes ++ [{ establishment := establishment, reporter := reporter }] :=
  rfl

theorem lt_started {establishment : Establishment} {reporter : Reporter}
    (hlt : n < w.channel.handshakes.length) :
    n < (w.started establishment reporter).channel.handshakes.length := by
  rw [handshakes_started, List.length_append]
  exact Nat.lt_add_right 1 hlt

theorem listens_started {establishment : Establishment} {reporter : Reporter} :
    Listens n (w.started establishment reporter) ↔
      Listens n w ∨ n = w.channel.handshakes.length := by
  show Subscriber.handshake n ∈ (w.channel.sessionListeners.add _ true).2.listeners ↔ _
  rw [Registry.mem_add]
  simp [Listens]

theorem awaitsClose_started {establishment : Establishment} {reporter : Reporter} :
    AwaitsClose n (w.started establishment reporter) ↔
      AwaitsClose n w ∨ n = w.channel.handshakes.length := by
  show Subscriber.handshake n ∈ (w.channel.closeListeners.add _ true).2.listeners ↔ _
  rw [Registry.mem_add]
  simp [AwaitsClose]

theorem listens_abandoned {handshakes : List Handshake} :
    Listens n (w.abandoned handshakes) ↔ Listens n w ∧ n ≠ handshakes.length := by
  show Subscriber.handshake n ∈ (w.channel.sessionListeners.remove _).2.listeners ↔ _
  rw [Registry.mem_remove]
  simp [Listens]

theorem awaitsClose_abandoned {handshakes : List Handshake} :
    AwaitsClose n (w.abandoned handshakes) ↔ AwaitsClose n w ∧ n ≠ handshakes.length := by
  show Subscriber.handshake n ∈ (w.channel.closeListeners.remove _).2.listeners ↔ _
  rw [Registry.mem_remove]
  simp [AwaitsClose]

/-- A handshake that is given up leaves no trace. -/
theorem alike_abandoned {u : World σ} {establishment : Establishment} {reporter : Reporter}
    (halike : Alike (w.started establishment reporter) u) :
    Alike w (u.abandoned w.channel.handshakes) where
  handshakes := rfl
  listens n hn := by
    have hne : n ≠ w.channel.handshakes.length := by omega
    rw [listens_abandoned, halike.listens n (lt_started hn), listens_started]
    simp [hne]
  awaitsClose n hn := by
    have hne : n ≠ w.channel.handshakes.length := by omega
    rw [awaitsClose_abandoned, halike.awaitsClose n (lt_started hn), awaitsClose_started]
    simp [hne]
  listened n hlistens := by
    obtain ⟨hlistens, hne⟩ := listens_abandoned.mp hlistens
    exact (listens_started.mp (halike.listened n hlistens)).resolve_right hne
  awaitedClose n hawaits := by
    obtain ⟨hawaits, hne⟩ := awaitsClose_abandoned.mp hawaits
    exact (awaitsClose_started.mp (halike.awaitedClose n hawaits)).resolve_right hne
  connected := halike.connected
  conclusions := halike.conclusions
  answers := halike.answers

/-- An attempt to start a handshake either fails and leaves no trace of it, or it starts one. -/
theorem establish_cases (establishment : Establishment) (reporter : Reporter) (w : World σ) :
    (∃ error, (w.establish establishment reporter).1 = .error error ∧
      Alike w (w.establish establishment reporter).2) ∨
    ((w.establish establishment reporter).1 = .ok () ∧ w.link.connected = true ∧
      Alike (w.started establishment reporter) (w.establish establishment reporter).2) := by
  by_cases hnew : w.channel.standing.state = .new
  · cases hidentity : checkIdentity establishment.identity with
    | error error =>
      unfold establish
      rw [ensure_eq_ok.mpr hnew, hidentity]
      exact .inl ⟨error, rfl, Alike.refl w⟩
    | ok =>
      have hsend := alike_sendSession { state := .new } (w.started establishment reporter)
      rw [establish_of_new hnew hidentity]
      cases hsent : (w.started establishment reporter).sendSession { state := .new } with
      | mk result u =>
        rw [hsent] at hsend
        cases result with
        | error error => exact .inl ⟨error, rfl, alike_abandoned hsend⟩
        | ok =>
          have hconnected : (w.started establishment reporter).link.connected = true :=
            connected_of_transmit (congrArg Prod.fst hsent)
          exact .inr ⟨rfl, hconnected, hsend⟩
  · unfold establish
    split
    · exact .inl ⟨_, rfl, Alike.refl w⟩
    · rename_i hok
      exact absurd (ensure_eq_ok.mp hok) hnew

/-! ## Telling a handshake -/

/-- A handshake is over, and its outcome is on the way to whom it concerns. -/
def noted (number : Nat) (handshake : Handshake) (outcome : Outcome) (w : World σ) : World σ :=
  match handshake.reporter with
  | .callback name => (w.retire number handshake).record (.concluded number name outcome)
  | .waiting name =>
    let w := w.retire number handshake
    { w with arrived := w.arrived ++ [(name, outcome)] }

/-- Whoever is called with the outcome is called. -/
def announced (h : Host σ) (reporter : Reporter) (outcome : Outcome) (w : World σ) : World σ :=
  match reporter with
  | .callback name => w.callOut h (.outcome name outcome)
  | .waiting _ => w

variable {handshake : Handshake}

theorem conclude_of_pending (hget : w.channel.handshakes[n]? = some handshake)
    (hpending : handshake.finished = false) (outcome : Outcome) :
    w.conclude h n outcome =
      (w.noted n handshake outcome).announced h handshake.reporter outcome := by
  unfold conclude report noted announced
  rw [hget]
  dsimp only
  rw [hpending]
  cases handshake.reporter <;> rfl

theorem conclude_of_not_pending (hpending : ¬ Pending n w) (outcome : Outcome) :
    w.conclude h n outcome = w := by
  unfold conclude
  split
  · rfl
  · rename_i handshake hget
    split
    · rfl
    · rename_i hfinished
      exact absurd ⟨handshake, hget, Bool.not_eq_true _ ▸ hfinished⟩ hpending

theorem handshakeReceives_of_not_pending (hpending : ¬ Pending n w) (session : Session) :
    w.handshakeReceives h n session = w := by
  unfold handshakeReceives
  split
  · rfl
  · rename_i handshake hget
    split
    · rfl
    · rename_i hfinished
      exact absurd ⟨handshake, hget, Bool.not_eq_true _ ▸ hfinished⟩ hpending

theorem handshakeCloses_of_not_pending (hpending : ¬ Pending n w) (state : SessionState) :
    w.handshakeCloses h n state = w := by
  unfold handshakeCloses
  split
  · rfl
  · exact conclude_of_not_pending hpending _

/-- A handshake that is concluded is unregistered anyway. -/
theorem conclude_removeSessionListener (hpending : Pending n w) (outcome : Outcome) :
    (w.removeSessionListener (.handshake n)).2.conclude h n outcome = w.conclude h n outcome := by
  obtain ⟨handshake, hget, hfinished⟩ := hpending
  have hretire : (w.removeSessionListener (.handshake n)).2.retire n handshake =
      w.retire n handshake := by
    simp only [retire, removeSessionListener, modify, Registry.remove, List.filter_filter,
      Bool.and_self]
  have hnoted : (w.removeSessionListener (.handshake n)).2.noted n handshake outcome =
      w.noted n handshake outcome := by
    unfold noted
    rw [hretire]
  rw [conclude_of_pending hget hfinished,
    conclude_of_pending (by exact hget) hfinished, hnoted]

/-- What a pending handshake does when it is told of a session. -/
theorem handshakeReceives_of_pending (hget : w.channel.handshakes[n]? = some handshake)
    (hpending : handshake.finished = false) (session : Session) :
    w.handshakeReceives h n session =
      match handshake.establishment.next session with
      | .error error => w.conclude h n (.error error)
      | .ok step =>
        if step.continues then
          match (w.addSessionListener (.handshake n) true).2.performStep
            handshake.establishment step with
          | (.ok (), w) => w
          | (.error error, w) => w.conclude h n (.error error)
        else w.conclude h n (.ok session) := by
  unfold handshakeReceives
  rw [hget]
  dsimp only
  rw [hpending]
  simp only [Bool.false_eq_true, if_false]
  cases handshake.establishment.next session with
  | error error => rfl
  | ok step =>
    dsimp only
    split
    -- If the step fails, the handshake is unregistered twice: once here, and once as it is over.
    · have hstep := alike_performStep handshake.establishment step
        (w.addSessionListener (.handshake n) true).2
      cases hperform : (w.addSessionListener (.handshake n) true).2.performStep
        handshake.establishment step with
      | mk result u =>
        rw [hperform] at hstep
        have hpending' : Pending n u :=
          ⟨handshake, hstep.handshakes ▸ hget, hpending⟩
        cases result with
        | ok => rfl
        | error error => exact conclude_removeSessionListener hpending' _
    · rename_i hcomplete
      cases step <;> first | rfl | exact absurd rfl hcomplete

/-! ## What becomes of a handshake -/

theorem not_pending_of_finished (hfinished : Finished n w) : ¬ Pending n w := by
  obtain ⟨handshake, hget, hover⟩ := hfinished
  rintro ⟨other, hother, hpending⟩
  rw [hget] at hother
  cases hother
  rw [hover] at hpending
  cases hpending

theorem finished_or_pending (hlt : n < w.channel.handshakes.length) :
    Finished n w ∨ Pending n w := by
  have hget := List.getElem?_eq_getElem hlt
  cases hover : (w.channel.handshakes[n]).finished with
  | true => exact .inl ⟨_, hget, hover⟩
  | false => exact .inr ⟨_, hget, hover⟩

theorem Finished.lt (hfinished : Finished n w) : n < w.channel.handshakes.length := by
  obtain ⟨_, hget, _⟩ := hfinished
  exact getElem?_lt hget

theorem Pending.lt (hpending : Pending n w) : n < w.channel.handshakes.length := by
  obtain ⟨_, hget, _⟩ := hpending
  exact getElem?_lt hget

theorem Alike.finished (halike : Alike v w) : Finished n w ↔ Finished n v := by
  rw [Finished, Finished, halike.handshakes]

theorem Alike.pending (halike : Alike v w) : Pending n w ↔ Pending n v := by
  rw [Pending, Pending, halike.handshakes]

section started

variable {establishment : Establishment} {reporter : Reporter}

theorem finished_started : Finished n (w.started establishment reporter) ↔ Finished n w := by
  rw [Finished, handshakes_started]
  by_cases hlt : n < w.channel.handshakes.length
  · rw [List.getElem?_append_left hlt, Finished]
  · have hnot : ¬ Finished n w := fun hfinished => hlt hfinished.lt
    rw [List.getElem?_append_right (by omega)]
    cases n - w.channel.handshakes.length with
    | zero => simp [hnot]
    | succ k => simp [hnot]

theorem pending_started : Pending n (w.started establishment reporter) ↔
    Pending n w ∨ n = w.channel.handshakes.length := by
  rw [Pending, handshakes_started]
  by_cases hlt : n < w.channel.handshakes.length
  · have hne : n ≠ w.channel.handshakes.length := by omega
    rw [List.getElem?_append_left hlt]
    simp [Pending, hne]
  · have hnot : ¬ Pending n w := fun hpending => hlt hpending.lt
    rw [List.getElem?_append_right (by omega)]
    cases hk : n - w.channel.handshakes.length with
    | zero =>
      have heq : n = w.channel.handshakes.length := by omega
      simp [heq]
    | succ k =>
      have hne : n ≠ w.channel.handshakes.length := by omega
      simp [hnot, hne]

end started

theorem listens_register {m : Nat} :
    Listens m (w.addSessionListener (.handshake n) true).2 ↔ Listens m w ∨ m = n := by
  show Subscriber.handshake m ∈ (w.channel.sessionListeners.add _ true).2.listeners ↔ _
  rw [Registry.mem_add]
  simp [Listens]

section noted

variable {m : Nat} {outcome : Outcome}

theorem channel_noted : (w.noted n handshake outcome).channel = (w.retire n handshake).channel := by
  unfold noted
  cases handshake.reporter <;> rfl

theorem connected_noted : (w.noted n handshake outcome).link.connected = w.link.connected := by
  unfold noted
  cases handshake.reporter <;> rfl

theorem listens_noted : Listens m (w.noted n handshake outcome) ↔ Listens m w ∧ m ≠ n := by
  rw [Listens, channel_noted]
  show Subscriber.handshake m ∈ (w.channel.sessionListeners.remove _).2.listeners ↔ _
  rw [Registry.mem_remove]
  simp [Listens]

theorem awaitsClose_noted :
    AwaitsClose m (w.noted n handshake outcome) ↔ AwaitsClose m w ∧ m ≠ n := by
  rw [AwaitsClose, channel_noted]
  show Subscriber.handshake m ∈ (w.channel.closeListeners.remove _).2.listeners ↔ _
  rw [Registry.mem_remove]
  simp [AwaitsClose]

theorem handshakes_noted : (w.noted n handshake outcome).channel.handshakes =
    w.channel.handshakes.set n { handshake with finished := true } := by
  rw [channel_noted]
  rfl

theorem finished_noted (hget : w.channel.handshakes[n]? = some handshake) :
    Finished m (w.noted n handshake outcome) ↔ Finished m w ∨ m = n := by
  rw [Finished, handshakes_noted]
  by_cases hm : m = n
  · subst hm
    simp [List.getElem?_set_self (getElem?_lt hget)]
  · rw [List.getElem?_set_ne (Ne.symm hm)]
    simp [Finished, hm]

theorem pending_noted (hget : w.channel.handshakes[n]? = some handshake) :
    Pending m (w.noted n handshake outcome) ↔ Pending m w ∧ m ≠ n := by
  rw [Pending, handshakes_noted]
  by_cases hm : m = n
  · subst hm
    simp [List.getElem?_set_self (getElem?_lt hget)]
  · rw [List.getElem?_set_ne (Ne.symm hm)]
    simp [Pending, hm]

theorem conclusions_noted : (w.noted n handshake outcome).conclusions =
    w.conclusions ++ match handshake.reporter with
      | .callback name => [(n, name, outcome)]
      | .waiting _ => [] := by
  unfold noted
  cases handshake.reporter with
  | callback name => simp [conclusions, record, retire, modify, Event.conclusion?]
  | waiting name => simp [conclusions, retire, modify]

theorem answers_noted : (w.noted n handshake outcome).answers =
    w.answers ++ match handshake.reporter with
      | .callback _ => []
      | .waiting name => [(name, outcome)] := by
  unfold noted
  cases handshake.reporter with
  | callback name => simp [answers, record, retire, modify, Event.resolution?]
  | waiting name => simp [answers, retire, modify]

end noted

/-! ## The close of the link -/

/-- The link is open and will not fail to close, and the channel is there to be told. -/
structure Closable (w : World σ) : Prop where
  connected : w.link.connected = true
  alive : w.alive = true
  succeeds : w.link.failsToClose = false

/-- The link has been closed, and nobody has been told. -/
def cut (w : World σ) : World σ :=
  let link := { w.link with closeCalls := w.link.closeCalls + 1, connected := false }
  ({ w.record .closing with link } : World σ).stopKeepAlive

theorem closeLink_of_closable (hw : Closable w) :
    (w.closeLink h).2 = w.cut.deliverClose h := by
  have hfails : ¬ (w.record .closing).link.failsToClose = true := by
    rw [show (w.record .closing).link.failsToClose = false from hw.succeeds]
    exact Bool.false_ne_true
  unfold closeLink
  dsimp only
  rw [if_neg hfails]
  unfold disconnect linkClosed
  rw [if_pos (by exact hw.connected), if_pos (by exact hw.alive)]
  rfl

end World
end Courier
