/-
What is left of a start that fails.

A start registers listeners before it sends the first session, and takes them out again when that
cannot be sent.  A handshake is registered by nobody else, so an attempt to establish a session that
fails comes to no more than an attempt to send a bare session, and whatever comes of the world
afterwards, nobody is told on its account (`failed_establish_exact`).  A listener of the program may
have been registered before, and is taken out all the same: `failed_start_exact` says what a start
that fails does to the registry, and `listener_lost` is a run in which a listener is lost so.
-/
import Courier.Channel.Playbook
import Courier.Proofs.Channel.Hosts

namespace Courier
namespace World

variable {σ : Type} {u v w : World σ} {h : Host σ} {n : Nat} {error : ChannelError}

/-! ## Sending in vain -/

/-- A session was handed to the link, which did not take it. -/
def sentInVain (session : Session) (fault : Fault) (w : World σ) : World σ :=
  ({ w.touch with link := { w.link with attempts := w.link.attempts + 1 } } : World σ).record
    (.unsent (.session session) fault)

theorem sendSession_of_fault {fault : Fault} (hfault : w.link.sendFault? = some fault)
    (session : Session) :
    w.sendSession session = (.error (.transport fault), w.sentInVain session fault) := by
  have hlink : w.touch.link.sendFault? = some fault := hfault
  unfold sendSession transmit Link.send
  simp only [if_true, hlink]
  rfl

theorem sendSession_of_no_fault (hnone : w.link.sendFault? = none) (session : Session) :
    ∃ v, w.sendSession session = (.ok (), v) := by
  have hlink : w.touch.link.sendFault? = none := hnone
  unfold sendSession transmit Link.send
  simp only [if_true, hlink]
  exact ⟨_, rfl⟩

/-- A session that cannot be sent is not taken by the link, and that is all. -/
theorem sendSession_failed {session : Session}
    (hfailed : (w.sendSession session).1 = .error error) :
    ∃ fault, w.link.sendFault? = some fault ∧ error = .transport fault ∧
      (w.sendSession session).2 = w.sentInVain session fault := by
  cases hfault : w.link.sendFault? with
  | none =>
    obtain ⟨_, hsent⟩ := sendSession_of_no_fault hfault session
    rw [hsent] at hfailed
    cases hfailed
  | some fault =>
    rw [sendSession_of_fault hfault] at hfailed ⊢
    cases hfailed
    exact ⟨fault, rfl, rfl, rfl⟩

/-! ## Starting a session -/

theorem startSession_of_fault {fault : Fault} (hnew : w.channel.standing.state = .new)
    (hfault : w.link.sendFault? = some fault) (listener : Subscriber) :
    w.startSession listener =
      (.error (.transport fault),
        ((w.sentInVain { state := .new } fault).removeSessionListener listener).2) := by
  have hlink : (w.addSessionListener listener true).2.link.sendFault? = some fault := hfault
  rw [startSession_of_new hnew, sendSession_of_fault hlink]
  simp only [sentInVain, addSessionListener, removeSessionListener, modify, touch, record,
    Registry.remove_add]

theorem startSession_of_no_fault (hnew : w.channel.standing.state = .new)
    (hnone : w.link.sendFault? = none) (listener : Subscriber) :
    (w.startSession listener).1 = .ok () := by
  have hlink : (w.addSessionListener listener true).2.link.sendFault? = none := hnone
  obtain ⟨_, hsent⟩ := sendSession_of_no_fault hlink { state := .new }
  rw [startSession_of_new hnew, hsent]

/-- What a start that fails leaves.  In another state than that of a new session nothing has
happened.  In that state the session was handed to the link in vain, and the listener is not
registered afterwards, whether or not it was before; the others are as they were.  So the registry
is as it was if and only if the listener was not in it. -/
theorem failed_start_exact {listener : Subscriber}
    (hfailed : (w.startSession listener).1 = .error error) :
    (w.channel.standing.state ≠ .new →
      w.startSession listener =
        (.error (.invalidState "start a session" w.channel.standing.state), w)) ∧
    (w.channel.standing.state = .new →
      ∃ fault, w.link.sendFault? = some fault ∧ error = .transport fault ∧
        let left := (w.startSession listener).2
        left = ((w.sentInVain { state := .new } fault).removeSessionListener listener).2 ∧
        left.channel.sessionListeners.entries =
          w.channel.sessionListeners.entries.filter (fun entry => entry.listener ≠ listener) ∧
        (left.channel.sessionListeners = w.channel.sessionListeners ↔
          listener ∉ w.channel.sessionListeners.listeners)) := by
  constructor
  · intro hstate
    unfold startSession Standing.ensure
    rw [if_neg hstate]
  · intro hnew
    cases hfault : w.link.sendFault? with
    | none =>
      rw [startSession_of_no_fault hnew hfault] at hfailed
      cases hfailed
    | some fault =>
      rw [startSession_of_fault hnew hfault] at hfailed ⊢
      cases hfailed
      exact ⟨fault, rfl, rfl, rfl, rfl, Registry.remove_eq_self_iff⟩

/-- A new session over a closed link, with a listener for good and one for the next session. -/
def unlinkedWorld : World Unit where
  channel := { sessionListeners := ⟨[⟨.named "A", false⟩, ⟨.named "B", true⟩]⟩ }
  link := { connected := false }
  user := ()

theorem failed_start_exact_unlinked :
    let start name := unlinkedWorld.startSession (.named name)
    (∀ name, ∃ error, (start name).1 = .error error) ∧
      (start "A").2.channel.sessionListeners.entries = [⟨.named "B", true⟩] ∧
      (start "B").2.channel.sessionListeners.entries = [⟨.named "A", false⟩] ∧
      (start "C").2.channel.sessionListeners = unlinkedWorld.channel.sessionListeners := by
  intro start
  have hfailed : ∀ name, (start name).1 =
      .error (.transport (.connectionClosed "memory transport is closed")) := fun _ => rfl
  obtain ⟨_, _, _, _, hfirst, _⟩ := (failed_start_exact (hfailed "A")).2 rfl
  obtain ⟨_, _, _, _, hsecond, _⟩ := (failed_start_exact (hfailed "B")).2 rfl
  obtain ⟨_, _, _, _, _, hother⟩ := (failed_start_exact (hfailed "C")).2 rfl
  exact ⟨fun name => ⟨_, hfailed name⟩, hfirst, hsecond, hother.mpr (by decide)⟩

/-- A listener is registered for good, and is gone after a start that failed because the link did
not take the session: nobody is told of the session that the link delivers then. -/
theorem listener_lost :
    let before := ({ link := { failingSends := [0] }, user := () } : World Unit).after .silent
      [.request (.addListener .session "A" false)]
    let failed := before.startSession (.named "A")
    let later := failed.2.after .silent
      [.request (.raise (.session { header := { id := some "s" }, state := .negotiating }))]
    before.channel.standing.state = .new ∧
      failed.1 = .error (.transport (.timeout "send refused")) ∧
      before.channel.sessionListeners = ⟨[⟨.named "A", false⟩]⟩ ∧
      failed.2.channel.sessionListeners ≠ before.channel.sessionListeners ∧
      later.channel.standing.state = .negotiating ∧ later.trace = failed.2.trace := by
  intro before failed later
  exact ⟨rfl, rfl, rfl, by decide, rfl, rfl⟩

/-! ## Establishing a session -/

/-- Only handshakes that have been started are registered. -/
structure Numbered (w : World σ) : Prop where
  listens : ∀ n, Listens n w → n < w.channel.handshakes.length
  awaitsClose : ∀ n, AwaitsClose n w → n < w.channel.handshakes.length

theorem kept_numbered : KeptAlways (@Numbered σ) where
  alike halike hv := by
    refine ⟨fun n hlistens => ?_, fun n hawaits => ?_⟩
    · rw [halike.handshakes]
      exact hv.listens n (halike.listened n hlistens)
    · rw [halike.handshakes]
      exact hv.awaitsClose n (halike.awaitedClose n hawaits)
  start _ _ _ _ hw := by
    refine ⟨fun n hlistens => ?_, fun n hawaits => ?_⟩
    · rw [handshakes_started, List.length_append]
      rcases listens_started.mp hlistens with hold | rfl
      · exact Nat.lt_add_right 1 (hw.listens n hold)
      · exact Nat.lt_add_one _
    · rw [handshakes_started, List.length_append]
      rcases awaitsClose_started.mp hawaits with hold | rfl
      · exact Nat.lt_add_right 1 (hw.awaitsClose n hold)
      · exact Nat.lt_add_one _
  register hpending hw := by
    refine ⟨fun n hlistens => ?_, hw.awaitsClose⟩
    rcases listens_register.mp hlistens with hold | rfl
    · exact hw.listens n hold
    · exact hpending.lt
  note _ _ _ _ hw := by
    refine ⟨fun n hlistens => ?_, fun n hawaits => ?_⟩
    · rw [handshakes_noted, List.length_set]
      exact hw.listens n (listens_noted.mp hlistens).1
    · rw [handshakes_noted, List.length_set]
      exact hw.awaitsClose n (awaitsClose_noted.mp hawaits).1
  refuse _ _ _ hw := ⟨hw.listens, hw.awaitsClose⟩
  cut hw := ⟨hw.listens, hw.awaitsClose⟩
  takeClose _ hw :=
    ⟨hw.listens, fun n hawaits => hw.awaitsClose n (Registry.mem_of_mem_withoutOnce hawaits)⟩
  takeSession hw :=
    ⟨fun n hlistens => hw.listens n (Registry.mem_of_mem_withoutOnce hlistens), hw.awaitsClose⟩

theorem numbered_create {settings : ChannelSettings} {standing : Standing} {link : Link}
    {driven : Bool} {user : σ} (hcreate : create settings standing link driven user = .ok w) :
    Numbered w := by
  unfold create at hcreate
  split at hcreate
  · cases hcreate
  · cases hcreate
    exact ⟨fun _ hlistens => absurd hlistens List.not_mem_nil,
      fun _ hawaits => absurd hawaits List.not_mem_nil⟩

/-- A handshake that could not be started is taken out of the registries that it was put into, and
out of no other. -/
theorem abandoned_started (hw : Numbered w) (establishment : Establishment) (reporter : Reporter)
    (session : Session) (fault : Fault) :
    ((w.started establishment reporter).sentInVain session fault).abandoned w.channel.handshakes =
      w.sentInVain session fault := by
  have hsession : ((w.channel.sessionListeners.add (.handshake w.channel.handshakes.length)
      true).2.remove (.handshake w.channel.handshakes.length)).2 = w.channel.sessionListeners := by
    rw [Registry.remove_add, Registry.remove_eq_self_iff]
    exact fun hlistens => Nat.lt_irrefl _ (hw.listens _ hlistens)
  have hclose : ((w.channel.closeListeners.add (.handshake w.channel.handshakes.length)
      true).2.remove (.handshake w.channel.handshakes.length)).2 = w.channel.closeListeners := by
    rw [Registry.remove_add, Registry.remove_eq_self_iff]
    exact fun hawaits => Nat.lt_irrefl _ (hw.awaitsClose _ hawaits)
  simp only [abandoned, started, sentInVain, addSessionListener, addCloseListener,
    removeSessionListener, removeCloseListener, modify, touch, record, hsession, hclose]

section

variable {establishment : Establishment} (hnew : w.channel.standing.state = .new)
  (hidentity : checkIdentity establishment.identity = .ok ())
include hnew hidentity

theorem establish_of_fault (hw : Numbered w) {fault : Fault}
    (hfault : w.link.sendFault? = some fault) (reporter : Reporter) :
    w.establish establishment reporter = w.sendSession { state := .new } := by
  have hlink : (w.started establishment reporter).link.sendFault? = some fault := hfault
  rw [establish_of_new hnew hidentity, sendSession_of_fault hlink, sendSession_of_fault hfault]
  exact congrArg (Prod.mk _) (abandoned_started hw establishment reporter _ fault)

theorem establish_of_no_fault (hnone : w.link.sendFault? = none) (reporter : Reporter) :
    (w.establish establishment reporter).1 = .ok () := by
  have hlink : (w.started establishment reporter).link.sendFault? = none := hnone
  obtain ⟨_, hsent⟩ := sendSession_of_no_fault hlink { state := .new }
  rw [establish_of_new hnew hidentity, hsent]

end

theorem checkIdentity_error {identity : Identity} (hfailed : checkIdentity identity = .error error) :
    error.isPrecondition = true := by
  unfold checkIdentity at hfailed
  split at hfailed
  · cases hfailed
    rfl
  · split at hfailed
    · cases hfailed
      rfl
    · cases hfailed

/-- An attempt that fails is refused at once, or it is no more than an attempt to send a session. -/
theorem establish_failed (hw : Numbered w) {establishment : Establishment} {reporter : Reporter}
    (hfailed : (w.establish establishment reporter).1 = .error error) :
    error.isPrecondition = true ∧ w.establish establishment reporter = (.error error, w) ∨
      w.establish establishment reporter = w.sendSession { state := .new } := by
  by_cases hnew : w.channel.standing.state = .new
  · cases hidentity : checkIdentity establishment.identity with
    | error cause =>
      have hrefused : w.establish establishment reporter = (.error cause, w) := by
        unfold establish
        rw [ensure_eq_ok.mpr hnew, hidentity]
      rw [hrefused] at hfailed
      cases hfailed
      exact .inl ⟨checkIdentity_error hidentity, hrefused⟩
    | ok =>
      cases hfault : w.link.sendFault? with
      | none =>
        rw [establish_of_no_fault hnew hidentity hfault] at hfailed
        cases hfailed
      | some fault => exact .inr (establish_of_fault hnew hidentity hw hfault reporter)
  · have hrefused : w.establish establishment reporter =
        (.error (.invalidState "establish a session" w.channel.standing.state), w) := by
      unfold establish Standing.ensure
      rw [if_neg hnew]
    rw [hrefused] at hfailed
    cases hfailed
    exact .inl ⟨rfl, hrefused⟩

/-- Nothing has changed of a channel but when it was last used, nothing of its link but how often
something was handed to it, and nobody has been told of an outcome. -/
structure Unaffected (v w : World σ) : Prop where
  channel : w.channel = { v.channel with lastActivity := w.channel.lastActivity }
  link : w.link = { v.link with attempts := w.link.attempts }
  conclusions : w.conclusions = v.conclusions
  answers : w.answers = v.answers

theorem unaffected_sentInVain (session : Session) (fault : Fault) (w : World σ) :
    Unaffected w (w.sentInVain session fault) where
  channel := rfl
  link := rfl
  conclusions := conclusions_record rfl _
  answers := (alike_record rfl rfl _).answers

theorem unaffected_establish (hw : Numbered w) {establishment : Establishment}
    {reporter : Reporter} (hfailed : (w.establish establishment reporter).1 = .error error) :
    Unaffected w (w.establish establishment reporter).2 := by
  rcases establish_failed hw hfailed with ⟨_, hrefused⟩ | hsent
  · rw [hrefused]
    exact ⟨rfl, rfl, rfl, rfl⟩
  · rw [hsent] at hfailed ⊢
    obtain ⟨fault, _, _, hvain⟩ := sendSession_failed hfailed
    rw [hvain]
    exact unaffected_sentInVain _ fault w

/-! ## What comes afterwards -/

/-- Whatever is kept at every moment of a run is kept from one world to another.  So it is along the
steps of a run, along what is left of a callback, and along all else that a channel does. -/
def LeadsTo (v w : World σ) : Prop :=
  ∀ P : World σ → Prop, KeptAlways P → P v → P w

theorem leadsTo_after (hh : h.Within Numbered) (hv : Numbered v) (steps : List Step) :
    LeadsTo v (v.after h steps) := by
  intro P hk hP
  have hboth := hk.and kept_numbered
  exact (hboth.after hh (fun _ hu => hu.2) steps ⟨hP, hv⟩).1

/-- What is left of a callback. -/
theorem leadsTo_acts (hv : Numbered v) (hacts : Acts Numbered v w) : LeadsTo v w := by
  intro P hk hP
  have hboth := hk.and kept_numbered
  refine (hacts.keeps hboth.toKept (fun _ hu => hu.2) ?_ ⟨hP, hv⟩).1
  exact fun _ _ hkeeps session _ hu => hboth.deliverSession hkeeps session hu

/-- The handshakes of a world are still there in another, and those that were over still are. -/
def Persist (v w : World σ) : Prop :=
  ∀ (n : Nat) handshake, v.channel.handshakes[n]? = some handshake → ∃ finished,
    w.channel.handshakes[n]? = some { handshake with finished } ∧
      (handshake.finished = true → finished = true)

theorem persist_of_eq (hsame : w.channel.handshakes = v.channel.handshakes) : Persist v w := by
  intro n handshake hget
  rw [hsame]
  exact ⟨_, hget, id⟩

theorem persist_started (establishment : Establishment) (reporter : Reporter) :
    Persist w (w.started establishment reporter) := by
  intro n handshake hget
  rw [handshakes_started, List.getElem?_append_left (getElem?_lt hget)]
  exact ⟨_, hget, id⟩

theorem persist_noted {handshake : Handshake} (outcome : Outcome)
    (hget : w.channel.handshakes[n]? = some handshake) :
    Persist w (w.noted n handshake outcome) := by
  intro m other hother
  rw [handshakes_noted]
  by_cases hm : m = n
  · subst hm
    rw [hget] at hother
    cases hother
    exact ⟨true, List.getElem?_set_self (getElem?_lt hget), fun _ => rfl⟩
  · rw [List.getElem?_set_ne (Ne.symm hm)]
    exact ⟨_, hother, id⟩

theorem Persist.trans (huv : Persist u v) (hvw : Persist v w) : Persist u w := by
  intro n handshake hget
  obtain ⟨finished, hv, hover⟩ := huv n handshake hget
  obtain ⟨finished', hw, hover'⟩ := hvw n _ hv
  exact ⟨finished', hw, fun hfinished => hover' (hover hfinished)⟩

theorem Persist.finished (hvw : Persist v w) (hfinished : Finished n v) : Finished n w := by
  obtain ⟨handshake, hget, hover⟩ := hfinished
  obtain ⟨finished, hw, hstill⟩ := hvw n handshake hget
  exact ⟨_, hw, hstill hover⟩

/-- Whether an outcome may have been told of a handshake since a world was as it was: the handshake
was not over, or was not there, and the outcome is told to whom it concerns. -/
def Due (u w : World σ) (told : Nat × Name × Outcome) : Prop :=
  ¬ Finished told.1 u ∧ ∃ handshake, w.channel.handshakes[told.1]? = some handshake ∧
    handshake.reporter = .callback told.2.1

/-- What became of the handshakes since a world was as it was. -/
structure Since (u w : World σ) : Prop where
  persist : Persist u w
  told : ∃ more, w.conclusions = u.conclusions ++ more ∧ ∀ told ∈ more, Due u w told

theorem Since.refl (u : World σ) : Since u u :=
  ⟨persist_of_eq rfl, [], (List.append_nil _).symm, fun _ hmem => absurd hmem List.not_mem_nil⟩

theorem Since.more (hv : Since u v) (hpersist : Persist v w) {more : List (Nat × Name × Outcome)}
    (hconclusions : w.conclusions = v.conclusions ++ more) (hdue : ∀ told ∈ more, Due v w told) :
    Since u w := by
  obtain ⟨before, hbefore, hold⟩ := hv.told
  refine ⟨hv.persist.trans hpersist, before ++ more, ?_, fun told hmem => ?_⟩
  · rw [hconclusions, hbefore, List.append_assoc]
  · rcases List.mem_append.mp hmem with hmem | hmem
    · obtain ⟨hopen, handshake, hget, hreporter⟩ := hold told hmem
      obtain ⟨_, hstill, _⟩ := hpersist _ handshake hget
      exact ⟨hopen, _, hstill, hreporter⟩
    · obtain ⟨hopen, htold⟩ := hdue told hmem
      exact ⟨fun hfinished => hopen (hv.persist.finished hfinished), htold⟩

theorem Since.quiet (hv : Since u v) (hpersist : Persist v w)
    (hconclusions : w.conclusions = v.conclusions) : Since u w := by
  have hmore : w.conclusions = v.conclusions ++ [] := by rw [hconclusions, List.append_nil]
  exact hv.more hpersist hmore fun _ hmem => absurd hmem List.not_mem_nil

theorem kept_since (u : World σ) : KeptAlways (Since u) where
  alike halike hv := hv.quiet (persist_of_eq halike.handshakes) halike.conclusions
  start establishment reporter _ _ hw := hw.quiet (persist_started establishment reporter) rfl
  register _ hw := hw.quiet (persist_of_eq rfl) rfl
  note {n handshake} outcome w hget hpending hw := by
    -- Nothing else tells of an outcome, and what is told of was not over just before.
    refine hw.more (persist_noted outcome hget) conclusions_noted fun told hmem => ?_
    cases hreporter : handshake.reporter with
    | waiting name =>
      rw [hreporter] at hmem
      exact absurd hmem List.not_mem_nil
    | callback name =>
      rw [hreporter] at hmem
      cases List.mem_singleton.mp hmem
      have hopen : ¬ Finished n w := fun hover =>
        not_pending_of_finished hover ⟨handshake, hget, hpending⟩
      refine ⟨hopen, { handshake with finished := true }, ?_, hreporter⟩
      rw [handshakes_noted]
      exact List.getElem?_set_self (getElem?_lt hget)
  refuse _ _ _ hw := hw.quiet (persist_of_eq rfl) rfl
  cut hw := hw.quiet (persist_of_eq rfl) rfl
  takeClose _ hw := hw.quiet (persist_of_eq rfl) rfl
  takeSession hw := hw.quiet (persist_of_eq rfl) rfl

/-- Who is not to be told of a handshake that was not over, or of one that was started since, is
told nothing. -/
theorem Since.unheard {name : Name} (hw : Since u w)
    (hothers : ∀ (n : Nat) handshake, w.channel.handshakes[n]? = some handshake →
      handshake.reporter = .callback name → Finished n u) :
    w.conclusions.filter (·.2.1 = name) = u.conclusions.filter (·.2.1 = name) := by
  obtain ⟨more, hmore, hdue⟩ := hw.told
  have hnone : more.filter (·.2.1 = name) = [] := by
    refine List.filter_eq_nil_iff.mpr fun told hmem hname => ?_
    obtain ⟨hopen, handshake, hget, hreporter⟩ := hdue told hmem
    rw [of_decide_eq_true hname] at hreporter
    exact hopen (hothers _ handshake hget hreporter)
  rw [hmore, List.filter_append, hnone, List.append_nil]

/-- A handshake that was not started is registered nowhere, and does nothing if it is told. -/
theorem Numbered.idle (hw : Numbered w) (hn : w.channel.handshakes.length ≤ n) :
    ¬ Listens n w ∧ ¬ AwaitsClose n w ∧ ∀ (g : Host σ) session state,
      w.handshakeReceives g n session = w ∧ w.handshakeCloses g n state = w := by
  have hpending : ¬ Pending n w := fun hpending => Nat.not_lt.mpr hn hpending.lt
  refine ⟨fun hlistens => Nat.not_lt.mpr hn (hw.listens n hlistens),
    fun hawaits => Nat.not_lt.mpr hn (hw.awaitsClose n hawaits), fun g session state => ⟨?_, ?_⟩⟩
  · exact handshakeReceives_of_not_pending hpending session
  · exact handshakeCloses_of_not_pending hpending state

/-- What an attempt to establish a session leaves when it fails.

If it is refused at once nothing has happened.  Otherwise the world is the same as if a bare session
had been sent in vain, whatever was to be established and whoever was to be told of it, so that what
comes later is the same, too.  The registries, the session and the link are as they were.

Whatever comes of the world, in the callback that made the attempt, in the rest of the step and in
the steps that follow, outcomes are told of no other handshakes than those that were not over at the
attempt and those that are started after it.  A listener that is not given to any of these is told
nothing.  A number that none of them has is in neither registry, and does nothing.

All this is said of the worlds in which only handshakes are registered that were started.  The
worlds of a run are such, also while callbacks are running: nothing is known of the host but in
these. -/
theorem failed_establish_exact {settings : ChannelSettings} {standing : Standing} {link : Link}
    {driven : Bool} {user : σ} {start : World σ}
    (hcreate : create settings standing link driven user = .ok start) (hh : h.Within Numbered) :
    (∀ steps, Numbered (start.after h steps)) ∧
    ∀ u : World σ, Numbered u → ∀ establishment reporter error,
      (u.establish establishment reporter).1 = .error error →
      let left := (u.establish establishment reporter).2
      (error.isPrecondition = true ∧ u.establish establishment reporter = (.error error, u) ∨
        u.establish establishment reporter = u.sendSession { state := .new }) ∧
      Unaffected u left ∧
      (∀ steps, LeadsTo left (left.after h steps)) ∧
      (∀ later, Acts Numbered left later → LeadsTo left later) ∧
      ∀ later, LeadsTo left later →
        Since u later ∧
        (∀ name, (∀ (n : Nat) handshake, later.channel.handshakes[n]? = some handshake →
            handshake.reporter = .callback name → Finished n u) →
          later.conclusions.filter (·.2.1 = name) = u.conclusions.filter (·.2.1 = name)) ∧
        ∀ n, later.channel.handshakes.length ≤ n →
          ¬ Listens n later ∧ ¬ AwaitsClose n later ∧ ∀ (g : Host σ) session state,
            later.handshakeReceives g n session = later ∧
              later.handshakeCloses g n state = later := by
  refine ⟨fun steps => kept_numbered.after hh (fun _ => id) steps (numbered_create hcreate), ?_⟩
  intro u hu establishment reporter error hfailed left
  have hunaffected : Unaffected u left := unaffected_establish hu hfailed
  have hsame : left.channel.handshakes = u.channel.handshakes := by rw [hunaffected.channel]
  have hleft : Numbered left := establish_keeps kept_numbered.toKept establishment reporter hu
  refine ⟨establish_failed hu hfailed, hunaffected, leadsTo_after hh hleft,
    fun later => leadsTo_acts hleft, fun later hlater => ?_⟩
  have hsince : Since u later := hlater _ (kept_since u)
    ((Since.refl u).quiet (persist_of_eq hsame) hunaffected.conclusions)
  exact ⟨hsince, fun name => hsince.unheard,
    fun n hn => Numbered.idle (hlater _ kept_numbered hleft) hn⟩

/-- A program that tries to establish a session when it is told of one. -/
def restless : Playbook where
  listeners := [("A", [[.establish aliceAsGuest "E"]])]

/-- It has registered its listener, and has tried with success; the link will not take a second
session. -/
def restlessWorld : World (List Role) :=
  ({ link := { failingSends := [1] }, user := [] } : World (List Role)).after restless.host
    [.request (.addListener .session "A" false), .request (.establish aliceAsGuest "D")]

/-- Another attempt fails.  When the session is established only the first is told of it, and the
attempt that the listener makes then is refused. -/
theorem failed_establish_exact_restless :
    let left := (restlessWorld.establish aliceAsGuest (.callback "E")).2
    let later := left.after restless.host
      [.request (.receive (.session { state := .established }))]
    left.channel.sessionListeners = ⟨[⟨.named "A", false⟩, ⟨.handshake 0, true⟩]⟩ ∧
      left.channel.closeListeners = ⟨[⟨.handshake 0, true⟩]⟩ ∧
      left.link.sent = [.session { state := .new }] ∧
      later.conclusions = [(0, "D", .ok { state := .established })] ∧
      later.conclusions.filter (·.2.1 = "E") = [] := by
  intro left later
  have hcreate : create {} {} { failingSends := [1] } false [] =
      .ok ({ link := { failingSends := [1] }, user := [] } : World (List Role)) := rfl
  have hh : restless.host.Within Numbered := (Program.host_isLawful _ _).within _
  obtain ⟨hnumbered, hexact⟩ := failed_establish_exact hcreate hh
  have hfailed : (restlessWorld.establish aliceAsGuest (.callback "E")).1 =
      .error (.transport (.timeout "send refused")) := rfl
  obtain ⟨_, hunaffected, hsteps, _, hlater⟩ := hexact restlessWorld (hnumbered _) _ _ _ hfailed
  obtain ⟨_, hunheard, _⟩ := hlater later (hsteps _)
  have hreporters : later.channel.handshakes.map (·.reporter) = [.callback "D"] := rfl
  have hnone : restlessWorld.conclusions = [] := rfl
  have htold : later.conclusions = [(0, "D", .ok { state := .established })] := rfl
  rw [hnone] at hunheard
  refine ⟨?_, ?_, ?_, htold, hunheard "E" fun n handshake hget hreporter => ?_⟩
  · rw [hunaffected.channel]
    rfl
  · rw [hunaffected.channel]
    rfl
  · rw [hunaffected.link]
    rfl
  · have hmem : handshake.reporter ∈ later.channel.handshakes.map (·.reporter) :=
      List.mem_map_of_mem (List.mem_of_getElem? hget)
    rw [hreporters, hreporter] at hmem
    exact absurd hmem (by decide)

end World
end Courier
