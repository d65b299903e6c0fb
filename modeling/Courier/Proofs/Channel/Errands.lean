/-
What a link keeps of what a channel is told to send.

A channel is given errands: envelopes to send, and to close.  What is due for each of them, a result
and what the link is to keep (`due`), can be told from how things stand when it is given: whether the
session is established, what the modules of the kind make of the envelope, and whether the link is
open.  `errands_discharged` says that every run of errands comes to what is due for one after the
other, and that nothing more is kept once a close has succeeded.

The modules are functions with a state.  The listeners that hear of a close may use the channel as
they like, as long as they do not take away what the closed link has kept.
-/
import Courier.Proofs.Channel.Transit

namespace Courier

variable {σ : Type} {h : Host σ} {treat : Treatment σ} {w : World σ}

/-- Something that a channel is told to do. -/
inductive Errand where
  | send (envelope : Envelope)
  | close
  /-- From now on the link fails to close, or no longer does. -/
  | failToClose (fail : Bool)

/-! ## What is due -/

namespace Link

/-- The error of what is handed to a closed link. -/
def closedError (link : Link) : ChannelError :=
  .transport (.connectionClosed (link.kind ++ " transport is closed"))

/-- What is due for an envelope that is handed to a link. -/
def due (link : Link) (envelope : Envelope) : Except ChannelError Unit × List Envelope :=
  if link.connected then (.ok (), [envelope]) else (.error link.closedError, [])

/-- The result that is due for a close. -/
def closeResult (link : Link) : Except ChannelError Unit :=
  if link.failsToClose then .error (.transport (.inputOutput "close failed")) else .ok ()

end Link

namespace World

/-- How an item is to come through the modules of its kind, unless it is refused. -/
def itemTransit (treat : Treatment σ) (kind : Traffic) (item : kind.Item) (w : World σ) :
    Except ChannelError (Transit Envelope σ) :=
  if w.channel.standing.state = .established then
    let transit := treat.transit kind .sending (w.modulesOf kind) item w.user
    .ok { transit with item := transit.item.map kind.envelope }
  else .error (.invalidState ("send a " ++ kind.word) w.channel.standing.state)

/-- How an envelope is to come through the modules.  Sessions are for every state, and enter none. -/
def outgoing (treat : Treatment σ) (w : World σ) :
    Envelope → Except ChannelError (Transit Envelope σ)
  | .message m => w.itemTransit treat .message m
  | .notification n => w.itemTransit treat .notification n
  | .command c => w.itemTransit treat .command c
  | .session s => .ok ⟨[], some (.session s), w.user⟩

/-- What is due for an errand: its result, and what the link is to keep of it. -/
def due (treat : Treatment σ) (w : World σ) : Errand → Except ChannelError Unit × List Envelope
  | .send envelope =>
    match w.outgoing treat envelope with
    | .error error => (.error error, [])
    | .ok transit =>
      match transit.item with
      | none => (.ok (), [])
      | some envelope => w.link.due envelope
  | .close => (w.link.closeResult, [])
  | .failToClose _ => (.ok (), [])

/-! ## Runs -/

def run (h : Host σ) (errand : Errand) (w : World σ) : Except ChannelError Unit × World σ :=
  match errand with
  | .send envelope => w.send h envelope
  | .close => w.close h
  | .failToClose fail => (.ok (), { w with link := { w.link with failsToClose := fail } })

/-- The world after some errands. -/
def ran (h : Host σ) (errands : List Errand) (w : World σ) : World σ :=
  errands.foldl (fun w errand => (w.run h errand).2) w

/-- What a channel answers to one errand after the other. -/
def answersTo (h : Host σ) : List Errand → World σ → List (Except ChannelError Unit)
  | [], _ => []
  | errand :: errands, w => (w.run h errand).1 :: answersTo h errands (w.run h errand).2

/-- What is due for one errand after the other. -/
def dues (h : Host σ) (treat : Treatment σ) :
    List Errand → World σ → List (Except ChannelError Unit × List Envelope)
  | [], _ => []
  | errand :: errands, w => w.due treat errand :: dues h treat errands (w.run h errand).2

theorem ran_cons (errand : Errand) (errands : List Errand) (w : World σ) :
    w.ran h (errand :: errands) = (w.run h errand).2.ran h errands :=
  rfl

theorem ran_append (first second : List Errand) (w : World σ) :
    w.ran h (first ++ second) = (w.ran h first).ran h second :=
  List.foldl_append

end World

/-! ## The record of a link -/

/-- A link has kept what it had kept before, and some envelopes more.  That is all that its record
is about: it may have been used, and closed, in the meantime. -/
structure Link.Grown (entries : List Envelope) (v w : Link) : Prop where
  kind : w.kind = v.kind
  failingSends : w.failingSends = v.failingSends
  sent : w.sent = v.sent ++ entries

namespace Link.Grown

variable {u v w : Link} {first second : List Envelope}

theorem of_eq (h : w = v) : Link.Grown [] v w := by
  rw [h]
  exact ⟨rfl, rfl, (List.append_nil _).symm⟩

theorem trans (huv : Link.Grown first u v) (hvw : Link.Grown second v w) :
    Link.Grown (first ++ second) u w where
  kind := hvw.kind.trans huv.kind
  failingSends := hvw.failingSends.trans huv.failingSends
  sent := by rw [hvw.sent, huv.sent, List.append_assoc]

end Link.Grown

/-- Nothing that the callbacks of a host do to a closed link opens it, or changes what it has
kept. -/
def Host.SparesClosedLink (h : Host σ) : Prop :=
  ∀ call (w : World σ), w.link.connected = false →
    (h.call call w).link.connected = false ∧ Link.Grown [] w.link (h.call call w).link

theorem Host.IsReserved.sparesClosedLink (hh : h.IsReserved) : h.SparesClosedLink := by
  intro call w hclosed
  obtain ⟨user, hcalled⟩ := hh.call call w
  rw [hcalled]
  exact ⟨hclosed, .of_eq rfl⟩

namespace World

/-- A closed link is still closed, and has kept what it had. -/
def StaysClosed (v w : World σ) : Prop :=
  v.link.connected = false → w.link.connected = false ∧ Link.Grown [] v.link w.link

namespace StaysClosed

variable {u v w : World σ}

theorem of_eq (hlink : w.link = v.link) : StaysClosed v w :=
  fun hclosed => ⟨hlink ▸ hclosed, .of_eq hlink⟩

theorem trans (huv : StaysClosed u v) (hvw : StaysClosed v w) : StaysClosed u w := by
  intro hclosed
  obtain ⟨hclosed', hgrown⟩ := huv hclosed
  obtain ⟨hclosed'', hgrown'⟩ := hvw hclosed'
  exact ⟨hclosed'', hgrown.trans hgrown'⟩

end StaysClosed

section Spares

variable (hspares : h.SparesClosedLink)
include hspares

theorem staysClosed_callOut (call : Call) (w : World σ) : StaysClosed w (w.callOut h call) :=
  fun hclosed => hspares call { w with depth := w.depth + 1 } hclosed

theorem staysClosed_conclude (number : Nat) (outcome : Outcome) (w : World σ) :
    StaysClosed w (w.conclude h number outcome) := by
  by_cases hpending : Pending number w
  · obtain ⟨handshake, hget, hfinished⟩ := hpending
    rw [conclude_of_pending hget hfinished]
    have hnoted : (w.noted number handshake outcome).link = w.link := by
      unfold noted
      cases handshake.reporter <;> rfl
    refine StaysClosed.trans (.of_eq hnoted) ?_
    cases handshake.reporter with
    | callback name => exact staysClosed_callOut hspares _ _
    | waiting name => exact .of_eq rfl
  · rw [conclude_of_not_pending hpending]
    exact .of_eq rfl

theorem staysClosed_tellClose (state : SessionState) (subscriber : Subscriber) (w : World σ) :
    StaysClosed w (w.tellClose h state subscriber) := by
  cases subscriber with
  | named name =>
    exact staysClosed_callOut hspares _ (w.record (.notified name (.closed state)))
  | handshake number =>
    show StaysClosed w (w.handshakeCloses h number state)
    unfold handshakeCloses
    split
    · exact .of_eq rfl
    · exact staysClosed_conclude hspares number _ w

theorem staysClosed_deliverClose (w : World σ) : StaysClosed w (w.deliverClose h) := by
  have hfold : ∀ (called : List Subscriber) (v : World σ), StaysClosed v
      (called.foldl (fun v subscriber => v.tellClose h w.channel.standing.state subscriber) v) := by
    intro called
    induction called with
    | nil => exact fun v => .of_eq rfl
    | cons subscriber called ih =>
      intro v
      exact (staysClosed_tellClose hspares _ subscriber v).trans (ih _)
  intro hclosed
  exact hfold w.channel.closeListeners.listeners (w.modify fun channel =>
    { channel with closeListeners := channel.closeListeners.withoutOnce }) hclosed

theorem disconnect_grown (w : World σ) :
    (w.disconnect h).link.connected = false ∧ Link.Grown [] w.link (w.disconnect h).link := by
  unfold disconnect linkClosed
  by_cases hconnected : w.link.connected = true
  · rw [if_pos hconnected]
    split
    · obtain ⟨hclosed, hgrown⟩ := staysClosed_deliverClose hspares
        ({ w with link := { w.link with connected := false } } : World σ).stopKeepAlive rfl
      exact ⟨hclosed, hgrown.kind, hgrown.failingSends, hgrown.sent⟩
    · exact ⟨rfl, rfl, rfl, (List.append_nil _).symm⟩
  · rw [if_neg hconnected]
    exact ⟨Bool.eq_false_iff.mpr hconnected, .of_eq rfl⟩

/-- A close fails if the link is to fail it, and closes the link otherwise.  It adds nothing to what
the link has kept. -/
theorem close_grown (w : World σ) :
    (w.close h).1 = w.link.closeResult ∧
      Link.Grown [] w.link (w.close h).2.link ∧
      (w.close h).2.link.connected = (w.link.connected && w.link.failsToClose) := by
  cases hfails : w.link.failsToClose with
  | true =>
    have hclose : w.close h =
        (.error (.transport (.inputOutput "close failed")), w.stopKeepAlive.rung) := by
      unfold close closeLink
      dsimp only
      rw [if_pos (by exact hfails)]
      rfl
    rw [hclose, Link.closeResult, if_pos hfails, Bool.and_true]
    exact ⟨rfl, ⟨rfl, rfl, (List.append_nil _).symm⟩, rfl⟩
  | false =>
    have hsucceeds : ¬w.link.failsToClose = true := Bool.eq_false_iff.mp hfails
    have hclose : w.close h = (.ok (), w.stopKeepAlive.rung.disconnect h) := by
      unfold close closeLink
      dsimp only
      rw [if_neg (by exact hsucceeds)]
      rfl
    obtain ⟨hclosed, hgrown⟩ := disconnect_grown hspares w.stopKeepAlive.rung
    rw [hclose, Link.closeResult, if_neg hsucceeds, Bool.and_false]
    exact ⟨rfl, ⟨hgrown.kind, hgrown.failingSends, hgrown.sent⟩, hclosed⟩

theorem closed_of_close_ok (hok : (w.close h).1 = .ok ()) :
    (w.close h).2.link.connected = false := by
  obtain ⟨hresult, _, hconnected⟩ := close_grown hspares w
  rw [hok, Link.closeResult] at hresult
  cases hfails : w.link.failsToClose with
  | true =>
    rw [if_pos hfails] at hresult
    cases hresult
  | false => rw [hconnected, hfails, Bool.and_false]

end Spares

/-! ## One send -/

/-- A link that fails no sends does what is due for what is handed to it. -/
theorem transmit_grown (hsends : w.link.failingSends = []) (envelope : Envelope) :
    (w.transmit envelope true).1 = (w.link.due envelope).1 ∧
      Link.Grown (w.link.due envelope).2 w.link (w.transmit envelope true).2.link ∧
      (w.transmit envelope true).2.link.connected = w.link.connected := by
  have hnever : w.touch.link.attempts ∉ w.touch.link.failingSends := by
    rw [show w.touch.link.failingSends = [] from hsends]
    exact List.not_mem_nil
  unfold transmit Link.send Link.sendFault? Link.due
  dsimp only
  rw [if_pos rfl, if_neg hnever]
  cases hconnected : w.link.connected with
  | true =>
    rw [if_pos (show w.touch.link.connected = true from hconnected)]
    exact ⟨rfl, ⟨rfl, rfl, rfl⟩, hconnected⟩
  | false =>
    rw [if_neg (show ¬w.touch.link.connected = true from Bool.eq_false_iff.mp hconnected)]
    exact ⟨rfl, ⟨rfl, rfl, (List.append_nil _).symm⟩, hconnected⟩

variable (ht : h.Treats treat)
include ht

theorem sendItem_of_itemTransit {kind : Traffic} {item : kind.Item} :
    w.sendItem h kind item =
      match w.itemTransit treat kind item with
      | .error error => (.error error, w)
      | .ok transit =>
        match transit.item with
        | none => (.ok (), w.passed .sending transit)
        | some envelope => (w.passed .sending transit).transmit envelope true := by
  unfold sendItem Standing.ensure itemTransit
  by_cases hstate : w.channel.standing.state = .established
  · rw [if_pos hstate, if_pos hstate]
    unfold sendUnchecked
    dsimp only
    rw [through_sending_treated (ht.on kind .sending)]
    cases (treat.transit kind .sending (w.modulesOf kind) item w.user).item <;> rfl
  · rw [if_neg hstate, if_neg hstate]

/-- A send refuses the envelope, or takes it through the modules and hands over what they have made
of it. -/
theorem send_of_outgoing (envelope : Envelope) :
    w.send h envelope =
      match w.outgoing treat envelope with
      | .error error => (.error error, w)
      | .ok transit =>
        match transit.item with
        | none => (.ok (), w.passed .sending transit)
        | some envelope => (w.passed .sending transit).transmit envelope true := by
  cases envelope with
  | message | notification | command => exact sendItem_of_itemTransit ht
  | session s =>
    let transit : Transit Envelope σ := ⟨[], some (.session s), w.user⟩
    have hpassed : w.passed .sending transit = w := by simp [passed, transit]
    show w.sendSession s = (w.passed .sending transit).transmit (.session s) true
    rw [hpassed]
    rfl

theorem send_passed {envelope : Envelope} {transit : Transit Envelope σ}
    (hpassed : w.outgoing treat envelope = .ok transit) :
    (w.send h envelope).2.user = transit.user ∧
      (w.send h envelope).2.trace =
        w.trace ++ (transit.entered.map fun name => .entered name .sending) ++
          transit.item.toList.map (handing w.link) := by
  rw [send_of_outgoing ht, hpassed]
  obtain ⟨entered, _ | result, user⟩ := transit
  · exact ⟨rfl, (List.append_nil _).symm⟩
  · have htransmitted : ∀ v : World σ, (v.transmit result true).2 =
        { v.touch with
          link := (v.link.send result).2, trace := v.trace ++ [handing v.link result] } :=
      fun v => transmit_unnoted result v.touch
    dsimp only
    rw [htransmitted]
    exact ⟨rfl, rfl⟩

omit ht in
theorem due_send_of_closed (hclosed : w.link.connected = false) (envelope : Envelope) :
    (w.due treat (.send envelope)).2 = [] := by
  unfold due Link.due
  dsimp only
  rw [hclosed]
  rcases w.outgoing treat envelope with error | ⟨entered, _ | result, user⟩ <;> rfl

omit ht in
theorem due_send_late {envelope : Envelope} {transit : Transit Envelope σ}
    (hclosed : w.link.connected = false) (hpassed : w.outgoing treat envelope = .ok transit)
    (hsome : transit.item.isSome) :
    (w.due treat (.send envelope)).1 = .error w.link.closedError := by
  obtain ⟨result, hresult⟩ := Option.isSome_iff_exists.mp hsome
  unfold due Link.due
  dsimp only
  rw [hpassed, hclosed]
  dsimp only
  rw [hresult]
  rfl

theorem run_send_grown (hsends : w.link.failingSends = []) (envelope : Envelope) :
    (w.run h (.send envelope)).1 = (w.due treat (.send envelope)).1 ∧
      Link.Grown (w.due treat (.send envelope)).2 w.link (w.run h (.send envelope)).2.link ∧
      (w.run h (.send envelope)).2.link.connected = w.link.connected := by
  unfold run due
  dsimp only
  rw [send_of_outgoing ht]
  rcases w.outgoing treat envelope with error | ⟨entered, _ | result, user⟩
  · exact ⟨rfl, .of_eq rfl, rfl⟩
  · exact ⟨rfl, .of_eq rfl, rfl⟩
  · exact transmit_grown (w := w.passed .sending ⟨entered, some result, user⟩) hsends result

/-! ## One errand after the other -/

variable (hspares : h.SparesClosedLink)
include hspares

theorem run_grown (hsends : w.link.failingSends = []) (errand : Errand) :
    (w.run h errand).1 = (w.due treat errand).1 ∧
      Link.Grown (w.due treat errand).2 w.link (w.run h errand).2.link := by
  cases errand with
  | send envelope =>
    obtain ⟨hresult, hgrown, _⟩ := run_send_grown ht hsends envelope
    exact ⟨hresult, hgrown⟩
  | close =>
    obtain ⟨hresult, hgrown, _⟩ := close_grown hspares w
    exact ⟨hresult, hgrown⟩
  | failToClose fail => exact ⟨rfl, rfl, rfl, (List.append_nil _).symm⟩

/-- A closed link is closed for good, and keeps nothing more. -/
theorem run_staysClosed (hsends : w.link.failingSends = []) (errand : Errand) :
    StaysClosed w (w.run h errand).2 := by
  intro hclosed
  have hgrown := (run_grown ht hspares hsends errand).2
  cases errand with
  | send envelope =>
    refine ⟨(run_send_grown ht hsends envelope).2.2.trans hclosed, ?_⟩
    rwa [due_send_of_closed hclosed] at hgrown
  | close =>
    refine ⟨?_, hgrown⟩
    show (w.close h).2.link.connected = false
    rw [(close_grown hspares w).2.2, hclosed, Bool.false_and]
  | failToClose fail => exact ⟨hclosed, hgrown⟩

theorem ran_grown (hsends : w.link.failingSends = []) (errands : List Errand) :
    w.answersTo h errands = (w.dues h treat errands).map Prod.fst ∧
      Link.Grown ((w.dues h treat errands).flatMap Prod.snd) w.link (w.ran h errands).link := by
  induction errands generalizing w with
  | nil => exact ⟨rfl, .of_eq rfl⟩
  | cons errand errands ih =>
    obtain ⟨hresult, hgrown⟩ := run_grown ht hspares hsends errand
    obtain ⟨hresults, hrest⟩ := ih (hgrown.failingSends.trans hsends)
    refine ⟨?_, hgrown.trans hrest⟩
    rw [answersTo, dues, List.map_cons, hresult, hresults]

theorem ran_staysClosed (hsends : w.link.failingSends = []) (errands : List Errand) :
    StaysClosed w (w.ran h errands) := by
  induction errands generalizing w with
  | nil => exact .of_eq rfl
  | cons errand errands ih =>
    have hgrown := (run_grown ht hspares hsends errand).2
    exact (run_staysClosed ht hspares hsends errand).trans (ih (hgrown.failingSends.trans hsends))

/-! ## The account -/

omit ht hspares in
/-- What is due for a run of errands has come of it, and nothing else. -/
structure Discharged (h : Host σ) (treat : Treatment σ) (errands : List Errand) (w : World σ) :
    Prop where
  results : w.answersTo h errands = (w.dues h treat errands).map Prod.fst
  sent : (w.ran h errands).link.sent =
    w.link.sent ++ (w.dues h treat errands).flatMap Prod.snd
  /-- What is refused enters no module, and changes nothing. -/
  refused : ∀ before envelope after error, errands = before ++ .send envelope :: after →
    (w.ran h before).outgoing treat envelope = .error error →
      (w.ran h before).run h (.send envelope) = (.error error, w.ran h before)
  /-- What is not refused enters the modules that it is to enter and no others, and what they have
  made of it is handed to the link once. -/
  passed : ∀ before envelope after transit, errands = before ++ .send envelope :: after →
    (w.ran h before).outgoing treat envelope = .ok transit →
      let u := w.ran h before
      let v := (u.run h (.send envelope)).2
      v.user = transit.user ∧
        v.trace = u.trace ++ (transit.entered.map fun name => .entered name .sending) ++
          transit.item.toList.map (handing u.link)
  /-- Once a close has succeeded nothing more is kept, -/
  closed : ∀ before after, errands = before ++ .close :: after →
    ((w.ran h before).run h .close).1 = .ok () →
      (w.ran h errands).link.sent = (w.ran h before).link.sent
  /-- and what would be handed to the link is told that it is closed. -/
  late : ∀ before between envelope after transit,
    errands = before ++ .close :: (between ++ .send envelope :: after) →
    ((w.ran h before).run h .close).1 = .ok () →
      let v := w.ran h (before ++ .close :: between)
      v.outgoing treat envelope = .ok transit → transit.item.isSome →
        (v.run h (.send envelope)).1 = .error w.link.closedError

/-- Whatever a channel is told to send, and however often it is closed in between, what is due comes
of it: the link keeps what the modules have made of the envelopes that were not refused, in the
order in which they were sent, until it is closed. -/
theorem errands_discharged (hsends : w.link.failingSends = []) (errands : List Errand) :
    w.Discharged h treat errands := by
  have hran : ∀ before, (w.ran h before).link.failingSends = [] := fun before =>
    (ran_grown ht hspares hsends before).2.failingSends.trans hsends
  -- From a close that succeeds the link is closed, and keeps what it had kept before.
  have hshut : ∀ before between, ((w.ran h before).run h .close).1 = .ok () →
      (w.ran h (before ++ .close :: between)).link.connected = false ∧
        Link.Grown [] (w.ran h before).link (w.ran h (before ++ .close :: between)).link := by
    intro before between hok
    obtain ⟨_, hgrown, _⟩ := close_grown hspares (w.ran h before)
    rw [ran_append, ran_cons]
    obtain ⟨hclosed, hrest⟩ := ran_staysClosed ht hspares (hgrown.failingSends.trans (hran before))
      between (closed_of_close_ok hspares hok)
    exact ⟨hclosed, hgrown.trans hrest⟩
  constructor
  case results => exact (ran_grown ht hspares hsends errands).1
  case sent => exact (ran_grown ht hspares hsends errands).2.sent
  case refused =>
    intro before envelope _ error _ hrefused
    show (w.ran h before).send h envelope = _
    rw [send_of_outgoing ht, hrefused]
  case passed =>
    intro before envelope _ transit _ hpassed
    exact send_passed ht hpassed
  case closed =>
    intro before after herrands hok
    rw [herrands, (hshut before after hok).2.sent, List.append_nil]
  case late =>
    intro before between envelope after transit _ hok v hpassed hsome
    obtain ⟨hclosed, _⟩ := hshut before between hok
    have hkind : v.link.kind = w.link.kind :=
      (ran_grown ht hspares hsends (before ++ .close :: between)).2.kind
    rw [(run_send_grown ht (hran (before ++ .close :: between)) envelope).1,
      due_send_late hclosed hpassed hsome]
    unfold Link.closedError
    rw [hkind]

end World

/-! ## A channel that is closed half way -/

/-- A channel of an established session with two modules for messages, the first of which swallows
the first message. -/
def guardedWorld : World Nat where
  channel := {
    standing := { state := .established }
    pipelines := ⟨⟨[.named "gate", .named "stamp"]⟩, {}, {}⟩ }
  user := 1

def plainMessage (id : Option String) : Message where
  header := { id }
  mediaType := "text/plain"
  content := .null

/-- The first of two closes fails. -/
def guardedErrands : List Errand :=
  [.send (.message (plainMessage none)), .send (.message (plainMessage none)), .failToClose true,
    .close, .send (.session { state := .finishing }), .failToClose false, .close,
    .send (.message (plainMessage none))]

theorem errands_discharged_guarded :
    guardedWorld.link.failingSends = [] ∧
      (countingProgram.host 1).SparesClosedLink ∧
      (guardedWorld.ran (countingProgram.host 1) guardedErrands).link.sent =
        [.message (plainMessage (some "stamp")), .session { state := .finishing }] ∧
      guardedWorld.answersTo (countingProgram.host 1) guardedErrands =
        [.ok (), .ok (), .ok (), .error (.transport (.inputOutput "close failed")), .ok (), .ok (),
          .ok (), .error guardedWorld.link.closedError] := by
  have hspares : (countingProgram.host 1).SparesClosedLink :=
    (Program.host_isReserved (fun _ _ => rfl) 1).sparesClosedLink
  have hdischarged := World.errands_discharged (w := guardedWorld) countingProgram_treats hspares
    rfl guardedErrands
  refine ⟨rfl, hspares, ?_, ?_⟩
  · rw [hdischarged.sent]
    rfl
  · rw [hdischarged.results]
    rfl

end Courier
