/-
What a request carries from its beginning to its end.

Little of what a request does matters to the liveness of a channel, to its session, or to who hears
of what comes.  A relation between worlds that holds wherever none of this changes (`Still`), across
the few things that change some of it, and across the callbacks, holds from the beginning of a
request to its end (`perform_carries`).

Two kinds of requests do more and are left to those who use this: to hand in a session, and to close
the link.  The notices that these give are calls like all others, but what is told of them may be
just what a relation is about.
-/
import Courier.Proofs.Channel.Hosts

namespace Courier

/-- Whether an envelope is the last session of all. -/
def Envelope.isLast : Envelope → Bool
  | session s => s.state.isTerminal
  | _ => false

/-- What liveness depends on. -/
structure World.Pulse where
  now : Nat
  settings : ChannelSettings
  lastActivity : Nat
  keepAlive : KeepAlive
  connected : Bool
  /-- How many envelopes were handed to the link. -/
  attempts : Nat
  closeCalls : Nat
  held : Bool
  waiting : Nat
  depth : Nat

/-- Calls that give no notice of a session, nor of the close of the link. -/
def Call.isPlain : Call → Bool
  | .listener _ (.envelope (.session _)) | .listener _ (.closed _) => false
  | _ => true

/-- Requests that neither hand in a session nor close the link. -/
def Request.isPlain : Request → Bool
  | .receive (.session _) | .raise (.session _) | .close | .closeLink => false
  | _ => true

/-- The listener that a request may take out of the session registry. -/
def Request.dismissed? : Request → Option Name
  | .removeListener .session name | .startSession name => some name
  | _ => none

/-- How a subscriber is given notice. -/
def Subscriber.notice? (notice : Notice) : Subscriber → Option Call
  | named name => some (.listener name notice)
  | handshake _ => none

/-- The notices that a delivery gives. -/
def Registry.notices (registry : Registry Subscriber) (notice : Notice) : List Call :=
  registry.listeners.filterMap (Subscriber.notice? notice)

theorem Call.isPlain_notice (name : Name) (kind : Traffic) (item : kind.Item) :
    (Call.listener name (.envelope (kind.envelope item))).isPlain = true := by
  cases kind <;> rfl

namespace World

variable {σ : Type} {h : Host σ} {R : World σ → World σ → Prop} {spared : Name → Prop}
  {u v w : World σ}

def pulse (w : World σ) : Pulse where
  now := w.now
  settings := w.channel.settings
  lastActivity := w.channel.lastActivity
  keepAlive := w.channel.keepAlive
  connected := w.link.connected
  attempts := w.link.attempts
  closeCalls := w.link.closeCalls
  held := w.held
  waiting := w.waiting
  depth := w.depth

/-- Nothing has changed that matters to liveness, the session, or the listeners for it. -/
structure Still (v w : World σ) : Prop where
  pulse : w.pulse = v.pulse
  standing : w.channel.standing = v.channel.standing
  sessionListeners : w.channel.sessionListeners = v.channel.sessionListeners
  user : w.user = v.user
  trace : v.trace <+: w.trace

theorem Still.refl (w : World σ) : Still w w :=
  ⟨rfl, rfl, rfl, rfl, List.prefix_refl _⟩

theorem Still.trans (huv : Still u v) (hvw : Still v w) : Still u w where
  pulse := hvw.pulse.trans huv.pulse
  standing := hvw.standing.trans huv.standing
  sessionListeners := hvw.sessionListeners.trans huv.sessionListeners
  user := hvw.user.trans huv.user
  trace := huv.trace.trans hvw.trace

theorem still_record (event : Event) (w : World σ) : Still w (w.record event) :=
  ⟨rfl, rfl, rfl, rfl, List.prefix_append _ _⟩

/-- The listeners of a delivery of a session have been taken. -/
def sessionTaken (w : World σ) : World σ :=
  w.modify fun channel => { channel with sessionListeners := channel.sessionListeners.withoutOnce }

/-- A relation that holds where nothing changes, and across what telling a listener may do. -/
structure Hears (h : Host σ) (R : World σ → World σ → Prop) : Prop where
  still : ∀ {v w}, Still v w → R v w
  trans : ∀ {u v w}, R u v → R v w → R u w
  call : ∀ call w, call.isPlain = true → R w (w.callOut h call)
  retire : ∀ number handshake w, R w (w.retire number handshake)

/-- A relation that also holds across what requests do.  Nothing is said of what takes listeners out
of the session registry that are to be spared. -/
structure Carries (spared : Name → Prop) (h : Host σ) (R : World σ → World σ → Prop) : Prop
    extends Hears h R where
  transform : ∀ kind name direction item w, R w (h.transform kind name direction item w).2
  transmit : ∀ envelope w, R w (w.transmit envelope true).2
  register : ∀ listener once w, R w (w.addSessionListener listener once).2
  unregister : ∀ listener w, (∀ name, spared name → listener ≠ .named name) →
    R w (w.removeSessionListener listener).2
  taken : ∀ w, R w w.sessionTaken

/-! ## Telling listeners -/

section Hears

variable (hr : Hears h R)
include hr

theorem Hears.refl (w : World σ) : R w w :=
  hr.still (.refl w)

/-- Calls a listener, after something has been noted. -/
theorem recorded_hears (event : Event) (hcall : R (w.record event) v) : R w v :=
  hr.trans (hr.still (still_record event w)) hcall

theorem conclude_hears (number : Nat) (outcome : Outcome) (w : World σ) :
    R w (w.conclude h number outcome) := by
  by_cases hpending : Pending number w
  · obtain ⟨handshake, hget, hfinished⟩ := hpending
    rw [conclude_of_pending hget hfinished]
    refine hr.trans (hr.retire number handshake w) ?_
    unfold noted announced
    cases handshake.reporter with
    | callback name => exact recorded_hears hr _ (hr.call _ _ rfl)
    | waiting name => exact hr.still ⟨rfl, rfl, rfl, rfl, List.prefix_refl _⟩
  · rw [conclude_of_not_pending hpending]
    exact hr.refl w

theorem handshakeCloses_hears (number : Nat) (state : SessionState) (w : World σ) :
    R w (w.handshakeCloses h number state) := by
  unfold handshakeCloses
  split
  · exact hr.refl w
  · exact conclude_hears hr number _ w

theorem foldl_hears {α : Type} {tell : World σ → α → World σ} {called : List α}
    (htell : ∀ a ∈ called, ∀ w, R w (tell w a)) (w : World σ) : R w (called.foldl tell w) := by
  induction called generalizing w with
  | nil => exact hr.refl w
  | cons a called ih =>
    have hrest := ih fun b hb => htell b (List.mem_cons_of_mem a hb)
    exact hr.trans (htell a List.mem_cons_self w) (hrest _)

theorem deliver_hears (kind : Traffic) (item : kind.Item) (w : World σ) :
    R w (w.deliver h kind item) := by
  have htold : ∀ name (w : World σ), R w
      ((w.record (.notified name (.envelope (kind.envelope item)))).callOut h
        (.listener name (.envelope (kind.envelope item)))) := fun name w =>
    recorded_hears hr _ (hr.call _ _ (Call.isPlain_notice name kind item))
  refine hr.trans (hr.still ?_) (foldl_hears hr (fun name _ w => htold name w) _)
  exact ⟨rfl, rfl, rfl, rfl, List.prefix_refl _⟩

end Hears

section

/- What comes of giving some notices. -/
variable {T : List Call → World σ → World σ → Prop}
  (htrans : ∀ {first second u v w}, T first u v → T second v w → T (first ++ second) u w)
include htrans

/-- Telling subscribers one after the other is telling them all. -/
theorem foldl_notices {notice : Notice} {tell : World σ → Subscriber → World σ}
    (hnil : ∀ w, T [] w w)
    (htold : ∀ subscriber w, T (subscriber.notice? notice).toList w (tell w subscriber))
    (called : List Subscriber) (w : World σ) :
    T (called.filterMap (Subscriber.notice? notice)) w (called.foldl tell w) := by
  induction called generalizing w with
  | nil => exact hnil w
  | cons subscriber called ih =>
    have hboth := htrans (htold subscriber w) (ih (tell w subscriber))
    have hcons : (subscriber :: called).filterMap (Subscriber.notice? notice) =
        (subscriber.notice? notice).toList ++ called.filterMap (Subscriber.notice? notice) := by
      cases subscriber <;> rfl
    rw [hcons]
    exact hboth

/-- All who listen for the close are told, in order. -/
theorem deliverClose_notices (hr : Hears h R) (hquiet : ∀ {v w}, R v w → T [] v w)
    (hcall : ∀ name state w, T [.listener name (.closed state)] w
      (w.callOut h (.listener name (.closed state)))) (w : World σ) :
    T (w.channel.closeListeners.notices (.closed w.channel.standing.state)) w
      (w.deliverClose h) := by
  have htold : ∀ state subscriber (w : World σ),
      T (Subscriber.notice? (.closed state) subscriber).toList w
        (w.tellClose h state subscriber) := by
    intro state subscriber w
    cases subscriber with
    | named name => exact htrans (hquiet (hr.still (still_record _ w))) (hcall name state _)
    | handshake number => exact hquiet (handshakeCloses_hears hr number state w)
  refine htrans (hquiet (hr.still ?_))
    (foldl_notices htrans (fun w => hquiet (hr.refl w)) (htold _) _ _)
  exact ⟨rfl, rfl, rfl, rfl, List.prefix_refl _⟩

end

/-- Where notices of the close are no more than other calls, telling of it is like telling of
anything else. -/
theorem deliverClose_hears (hr : Hears h R)
    (hcall : ∀ name state w, R w (w.callOut h (.listener name (.closed state)))) (w : World σ) :
    R w (w.deliverClose h) :=
  deliverClose_notices (T := fun _ => R) hr.trans hr id hcall w

/-! ## Sending -/

theorem still_configure (compression : Option Compression) (encryption : Option Encryption)
    (w : World σ) : Still w (w.configure compression encryption).2 := by
  have hcompression : ∀ (compression : Compression) (w : World σ),
      Still w { w with link := (w.link.setCompression compression).2 } := by
    intro compression w
    unfold Link.setCompression
    split <;> exact ⟨rfl, rfl, rfl, rfl, List.prefix_refl _⟩
  have hencryption : ∀ (encryption : Encryption) (w : World σ),
      Still w { w with link := (w.link.setEncryption encryption).2 } := by
    intro encryption w
    unfold Link.setEncryption
    split <;> exact ⟨rfl, rfl, rfl, rfl, List.prefix_refl _⟩
  have hnone : ∀ w : World σ, Still w (w.configure none encryption).2 := by
    intro w
    unfold configure
    dsimp only
    split
    · exact .refl w
    · split
      · exact .refl w
      · split <;> exact (hencryption _ w).trans (still_record _ _)
  cases compression with
  | none => exact hnone w
  | some value =>
    rw [configure_some]
    split
    · exact hnone w
    · have hset := (hcompression value w).trans (still_record (.compressionSet value) _)
      dsimp only
      split
      · exact hset
      · exact hset.trans (hnone _)

section Carries

variable (hc : Carries spared h R)
include hc

theorem negotiate_carries (compression : Compression) (encryption : Encryption) (w : World σ) :
    R w (w.negotiate compression encryption).2 := by
  unfold negotiate
  split
  · exact hc.refl w
  · exact hc.transmit _ w

theorem authenticate_carries (identity : Identity) (authentication : Authentication)
    (place : Option String) (w : World σ) :
    R w (w.authenticate identity authentication place).2 := by
  unfold authenticate
  split
  · exact hc.refl w
  · split
    · exact hc.refl w
    · exact hc.transmit _ w

theorem finishSession_carries (w : World σ) : R w w.finishSession.2 := by
  unfold finishSession
  split
  · exact hc.refl w
  · exact hc.transmit _ w

theorem performStep_carries (establishment : Establishment) (step : HandshakeStep) (w : World σ) :
    R w (w.performStep establishment step).2 := by
  cases step with
  | negotiate compression encryption => exact negotiate_carries hc _ _ w
  | configure compression encryption => exact hc.still (still_configure _ _ w)
  | authenticate => exact authenticate_carries hc _ _ _ w
  | complete => exact hc.refl w

theorem startSession_carries {listener : Subscriber}
    (hspared : ∀ name, spared name → listener ≠ .named name) (w : World σ) :
    R w (w.startSession listener).2 := by
  have hsent : R w ((w.addSessionListener listener true).2.sendSession { state := .new }).2 :=
    hc.trans (hc.register listener true w) (hc.transmit _ _)
  unfold startSession
  split
  · exact hc.refl w
  · split <;> rename_i heq <;> rw [heq] at hsent
    · exact hsent
    · exact hc.trans hsent (hc.unregister listener _ hspared)

theorem establish_carries (establishment : Establishment) (reporter : Reporter) (w : World σ) :
    R w (w.establish establishment reporter).2 := by
  unfold establish
  split
  · exact hc.refl w
  · split
    · exact hc.refl w
    · dsimp only
      have hunnamed : ∀ name, spared name →
          Subscriber.handshake w.channel.handshakes.length ≠ .named name := fun _ _ => nofun
      have hstarted := startSession_carries hc hunnamed
        ((w.modify fun channel => { channel with handshakes :=
          w.channel.handshakes ++ [{ establishment, reporter }] }).addCloseListener
            (.handshake w.channel.handshakes.length) true).2
      split <;> rename_i heq <;> rw [heq] at hstarted
      · refine hc.trans ?_ hstarted
        exact hc.still ⟨rfl, rfl, rfl, rfl, List.prefix_refl _⟩
      · refine hc.trans ?_ (hc.trans hstarted ?_) <;>
          exact hc.still ⟨rfl, rfl, rfl, rfl, List.prefix_refl _⟩

theorem handshakeReceives_carries (number : Nat) (session : Session) (w : World σ) :
    R w (w.handshakeReceives h number session) := by
  by_cases hpending : Pending number w
  · obtain ⟨handshake, hget, hfinished⟩ := hpending
    rw [handshakeReceives_of_pending hget hfinished]
    split
    · exact conclude_hears hc.toHears number _ w
    · rename_i step _
      split
      · have hperformed := hc.trans (hc.register (.handshake number) true w)
          (performStep_carries hc handshake.establishment step _)
        split <;> rename_i heq <;> rw [heq] at hperformed
        · exact hperformed
        · exact hc.trans hperformed (conclude_hears hc.toHears number _ _)
      · exact conclude_hears hc.toHears number _ w
  · rw [handshakeReceives_of_not_pending hpending]
    exact hc.refl w

theorem through_carries {ι β : Type} {step : ι → β → World σ → Option β × World σ}
    (hstep : ∀ m item w, R w (step m item w).2) (ms : List ι) (item : β) (w : World σ) :
    R w (Pipeline.through step ms item w).2 :=
  Pipeline.through_induction (P := R w) (fun m item u hu => hc.trans hu (hstep m item u)) ms item
    (hc.refl w)

theorem callStage_carries (kind : Traffic) (name : Name) (direction : Direction) (item : kind.Item)
    (w : World σ) :
    R w (h.transform kind name direction item ((w.record (.entered name direction)).callOut h
      (.stage name direction (kind.envelope item)))).2 :=
  hc.trans (recorded_hears hc.toHears _ (hc.call _ _ rfl)) (hc.transform _ _ _ _ _)

theorem sendingStep_carries (kind : Traffic) (stage : Stage) (item : kind.Item) (w : World σ) :
    R w (w.sendingStep h kind stage item).2 := by
  cases stage with
  | named name => exact callStage_carries hc kind name .sending item w
  | receipt => exact hc.refl w

theorem sendUnchecked_carries {isActivity : Bool}
    (htransmit : ∀ envelope w, R w (w.transmit envelope isActivity).2) (kind : Traffic)
    (item : kind.Item) (w : World σ) : R w (w.sendUnchecked h kind item isActivity).2 := by
  have hthrough := through_carries hc
    (fun stage item w => sendingStep_carries hc kind stage item w)
    (w.channel.pipelines.get kind).modules item w
  unfold sendUnchecked
  split <;> rename_i heq <;> rw [heq] at hthrough
  · exact hc.trans hthrough (htransmit _ _)
  · exact hthrough

theorem sendItem_carries (kind : Traffic) (item : kind.Item) (w : World σ) :
    R w (w.sendItem h kind item).2 := by
  unfold sendItem
  split
  · exact sendUnchecked_carries hc hc.transmit kind item w
  · exact hc.refl w

theorem send_carries (envelope : Envelope) (w : World σ) : R w (w.send h envelope).2 := by
  cases envelope with
  | message m => exact sendItem_carries hc .message m w
  | notification n => exact sendItem_carries hc .notification n w
  | command c => exact sendItem_carries hc .command c w
  | session s => exact hc.transmit _ w

/-! ## Receiving -/

theorem receivingStep_carries (kind : Traffic) (stage : Stage) (item : kind.Item) (w : World σ) :
    R w (w.receivingStep h kind stage item).2 := by
  cases stage with
  | named name => exact callStage_carries hc kind name .receiving item w
  | receipt =>
    unfold receivingStep
    dsimp only
    split
    · exact sendItem_carries hc .notification _ w
    · exact hc.refl w

theorem arrive_carries (kind : Traffic) (item : kind.Item) (w : World σ) :
    R w (w.arrive h kind item).2 := by
  cases kind with
  | message => exact deliver_hears hc.toHears .message _ w
  | notification => exact deliver_hears hc.toHears .notification _ w
  | command =>
    unfold arrive
    dsimp only
    split
    · exact sendUnchecked_carries hc hc.transmit .command _ w
    · exact deliver_hears hc.toHears .command _ w

theorem receiveItem_carries (kind : Traffic) (item : kind.Item) (w : World σ) :
    R w (w.receiveItem h kind item).2 := by
  have hthrough := through_carries hc
    (fun stage item w => receivingStep_carries hc kind stage item w)
    (w.channel.pipelines.get kind).modules item w
  unfold receiveItem
  split
  · exact hc.refl w
  · split <;> rename_i heq <;> rw [heq] at hthrough
    · exact hc.trans hthrough (arrive_carries hc kind _ _)
    · exact hthrough

/-- All who listen for sessions are told, in order. -/
theorem deliverSession_notices {T : List Call → World σ → World σ → Prop}
    (htrans : ∀ {first second u v w}, T first u v → T second v w → T (first ++ second) u w)
    (hquiet : ∀ {v w}, R v w → T [] v w) (session : Session)
    (hcall : ∀ name w, T [.listener name (.envelope (.session session))] w
      (w.callOut h (.listener name (.envelope (.session session))))) (w : World σ) :
    T (w.channel.sessionListeners.notices (.envelope (.session session))) w
      (w.deliverSession h session) := by
  have htold : ∀ subscriber (w : World σ),
      T (Subscriber.notice? (.envelope (.session session)) subscriber).toList w
        (w.tellSession h session subscriber) := by
    intro subscriber w
    cases subscriber with
    | named name => exact htrans (hquiet (hc.still (still_record _ w))) (hcall name _)
    | handshake number => exact hquiet (handshakeReceives_carries hc number session w)
  exact htrans (hquiet (hc.taken w))
    (foldl_notices htrans (fun w => hquiet (hc.refl w)) htold _ _)

/-- Where notices of a session are no more than other calls, a delivery of it is like any other. -/
theorem deliverSession_carries (session : Session)
    (hcall : ∀ name w, R w (w.callOut h (.listener name (.envelope (.session session)))))
    (w : World σ) : R w (w.deliverSession h session) :=
  deliverSession_notices (T := fun _ => R) hc hc.trans id session hcall w

end Carries

/-! ## Closing -/

/-- The link has been asked to close. -/
def rung (w : World σ) : World σ :=
  let w := w.record .closing
  { w with link := { w.link with closeCalls := w.link.closeCalls + 1 } }

/-- The link has been closed, and the pings with it if the channel is still there. -/
def severed (w : World σ) : World σ :=
  let w := { w with link := { w.link with connected := false } }
  if w.alive then w.stopKeepAlive else w

/-- What a close does to the link at once: it is asked to close, and is closed unless that fails or
it is closed already. -/
def struck (w : World σ) : World σ :=
  if w.link.failsToClose || !w.link.connected then w.rung else w.rung.severed

/-- Whether the channel hears of a close. -/
def hearsClose (w : World σ) : Bool :=
  !w.link.failsToClose && w.link.connected && w.alive

/-- After what it does to the link, all that a close does is to tell the listeners. -/
theorem closeLink_eq (w : World σ) :
    (w.closeLink h).2 = if w.hearsClose then w.struck.deliverClose h else w.struck := by
  have hdisconnect : ∀ v : World σ, v.disconnect h =
      if v.link.connected then
        if v.alive then v.severed.deliverClose h else v.severed
      else v := by
    intro v
    have halive : ({ v with link := { v.link with connected := false } } : World σ).alive =
        v.alive := rfl
    unfold disconnect linkClosed severed
    dsimp only
    rw [halive]
    by_cases hgone : v.alive = true
    · simp only [if_pos hgone]
    · simp only [if_neg hgone]
  have hclose : (w.closeLink h).2 =
      if w.link.failsToClose then w.rung else w.rung.disconnect h := by
    unfold closeLink
    dsimp only
    split
    · rename_i hfails
      exact (if_pos hfails).symm
    · rename_i hcloses
      exact (if_neg hcloses).symm
  have halive : w.rung.alive = w.alive := rfl
  have hconnected : w.rung.link.connected = w.link.connected := rfl
  rw [hclose, hdisconnect, halive, hconnected]
  unfold hearsClose struck
  cases w.link.failsToClose <;> cases w.link.connected <;> cases w.alive <;> rfl

theorem closeCalls_struck (w : World σ) : w.struck.link.closeCalls = w.link.closeCalls + 1 := by
  unfold struck severed
  dsimp only
  split
  · rfl
  · split <;> rfl

theorem now_struck (w : World σ) : w.struck.now = w.now := by
  unfold struck severed
  dsimp only
  split
  · rfl
  · split <;> rfl

theorem user_struck (w : World σ) : w.struck.user = w.user := by
  unfold struck severed
  dsimp only
  split
  · rfl
  · split <;> rfl

/-- Of the channel a close stops the pings at most. -/
theorem channel_struck (w : World σ) :
    w.struck.channel = { w.channel with keepAlive := w.struck.channel.keepAlive } := by
  unfold struck severed
  dsimp only
  split
  · rfl
  · split <;> rfl

theorem connected_struck (w : World σ) :
    w.struck.link.connected = (w.link.connected && w.link.failsToClose) := by
  unfold struck
  cases hfails : w.link.failsToClose <;> cases hconnected : w.link.connected
  · exact hconnected
  · show w.rung.severed.link.connected = false
    unfold severed
    dsimp only
    split <;> rfl
  · exact hconnected
  · exact hconnected

theorem keepAlive_struck (w : World σ) :
    w.struck.channel.keepAlive =
      if w.hearsClose then w.channel.keepAlive.stop w.now else w.channel.keepAlive := by
  have halive : ({ w.rung with link := { w.rung.link with connected := false } } : World σ).alive =
      w.alive := rfl
  unfold struck hearsClose
  cases w.link.failsToClose <;> cases w.link.connected
  · rfl
  · show w.rung.severed.channel.keepAlive = if w.alive then _ else _
    unfold severed
    dsimp only
    rw [halive]
    split <;> rfl
  · rfl
  · rfl

/-! ## Requests -/

/-- What a reception does at once: it is activity, and the last session stops the pings. -/
def opened (envelope : Envelope) (w : World σ) : World σ :=
  if envelope.isLast then w.touch.stopKeepAlive else w.touch

theorem receive_carries (hc : Carries spared h R) {envelope : Envelope}
    (htraffic : ∀ session, envelope ≠ .session session) (w : World σ) :
    R (w.opened envelope) (w.receive h envelope).2 := by
  cases envelope with
  | message m => exact receiveItem_carries hc .message m w.touch
  | notification n => exact receiveItem_carries hc .notification n w.touch
  | command c => exact receiveItem_carries hc .command c w.touch
  | session s => exact absurd rfl (htraffic s)

/-- Whether a request is refused, because it is for a channel that the program does not hold. -/
def refuses (request : Request) (w : World σ) : Bool :=
  request.isForChannel && !w.held

/-- What a request does at once. -/
def begun (request : Request) (w : World σ) : World σ :=
  if w.refuses request then w
  else
    match request with
    | .receive envelope => w.opened envelope
    | .raise envelope => if w.alive then w.opened envelope else w
    | .close => w.stopKeepAlive
    | .drop => { w with held := false }
    | _ => w

theorem perform_of_refused {request : Request} (hrefused : w.refuses request = true) :
    w.perform h request = (.dropped, w) :=
  if_pos hrefused

theorem begun_of_refused {request : Request} (hrefused : w.refuses request = true) :
    w.begun request = w :=
  if_pos hrefused

theorem perform_of_not_refused {request : Request} (hnot : w.refuses request ≠ true) :
    w.perform h request = w.answer h request :=
  if_neg hnot

/-- From what it does at once to its end, a request is within every relation that is carried. -/
theorem perform_carries (hc : Carries spared h R) {request : Request}
    (hplain : request.isPlain = true)
    (hspares : ∀ name, request.dismissed? = some name → ¬spared name) (w : World σ) :
    R (w.begun request) (w.perform h request).2 := by
  have hother : ∀ {v : World σ}, Still w v → R w v := hc.still
  by_cases hrefused : w.refuses request = true
  · rw [perform_of_refused hrefused, begun_of_refused hrefused]
    exact hc.refl w
  rw [perform_of_not_refused hrefused]
  unfold begun
  rw [if_neg hrefused]
  cases request with
  | send envelope => exact send_carries hc envelope w
  | receive envelope =>
    refine receive_carries hc (fun session heq => ?_) w
    rw [heq] at hplain
    cases hplain
  | raise envelope =>
    show R (if w.alive then w.opened envelope else w) (w.raise h envelope)
    unfold raise
    split
    · refine receive_carries hc (fun session heq => ?_) w
      rw [heq] at hplain
      cases hplain
    · exact hc.refl w
  | addListener audience name once =>
    cases audience with
    | session => exact hc.register _ once w
    | traffic | close => exact hother ⟨rfl, rfl, rfl, rfl, List.prefix_refl _⟩
  | removeListener audience name =>
    cases audience with
    | session =>
      refine hc.unregister _ w fun other hother heq => ?_
      cases heq
      exact hspares name rfl hother
    | traffic | close => exact hother ⟨rfl, rfl, rfl, rfl, List.prefix_refl _⟩
  | nextSession name => exact hc.register _ true w
  | startSession name =>
    refine startSession_carries hc (fun other hother heq => ?_) w
    cases heq
    exact hspares name rfl hother
  | negotiate compression encryption => exact negotiate_carries hc _ _ w
  | authenticate identity authentication place => exact authenticate_carries hc _ _ _ w
  | finish => exact finishSession_carries hc w
  | notifyReceived id recipient => exact sendItem_carries hc .notification _ w
  | establish establishment name => exact establish_carries hc establishment _ w
  | close | closeLink => cases hplain
  | addModule | removeModule | failToClose | setLink | takeSent =>
    exact hother ⟨rfl, rfl, rfl, rfl, List.prefix_refl _⟩
  | unreadable | moduleCounts | sentCounts | settings | alive | drop => exact hc.refl _

theorem await_carries (hc : Carries spared h R) (establishment : Establishment) (name : Name)
    (w : World σ) : R { w with waiting := w.waiting + 1 } (w.await establishment name) := by
  have hestablished := establish_carries hc establishment (.waiting name)
    { w with waiting := w.waiting + 1 }
  unfold await
  dsimp only
  split <;> rename_i heq <;> rw [heq] at hestablished
  · exact hestablished
  · exact hc.trans hestablished (hc.still ⟨rfl, rfl, rfl, rfl, List.prefix_refl _⟩)

end World
end Courier
