/-
Forgetting part of what a program knows.

A channel never looks at the state of the program around it.  So if one host knows more than another,
and its callbacks do the same otherwise (`Host.Forgets`), then whatever it does, the other does, once
what it knows in addition is forgotten (`happen_map`).
-/
import Courier.Proofs.Channel.Moments

namespace Courier

variable {σ τ : Type}

/-- A script does the same in two engines of which one shows what the other does. -/
theorem Script.run_map {ρ α ω ω' : Type} {g : ω → ω'} {perform : ρ → ω → α × ω}
    {perform' : ρ → ω' → α × ω'} {note : ρ → α → ω → ω} {note' : ρ → α → ω' → ω'}
    (hperform : ∀ request w,
      perform' request (g w) = ((perform request w).1, g (perform request w).2))
    (hnote : ∀ request reply w, note' request reply (g w) = g (note request reply w))
    (script : Script ρ α) (w : ω) :
    script.run perform' note' (g w) = g (script.run perform note w) := by
  induction script generalizing w with
  | done => rfl
  | ask request next ih => simp only [run, hperform, hnote, ih]

/-- Part of the state of the program is forgotten. -/
def World.map (f : σ → τ) (w : World σ) : World τ where
  now := w.now
  channel := w.channel
  link := w.link
  held := w.held
  waiting := w.waiting
  arrived := w.arrived
  depth := w.depth
  drawn := w.drawn
  trace := w.trace
  user := f w.user

/-- A result, and part of what comes with it. -/
abbrev World.mapWith {α : Type} (f : σ → τ) (result : α × World σ) : α × World τ :=
  (result.1, result.2.map f)

/-- Two hosts do the same, but for what the second forgets. -/
structure Host.Forgets (f : σ → τ) (h : Host σ) (k : Host τ) : Prop where
  call : ∀ call w, k.call call (w.map f) = (h.call call w).map f
  transform : ∀ kind name direction item w,
    k.transform kind name direction item (w.map f) =
      World.mapWith f (h.transform kind name direction item w)

namespace World

variable {f : σ → τ} {h : Host σ} {k : Host τ}

@[simp] theorem channel_map (w : World σ) : (w.map f).channel = w.channel := rfl

@[simp] theorem link_map (w : World σ) : (w.map f).link = w.link := rfl

@[simp] theorem alive_map (w : World σ) : (w.map f).alive = w.alive := rfl

theorem record_map (event : Event) (w : World σ) :
    (w.map f).record event = (w.record event).map f := rfl

theorem modify_map (change : Channel → Channel) (w : World σ) :
    (w.map f).modify change = (w.modify change).map f := rfl

/-! ## What no callback takes part in -/

theorem transmit_map (envelope : Envelope) (isActivity : Bool) (w : World σ) :
    (w.map f).transmit envelope isActivity = mapWith f (w.transmit envelope isActivity) := by
  have htouched : (if isActivity then (w.map f).touch else w.map f) =
      (if isActivity then w.touch else w).map f := by
    cases isActivity <;> rfl
  unfold transmit
  rw [htouched]
  simp only [link_map]
  rcases (if isActivity = true then w.touch else w).link.send envelope with ⟨_ | _, link⟩ <;> rfl

theorem startSession_map (listener : Subscriber) (w : World σ) :
    (w.map f).startSession listener = mapWith f (w.startSession listener) := by
  have hadded : ((w.map f).addSessionListener listener true).2 =
      (w.addSessionListener listener true).2.map f := rfl
  simp only [startSession, sendSession, channel_map, hadded, transmit_map]
  cases w.channel.standing.ensure .new "start a session" with
  | error error => rfl
  | ok =>
    rcases (w.addSessionListener listener true).2.transmit (.session { state := .new }) true with
      ⟨_ | _, u⟩ <;> rfl

theorem negotiate_map (compression : Compression) (encryption : Encryption) (w : World σ) :
    (w.map f).negotiate compression encryption = mapWith f (w.negotiate compression encryption) := by
  simp only [negotiate, sendSession, channel_map, transmit_map]
  cases w.channel.standing.ensure .negotiating "negotiate a session" <;> rfl

theorem authenticate_map (identity : Identity) (authentication : Authentication)
    (place : Option String) (w : World σ) :
    (w.map f).authenticate identity authentication place =
      mapWith f (w.authenticate identity authentication place) := by
  simp only [authenticate, sendSession, channel_map, transmit_map]
  cases w.channel.standing.ensure .authenticating "authenticate a session" with
  | error error => rfl
  | ok => cases checkIdentity identity <;> rfl

theorem finishSession_map (w : World σ) : (w.map f).finishSession = mapWith f w.finishSession := by
  simp only [finishSession, sendSession, channel_map, transmit_map]
  cases w.channel.standing.ensure .established "finish a session" <;> rfl

theorem configure_map (compression : Option Compression) (encryption : Option Encryption)
    (w : World σ) :
    (w.map f).configure compression encryption =
      mapWith f (w.configure compression encryption) := by
  have hnone : ∀ w : World σ,
      (w.map f).configure none encryption = mapWith f (w.configure none encryption) := by
    intro w
    cases encryption with
    | none => rfl
    | some encryption =>
      unfold configure
      dsimp only
      rw [link_map]
      by_cases hsame : w.link.encryption = encryption
      · rw [if_pos hsame, if_pos hsame]
      · rw [if_neg hsame, if_neg hsame]
        rcases w.link.setEncryption encryption with ⟨_ | _, link⟩ <;> rfl
  cases compression with
  | none => exact hnone w
  | some compression =>
    rw [configure_some, configure_some, link_map]
    by_cases hsame : w.link.compression = compression
    · rw [if_pos hsame, if_pos hsame]
      exact hnone w
    · rw [if_neg hsame, if_neg hsame]
      rcases w.link.setCompression compression with ⟨_ | _, link⟩
      · rfl
      · exact hnone ({ w with link }.record (.compressionSet compression))

theorem performStep_map (establishment : Establishment) (step : HandshakeStep) (w : World σ) :
    (w.map f).performStep establishment step = mapWith f (w.performStep establishment step) := by
  cases step with
  | negotiate compression encryption => exact negotiate_map _ _ w
  | configure compression encryption => exact configure_map _ _ w
  | authenticate => exact authenticate_map _ _ _ w
  | complete => rfl

theorem establish_map (establishment : Establishment) (reporter : Reporter) (w : World σ) :
    (w.map f).establish establishment reporter = mapWith f (w.establish establishment reporter) := by
  have hadded : ∀ v : World σ,
      ((v.map f).addCloseListener (.handshake w.channel.handshakes.length) true).2 =
        (v.addCloseListener (.handshake w.channel.handshakes.length) true).2.map f := fun _ => rfl
  have hnumbered : (w.map f).modify (fun channel => { channel with handshakes :=
      w.channel.handshakes ++ [{ establishment, reporter }] }) =
      (w.modify fun channel => { channel with handshakes :=
        w.channel.handshakes ++ [{ establishment, reporter }] }).map f := rfl
  simp only [establish, channel_map, hnumbered, hadded, startSession_map]
  cases w.channel.standing.ensure .new "establish a session" with
  | error error => rfl
  | ok =>
    cases checkIdentity establishment.identity with
    | error error => rfl
    | ok =>
      rcases startSession (.handshake w.channel.handshakes.length) _ with ⟨_ | _, u⟩ <;> rfl

theorem await_map (establishment : Establishment) (name : Name) (w : World σ) :
    (w.map f).await establishment name = (w.await establishment name).map f := by
  have hwaiting : ({ w.map f with waiting := (w.map f).waiting + 1 } : World τ) =
      ({ w with waiting := w.waiting + 1 } : World σ).map f := rfl
  simp only [await, hwaiting, establish_map]
  rcases establish establishment (.waiting name) _ with ⟨_ | _, u⟩ <;> rfl

theorem settle_map (w : World σ) : (w.map f).settle = w.settle.map f := by
  rw [settle_eq, settle_eq]
  rfl

/-! ## What callbacks take part in -/

section

variable (hf : h.Forgets f k)
include hf

theorem callOut_map (call : Call) (w : World σ) :
    (w.map f).callOut k call = (w.callOut h call).map f := by
  have hdeeper : ({ w.map f with depth := (w.map f).depth + 1 } : World τ) =
      ({ w with depth := w.depth + 1 } : World σ).map f := rfl
  simp only [callOut, hdeeper, hf.call]
  rfl

/-! ### Handshakes -/

theorem conclude_map (number : Nat) (outcome : Outcome) (w : World σ) :
    (w.map f).conclude k number outcome = (w.conclude h number outcome).map f := by
  have hretired : ∀ handshake, (w.map f).retire number handshake =
      (w.retire number handshake).map f := fun _ => rfl
  have hreported : ∀ reporter (v : World σ),
      (v.map f).report k number reporter outcome = (v.report h number reporter outcome).map f := by
    intro reporter v
    cases reporter with
    | callback name => exact callOut_map hf _ (v.record (.concluded number name outcome))
    | waiting name => rfl
  simp only [conclude, channel_map, hretired, hreported]
  cases w.channel.handshakes[number]? with
  | none => rfl
  | some handshake => exact (apply_ite (World.map f) _ _ _).symm

theorem handshakeReceives_map (number : Nat) (session : Session) (w : World σ) :
    (w.map f).handshakeReceives k number session =
      (w.handshakeReceives h number session).map f := by
  have hadded : ((w.map f).addSessionListener (.handshake number) true).2 =
      (w.addSessionListener (.handshake number) true).2.map f := rfl
  by_cases hpending : Pending number w
  · obtain ⟨handshake, hget, hfinished⟩ := hpending
    have hget' : (w.map f).channel.handshakes[number]? = some handshake := hget
    rw [handshakeReceives_of_pending hget' hfinished, handshakeReceives_of_pending hget hfinished]
    cases handshake.establishment.next session with
    | error error => exact conclude_map hf number _ w
    | ok step =>
      dsimp only
      rw [hadded, performStep_map]
      cases step.continues with
      | true =>
        rcases performStep handshake.establishment step _ with ⟨_ | _, u⟩
        · exact conclude_map hf number _ u
        · rfl
      | false => exact conclude_map hf number _ w
  · have hpending' : ¬Pending number (w.map f) := hpending
    rw [handshakeReceives_of_not_pending hpending', handshakeReceives_of_not_pending hpending]

theorem handshakeCloses_map (number : Nat) (state : SessionState) (w : World σ) :
    (w.map f).handshakeCloses k number state = (w.handshakeCloses h number state).map f := by
  unfold handshakeCloses
  split
  · rfl
  · exact conclude_map hf number _ w

/-! ### Deliveries -/

omit hf in
theorem foldl_map {α : Type} {tell : World σ → α → World σ} {tell' : World τ → α → World τ}
    (htell : ∀ w a, tell' (w.map f) a = (tell w a).map f) (called : List α) (w : World σ) :
    called.foldl tell' (w.map f) = (called.foldl tell w).map f := by
  induction called generalizing w with
  | nil => rfl
  | cons a called ih => rw [List.foldl_cons, List.foldl_cons, htell, ih]

theorem deliver_map (kind : Traffic) (item : kind.Item) (w : World σ) :
    (w.map f).deliver k kind item = (w.deliver h kind item).map f := by
  unfold deliver
  dsimp only
  rw [modify_map]
  exact foldl_map (fun w name => callOut_map hf _ (w.record _)) _ _

theorem deliverSession_map (session : Session) (w : World σ) :
    (w.map f).deliverSession k session = (w.deliverSession h session).map f := by
  unfold deliverSession
  dsimp only
  rw [modify_map]
  refine foldl_map (fun w subscriber => ?_) _ _
  cases subscriber with
  | named name => exact callOut_map hf _ (w.record _)
  | handshake number => exact handshakeReceives_map hf number session w

theorem deliverClose_map (w : World σ) :
    (w.map f).deliverClose k = (w.deliverClose h).map f := by
  unfold deliverClose
  dsimp only
  rw [modify_map]
  refine foldl_map (fun w subscriber => ?_) _ _
  cases subscriber with
  | named name => exact callOut_map hf _ (w.record _)
  | handshake number => exact handshakeCloses_map hf number _ w

theorem disconnect_map (w : World σ) : (w.map f).disconnect k = (w.disconnect h).map f := by
  unfold disconnect
  rw [link_map]
  split
  · unfold linkClosed
    show (if w.alive then _ else _) = World.map f (if w.alive then _ else _)
    split
    · exact deliverClose_map hf (stopKeepAlive { w with link := { w.link with connected := false } })
    · rfl
  · rfl

theorem closeLink_map (w : World σ) : (w.map f).closeLink k = mapWith f (w.closeLink h) := by
  have hdisconnected := disconnect_map hf w.rung
  unfold closeLink
  dsimp only
  show (if w.link.failsToClose then _ else _) = mapWith f (if w.link.failsToClose then _ else _)
  split
  · rfl
  · exact congrArg (Prod.mk _) hdisconnected

theorem close_map (w : World σ) : (w.map f).close k = mapWith f (w.close h) := by
  have hclosed : (w.map f).stopKeepAlive.closeLink k = mapWith f (w.stopKeepAlive.closeLink h) :=
    closeLink_map hf w.stopKeepAlive
  simp only [close, hclosed]
  rcases w.stopKeepAlive.closeLink h with ⟨_ | _, u⟩ <;> rfl

/-! ### Traffic -/

omit hf in
theorem through_map {ι β : Type} {step : ι → β → World σ → Option β × World σ}
    {step' : ι → β → World τ → Option β × World τ}
    (hstep : ∀ m item w, step' m item (w.map f) = mapWith f (step m item w)) (ms : List ι)
    (item : β) (w : World σ) :
    Pipeline.through step' ms item (w.map f) = mapWith f (Pipeline.through step ms item w) := by
  induction ms generalizing item w with
  | nil => rfl
  | cons m ms ih =>
    rw [Pipeline.through, Pipeline.through, hstep]
    rcases step m item w with ⟨_ | item, u⟩
    · rfl
    · exact ih item u

theorem callStage_map (kind : Traffic) (name : Name) (direction : Direction) (item : kind.Item)
    (w : World σ) :
    k.transform kind name direction item (((w.map f).record (.entered name direction)).callOut k
        (.stage name direction (kind.envelope item))) =
      mapWith f (h.transform kind name direction item ((w.record (.entered name direction)).callOut h
        (.stage name direction (kind.envelope item)))) := by
  rw [record_map, callOut_map hf, hf.transform]

theorem sendUnchecked_map (kind : Traffic) (item : kind.Item) (isActivity : Bool) (w : World σ) :
    (w.map f).sendUnchecked k kind item isActivity =
      mapWith f (w.sendUnchecked h kind item isActivity) := by
  have hstep : ∀ stage item (w : World σ),
      (w.map f).sendingStep k kind stage item = mapWith f (w.sendingStep h kind stage item) := by
    intro stage item w
    cases stage with
    | named name => exact callStage_map hf kind name .sending item w
    | receipt => rfl
  simp only [sendUnchecked, channel_map, through_map hstep]
  rcases Pipeline.through _ _ item w with ⟨_ | item, u⟩
  · rfl
  · exact transmit_map _ _ u

theorem sendItem_map (kind : Traffic) (item : kind.Item) (w : World σ) :
    (w.map f).sendItem k kind item = mapWith f (w.sendItem h kind item) := by
  simp only [sendItem, channel_map]
  cases w.channel.standing.ensure .established ("send a " ++ kind.word) with
  | error error => rfl
  | ok => exact sendUnchecked_map hf kind item true w

theorem send_map (envelope : Envelope) (w : World σ) :
    (w.map f).send k envelope = mapWith f (w.send h envelope) := by
  cases envelope with
  | message m => exact sendItem_map hf .message m w
  | notification n => exact sendItem_map hf .notification n w
  | command c => exact sendItem_map hf .command c w
  | session s => exact transmit_map _ _ w

theorem receivingStep_map (kind : Traffic) (stage : Stage) (item : kind.Item) (w : World σ) :
    (w.map f).receivingStep k kind stage item = mapWith f (w.receivingStep h kind stage item) := by
  cases stage with
  | named name => exact callStage_map hf kind name .receiving item w
  | receipt =>
    unfold receivingStep
    dsimp only
    rcases (kind.envelope item).header.id with _ | id
    · rfl
    · rcases (kind.envelope item).header.sender with _ | sender
      · rfl
      · exact congrArg (fun sent => (some item, sent.2)) (sendItem_map hf .notification _ w)

theorem arrive_map (kind : Traffic) (item : kind.Item) (w : World σ) :
    (w.map f).arrive k kind item = mapWith f (w.arrive h kind item) := by
  cases kind with
  | message => exact congrArg (Prod.mk _) (deliver_map hf .message _ w)
  | notification => exact congrArg (Prod.mk _) (deliver_map hf .notification _ w)
  | command =>
    unfold arrive
    dsimp only
    rw [channel_map]
    by_cases hping : (w.channel.settings.answersPings && item.isPing) = true
    · rw [if_pos hping, if_pos hping]
      exact sendUnchecked_map hf .command _ true w
    · rw [if_neg hping, if_neg hping]
      exact congrArg (Prod.mk _) (deliver_map hf .command _ w)

theorem receiveItem_map (kind : Traffic) (item : kind.Item) (w : World σ) :
    (w.map f).receiveItem k kind item = mapWith f (w.receiveItem h kind item) := by
  have hthrough := through_map (fun stage item w => receivingStep_map hf kind stage item w)
    (w.channel.pipelines.get kind).modules item w
  simp only [receiveItem, channel_map, hthrough]
  cases w.channel.standing.ensure .established ("receive a " ++ kind.word) with
  | error error => rfl
  | ok =>
    rcases Pipeline.through _ _ item w with ⟨_ | item, u⟩
    · rfl
    · exact arrive_map hf kind item u

theorem receiveSession_map (session : Session) (w : World σ) :
    (w.map f).receiveSession k session = (w.receiveSession h session).map f := by
  have hclosed : ∀ v : World σ,
      ((v.map f).stopKeepAlive.closeLink k).2 = (v.stopKeepAlive.closeLink h).2.map f := fun v =>
    congrArg Prod.snd (closeLink_map hf v.stopKeepAlive)
  unfold receiveSession
  dsimp only
  rw [modify_map]
  split
  · rw [hclosed]
    exact deliverSession_map hf session _
  · exact deliverSession_map hf session _

theorem receive_map (envelope : Envelope) (w : World σ) :
    (w.map f).receive k envelope = mapWith f (w.receive h envelope) := by
  cases envelope with
  | message m => exact receiveItem_map hf .message m w.touch
  | notification n => exact receiveItem_map hf .notification n w.touch
  | command c => exact receiveItem_map hf .command c w.touch
  | session s => exact congrArg (Prod.mk _) (receiveSession_map hf s w.touch)

/-! ### Requests and runs -/

theorem perform_map (request : Request) (w : World σ) :
    (w.map f).perform k request = mapWith f (w.perform h request) := by
  have hchannel : ∀ {answered : Except ChannelError Unit × World σ}
      {answered' : Except ChannelError Unit × World τ}, answered' = mapWith f answered →
      (Reply.ofChannel answered'.1, answered'.2) =
        mapWith f (Reply.ofChannel answered.1, answered.2) := by
    rintro _ _ rfl
    rfl
  unfold perform
  show (if request.isForChannel && !w.held then _ else _) =
    mapWith f (if request.isForChannel && !w.held then _ else _)
  split
  · rfl
  cases request with
  | send envelope => exact hchannel (send_map hf envelope w)
  | receive envelope => exact hchannel (receive_map hf envelope w)
  | raise envelope =>
    show (Reply.flag true, (w.map f).raise k envelope) = (Reply.flag true, (w.raise h envelope).map f)
    unfold raise
    rw [alive_map]
    split
    · rw [receive_map hf]
    · rfl
  | addListener audience name once => cases audience <;> rfl
  | removeListener audience name => cases audience <;> rfl
  | startSession name => exact hchannel (startSession_map _ w)
  | negotiate compression encryption => exact hchannel (negotiate_map _ _ w)
  | authenticate identity authentication place => exact hchannel (authenticate_map _ _ _ w)
  | finish => exact hchannel (finishSession_map w)
  | notifyReceived id recipient => exact hchannel (sendItem_map hf .notification _ w)
  | establish establishment name => exact hchannel (establish_map _ _ w)
  | close => exact hchannel (close_map hf w)
  | closeLink =>
    show (Reply.ofLink ((w.map f).closeLink k).1, ((w.map f).closeLink k).2) = _
    rw [closeLink_map hf]
    rfl
  | nextSession | addModule | removeModule | moduleCounts | failToClose | setLink | sentCounts |
    takeSent | settings | drop | alive | unreadable => rfl

theorem tick_map (w : World σ) : (w.map f).tick k = (w.tick h).map f := by
  have hsilent : (w.map f).isSilent = w.isSilent := rfl
  have hdrawn : (w.map f).drawId = mapWith f w.drawId := rfl
  simp only [tick, alive_map, hsilent, channel_map, hdrawn, closeLink_map hf, sendUnchecked_map hf]
  cases w.alive with
  | false => rfl
  | true =>
    cases w.isSilent with
    | true => rfl
    | false => exact (apply_ite (World.map f) _ _ _).symm

theorem happen_map (m : Moment) (w : World σ) : (w.map f).happen k m = (w.happen h m).map f := by
  cases m with
  | request request => exact congrArg Prod.snd (perform_map hf request w)
  | await establishment name =>
    show (if w.held then (w.map f).await establishment name else w.map f) =
      World.map f (if w.held then w.await establishment name else w)
    rw [await_map]
    exact (apply_ite (World.map f) _ _ _).symm
  | settle => exact settle_map w
  | pass duration => rfl
  | tick ahead =>
    show (if w.Heeds ahead then (w.map f).tick k else w.map f) =
      World.map f (if w.Heeds ahead then w.tick h else w)
    rw [tick_map hf]
    exact (apply_ite (World.map f) _ _ _).symm

end

end World
end Courier
