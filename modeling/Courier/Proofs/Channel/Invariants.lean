/-
Invariants of handshakes, and why a request keeps them.

A property of worlds that is `Kept` by the few things that concern handshakes, and by the callbacks
of the program (`Host.Keeps`), is kept by every request (`perform_keeps`) and every step
(`step_keeps`).

A delivery of a session takes the handshakes out of the registry before it tells them.  What does
not mind is kept at every moment (`KeptAlways`); there are properties that hold only when the
delivery is over, and these have to say why (`hsession`).
-/
import Courier.Proofs.Channel.Concluding

namespace Courier

variable {σ : Type} {P : World σ → Prop} {h : Host σ} {v w : World σ} {n : Nat}

/-- The callbacks of a program keep a property. -/
structure Host.Keeps (h : Host σ) (P : World σ → Prop) : Prop where
  call : ∀ (call : Call) (w : World σ), P w → P (h.call call w)
  transform : ∀ kind name direction item (w : World σ), P w →
    P (h.transform kind name direction item w).2

namespace World

/-- A property that is kept by whatever happens to handshakes, outside the programs. -/
structure Kept (P : World σ → Prop) : Prop where
  alike : ∀ {v w : World σ}, Alike v w → P v → P w
  start : ∀ establishment reporter {w : World σ}, w.link.connected = true → P w →
    P (w.started establishment reporter)
  register : ∀ {n} {w : World σ}, Pending n w → P w →
    P (w.addSessionListener (.handshake n) true).2
  note : ∀ {n handshake} outcome {w : World σ}, w.channel.handshakes[n]? = some handshake →
    handshake.finished = false → P w → P (w.noted n handshake outcome)
  /-- Who waits for a handshake that could not be started hears of it all the same. -/
  refuse : ∀ name error {w : World σ}, P w →
    P { w with arrived := w.arrived ++ [(name, .error error)] }
  cut : ∀ {w : World σ}, P w → P { w with link := { w.link with connected := false } }
  takeClose : ∀ {w : World σ}, w.link.connected = false → P w →
    P (w.modify fun channel =>
      { channel with closeListeners := channel.closeListeners.withoutOnce })

/-- What differs in other things than those that concern handshakes makes no difference. -/
theorem Kept.of_eq (hk : Kept P) (hv : P v)
    (hhandshakes : w.channel.handshakes = v.channel.handshakes)
    (hsession : w.channel.sessionListeners = v.channel.sessionListeners)
    (hclose : w.channel.closeListeners = v.channel.closeListeners)
    (hconnected : w.link.connected = v.link.connected)
    (htrace : w.trace = v.trace) (harrived : w.arrived = v.arrived) : P w :=
  hk.alike (alike_of_eq hhandshakes hsession hclose hconnected htrace harrived) hv

theorem Kept.and {Q : World σ → Prop} (hp : Kept P) (hq : Kept Q) :
    Kept fun w => P w ∧ Q w where
  alike halike hv := ⟨hp.alike halike hv.1, hq.alike halike hv.2⟩
  start e r _ hconnected hw := ⟨hp.start e r hconnected hw.1, hq.start e r hconnected hw.2⟩
  register hpending hw := ⟨hp.register hpending hw.1, hq.register hpending hw.2⟩
  note o _ hget hpending hw := ⟨hp.note o hget hpending hw.1, hq.note o hget hpending hw.2⟩
  refuse name error _ hw := ⟨hp.refuse name error hw.1, hq.refuse name error hw.2⟩
  cut hw := ⟨hp.cut hw.1, hq.cut hw.2⟩
  takeClose hcut hw := ⟨hp.takeClose hcut hw.1, hq.takeClose hcut hw.2⟩

/-- A property that is kept at every moment: also while a delivery, which takes listeners out of the
registry before it calls them, is going on. -/
structure KeptAlways (P : World σ → Prop) : Prop extends Kept P where
  takeSession : ∀ {w : World σ}, P w → P (w.modify fun channel =>
    { channel with sessionListeners := channel.sessionListeners.withoutOnce })

theorem KeptAlways.and {Q : World σ → Prop} (hp : KeptAlways P) (hq : KeptAlways Q) :
    KeptAlways fun w => P w ∧ Q w where
  toKept := hp.toKept.and hq.toKept
  takeSession hw := ⟨hp.takeSession hw.1, hq.takeSession hw.2⟩

/-! ## Handshakes -/

theorem callOut_keeps (hk : Kept P) (hh : h.Keeps P) (call : Call) (hw : P w) :
    P (w.callOut h call) := by
  have hdeeper : P { w with depth := w.depth + 1 } :=
    hk.of_eq hw rfl rfl rfl rfl rfl rfl
  have hcalled := hh.call call _ hdeeper
  exact hk.of_eq hcalled rfl rfl rfl rfl rfl rfl

theorem announced_keeps (hk : Kept P) (hh : h.Keeps P) (reporter : Reporter) (outcome : Outcome)
    (hw : P w) : P (w.announced h reporter outcome) := by
  cases reporter with
  | callback name => exact callOut_keeps hk hh _ hw
  | waiting name => exact hw

theorem conclude_keeps (hk : Kept P) (hh : h.Keeps P) (outcome : Outcome) (hw : P w) :
    P (w.conclude h n outcome) := by
  by_cases hpending : Pending n w
  · obtain ⟨handshake, hget, hfinished⟩ := hpending
    rw [conclude_of_pending hget hfinished]
    exact announced_keeps hk hh _ _ (hk.note outcome hget hfinished hw)
  · rw [conclude_of_not_pending hpending]
    exact hw

theorem handshakeReceives_keeps (hk : Kept P) (hh : h.Keeps P) (session : Session) (hw : P w) :
    P (w.handshakeReceives h n session) := by
  by_cases hpending : Pending n w
  · obtain ⟨handshake, hget, hfinished⟩ := hpending
    rw [handshakeReceives_of_pending hget hfinished]
    split
    · exact conclude_keeps hk hh _ hw
    · rename_i step _
      split
      · have hregistered := hk.register ⟨handshake, hget, hfinished⟩ hw
        have hperformed := hk.alike
          (alike_performStep handshake.establishment step _) hregistered
        split
        · rename_i heq
          rwa [heq] at hperformed
        · rename_i heq
          rw [heq] at hperformed
          exact conclude_keeps hk hh _ hperformed
      · exact conclude_keeps hk hh _ hw
  · rw [handshakeReceives_of_not_pending hpending]
    exact hw

theorem handshakeCloses_keeps (hk : Kept P) (hh : h.Keeps P) (state : SessionState) (hw : P w) :
    P (w.handshakeCloses h n state) := by
  unfold handshakeCloses
  split
  · exact hw
  · exact conclude_keeps hk hh _ hw

theorem establish_keeps (hk : Kept P) (establishment : Establishment) (reporter : Reporter)
    (hw : P w) : P (w.establish establishment reporter).2 := by
  rcases establish_cases establishment reporter w with ⟨_, _, halike⟩ | ⟨_, hconnected, halike⟩
  · exact hk.alike halike hw
  · exact hk.alike halike (hk.start _ _ hconnected hw)

/-! ## Deliveries -/

theorem tellSession_keeps (hk : Kept P) (hh : h.Keeps P) (session : Session)
    (subscriber : Subscriber) (hw : P w) : P (w.tellSession h session subscriber) := by
  cases subscriber with
  | named name => exact callOut_keeps hk hh _ (hk.alike (alike_record rfl rfl w) hw)
  | handshake number => exact handshakeReceives_keeps hk hh session hw

theorem tellClose_keeps (hk : Kept P) (hh : h.Keeps P) (state : SessionState)
    (subscriber : Subscriber) (hw : P w) : P (w.tellClose h state subscriber) := by
  cases subscriber with
  | named name => exact callOut_keeps hk hh _ (hk.alike (alike_record rfl rfl w) hw)
  | handshake number => exact handshakeCloses_keeps hk hh state hw

/-- What every listener keeps, a delivery keeps. -/
theorem foldl_keeps {α : Type} {tell : World σ → α → World σ} {called : List α}
    (htell : ∀ a ∈ called, ∀ w, P w → P (tell w a)) (hw : P w) : P (called.foldl tell w) := by
  induction called generalizing w with
  | nil => exact hw
  | cons a called ih =>
    exact ih (fun b hb => htell b (List.mem_cons_of_mem a hb)) (htell a List.mem_cons_self w hw)

theorem deliver_keeps (hk : Kept P) (hh : h.Keeps P) (kind : Traffic) (item : kind.Item)
    (hw : P w) : P (w.deliver h kind item) := by
  refine foldl_keeps ?_ (hk.of_eq hw rfl rfl rfl rfl rfl rfl)
  intro name _ u hu
  exact callOut_keeps hk hh _ (hk.alike (alike_record rfl rfl u) hu)

theorem deliverClose_keeps (hk : Kept P) (hh : h.Keeps P) (hcut : w.link.connected = false)
    (hw : P w) : P (w.deliverClose h) :=
  foldl_keeps (fun subscriber _ _ hu => tellClose_keeps hk hh _ subscriber hu)
    (hk.takeClose hcut hw)

theorem disconnect_keeps (hk : Kept P) (hh : h.Keeps P) (hw : P w) : P (w.disconnect h) := by
  unfold disconnect linkClosed
  split
  · split
    · exact deliverClose_keeps hk hh rfl (hk.alike (alike_stopKeepAlive _) (hk.cut hw))
    · exact hk.cut hw
  · exact hw

theorem closeLink_keeps (hk : Kept P) (hh : h.Keeps P) (hw : P w) : P (w.closeLink h).2 := by
  have hclosing : P (w.record .closing) := hk.alike (alike_record rfl rfl w) hw
  have hcounted := hk.alike (@alike_setLink _ (w.record .closing)
    { w.link with closeCalls := w.link.closeCalls + 1 } rfl) hclosing
  unfold closeLink
  dsimp only
  split
  · exact hcounted
  · exact disconnect_keeps hk hh hcounted

theorem close_keeps (hk : Kept P) (hh : h.Keeps P) (hw : P w) : P (w.close h).2 := by
  have hclosed := closeLink_keeps hk hh (hk.alike (alike_stopKeepAlive w) hw)
  unfold close
  split <;> rename_i heq <;> rwa [heq] at hclosed

/-! ## Traffic -/

theorem callStage_keeps (hk : Kept P) (hh : h.Keeps P) (kind : Traffic) (name : Name)
    (direction : Direction) (item : kind.Item) (hw : P w) :
    P (h.transform kind name direction item ((w.record (.entered name direction)).callOut h
      (.stage name direction (kind.envelope item)))).2 :=
  hh.transform _ _ _ _ _ (callOut_keeps hk hh _ (hk.alike (alike_record rfl rfl w) hw))

theorem sendUnchecked_keeps (hk : Kept P) (hh : h.Keeps P) (kind : Traffic) (item : kind.Item)
    (isActivity : Bool) (hw : P w) : P (w.sendUnchecked h kind item isActivity).2 := by
  have hstep : ∀ stage item (w : World σ), P w → P (w.sendingStep h kind stage item).2 := by
    intro stage item w hw
    cases stage with
    | named name => exact callStage_keeps hk hh kind name .sending item hw
    | receipt => exact hw
  have hthrough := Pipeline.through_induction hstep (w.channel.pipelines.get kind).modules item hw
  unfold sendUnchecked
  split <;> rename_i heq <;> rw [heq] at hthrough
  · exact hk.alike (alike_transmit _ _ _) hthrough
  · exact hthrough

theorem sendItem_keeps (hk : Kept P) (hh : h.Keeps P) (kind : Traffic) (item : kind.Item)
    (hw : P w) : P (w.sendItem h kind item).2 := by
  unfold sendItem
  split
  · exact sendUnchecked_keeps hk hh kind item true hw
  · exact hw

theorem send_keeps (hk : Kept P) (hh : h.Keeps P) (envelope : Envelope) (hw : P w) :
    P (w.send h envelope).2 := by
  cases envelope with
  | message m => exact sendItem_keeps hk hh .message m hw
  | notification n => exact sendItem_keeps hk hh .notification n hw
  | command c => exact sendItem_keeps hk hh .command c hw
  | session s => exact hk.alike (alike_sendSession s w) hw

theorem receivingStep_keeps (hk : Kept P) (hh : h.Keeps P) (kind : Traffic) (stage : Stage)
    (item : kind.Item) (hw : P w) : P (w.receivingStep h kind stage item).2 := by
  cases stage with
  | named name => exact callStage_keeps hk hh kind name .receiving item hw
  | receipt =>
    unfold receivingStep
    dsimp only
    split
    · exact sendItem_keeps hk hh .notification _ hw
    · exact hw

theorem arrive_keeps (hk : Kept P) (hh : h.Keeps P) (kind : Traffic) (item : kind.Item)
    (hw : P w) : P (w.arrive h kind item).2 := by
  cases kind with
  | message => exact deliver_keeps hk hh .message _ hw
  | notification => exact deliver_keeps hk hh .notification _ hw
  | command =>
    unfold arrive
    dsimp only
    split
    · exact sendUnchecked_keeps hk hh .command _ true hw
    · exact deliver_keeps hk hh .command _ hw

theorem receiveItem_keeps (hk : Kept P) (hh : h.Keeps P) (kind : Traffic) (item : kind.Item)
    (hw : P w) : P (w.receiveItem h kind item).2 := by
  have hthrough := Pipeline.through_induction
    (fun stage item _ => receivingStep_keeps hk hh kind stage item)
    (w.channel.pipelines.get kind).modules item hw
  unfold receiveItem
  split
  · exact hw
  · split <;> rename_i heq <;> rw [heq] at hthrough
    · exact arrive_keeps hk hh kind _ hthrough
    · exact hthrough

/-- Before a session is delivered, the channel takes it in, and the link is closed if it is the
last. -/
def admitted (h : Host σ) (session : Session) (w : World σ) : World σ :=
  let w := w.modify fun channel => { channel with standing := channel.standing.after session }
  if session.state.isTerminal then (w.stopKeepAlive.closeLink h).2 else w

theorem admitted_keeps (hk : Kept P) (hh : h.Keeps P) (session : Session) (hw : P w) :
    P (w.admitted h session) := by
  have hstanding : P (w.modify fun channel =>
      { channel with standing := channel.standing.after session }) :=
    hk.of_eq hw rfl rfl rfl rfl rfl rfl
  unfold admitted
  dsimp only
  split
  · exact closeLink_keeps hk hh (hk.alike (alike_stopKeepAlive _) hstanding)
  · exact hstanding

/-- A property that holds at every moment is kept by a delivery of a session, too. -/
theorem KeptAlways.deliverSession (hk : KeptAlways P) (hh : h.Keeps P) (session : Session)
    (hw : P w) : P (w.deliverSession h session) :=
  foldl_keeps (fun subscriber _ _ hu => tellSession_keeps hk.toKept hh session subscriber hu)
    (hk.takeSession hw)

/-! ## Requests and steps -/

section

variable (hk : Kept P) (hh : h.Keeps P)
  (hsession : ∀ session (w : World σ), P w → P (w.deliverSession h session))
include hk hh hsession

theorem receive_keeps (envelope : Envelope) (hw : P w) : P (w.receive h envelope).2 := by
  have htouched := hk.alike (alike_touch w) hw
  cases envelope with
  | message m => exact receiveItem_keeps hk hh .message m htouched
  | notification n => exact receiveItem_keeps hk hh .notification n htouched
  | command c => exact receiveItem_keeps hk hh .command c htouched
  | session s => exact hsession s _ (admitted_keeps hk hh s htouched)

theorem answer_keeps (request : Request) (hw : P w) : P (w.answer h request).2 := by
  have hother : ∀ {u : World σ}, Alike w u → P u := fun halike => hk.alike halike hw
  cases request with
  | send envelope => exact send_keeps hk hh envelope hw
  | receive envelope => exact receive_keeps hk hh hsession envelope hw
  | raise envelope =>
    show P (w.raise h envelope)
    unfold raise
    split
    · exact receive_keeps hk hh hsession envelope hw
    · exact hw
  | addListener audience name once => exact hother (alike_addListener audience name once w)
  | removeListener audience name => exact hother (alike_removeListener audience name w)
  | nextSession name => exact hother (alike_addSessionListener name true w)
  | startSession name => exact hother (alike_startSession name w)
  | negotiate compression encryption => exact hother (alike_negotiate _ _ w)
  | authenticate identity authentication place => exact hother (alike_authenticate _ _ _ w)
  | finish => exact hother (alike_finishSession w)
  | notifyReceived id recipient => exact sendItem_keeps hk hh .notification _ hw
  | establish establishment name => exact establish_keeps hk establishment _ hw
  | close => exact close_keeps hk hh hw
  | closeLink => exact closeLink_keeps hk hh hw
  | failToClose fail => exact hother (alike_setLink rfl)
  | setLink compression encryption => exact hother (alike_setLink rfl)
  | takeSent => exact hother (alike_setLink rfl)
  | addModule kind name => exact hother (alike_of_eq rfl rfl rfl rfl rfl rfl)
  | removeModule kind name => exact hother (alike_of_eq rfl rfl rfl rfl rfl rfl)
  | drop => exact hother (alike_of_eq rfl rfl rfl rfl rfl rfl)
  | unreadable | moduleCounts | sentCounts | settings | alive => exact hw

/-- A request keeps what its callbacks keep. -/
theorem perform_keeps (request : Request) (hw : P w) : P (w.perform h request).2 := by
  unfold perform
  split
  · exact hw
  · exact answer_keeps hk hh hsession request hw

omit hsession in
theorem tick_keeps (hw : P w) : P (w.tick h) := by
  unfold tick
  split
  · exact hk.alike (alike_stopKeepAlive w) hw
  · split
    · exact hk.alike (alike_stopKeepAlive _) (closeLink_keeps hk hh hw)
    · split
      · exact sendUnchecked_keeps hk hh .command _ false
          (hk.of_eq hw rfl rfl rfl rfl rfl rfl)
      · exact hw

omit hsession in
theorem ticks_keeps (interval count time : Nat) (hw : P w) : P (w.ticks h interval count time) := by
  induction count generalizing time w with
  | zero => exact hw
  | succ count ih =>
    unfold ticks
    split
    · exact ih _ (tick_keeps hk hh (hk.of_eq hw rfl rfl rfl rfl rfl rfl))
    · exact hw

omit hsession in
theorem advance_keeps (duration : Nat) (hw : P w) : P (w.advance h duration) := by
  unfold advance
  dsimp only
  split
  · exact hk.of_eq hw rfl rfl rfl rfl rfl rfl
  · exact hk.of_eq (ticks_keeps hk hh _ _ _ hw) rfl rfl rfl rfl rfl rfl

omit hh hsession in
theorem await_keeps (establishment : Establishment) (name : Name) (hw : P w) :
    P (w.await establishment name) := by
  have hwaiting : P { w with waiting := w.waiting + 1 } :=
    hk.of_eq hw rfl rfl rfl rfl rfl rfl
  have hestablished := establish_keeps hk establishment (.waiting name) hwaiting
  unfold await
  dsimp only
  split <;> rename_i heq <;> rw [heq] at hestablished
  · exact hestablished
  · exact hk.refuse name _ hestablished

/-- A step keeps what its callbacks keep. -/
theorem step_keeps (step : Step) (hw : P w) : P (w.step h step).2 := by
  cases step with
  | request request =>
    exact hk.alike (alike_settle _) (perform_keeps hk hh hsession request hw)
  | await establishment name =>
    refine hk.alike (alike_settle _) (?_ : P (Prod.snd (ite _ _ _)))
    split
    · exact await_keeps hk establishment name hw
    · exact hw
  | advance duration => exact hk.alike (alike_settle _) (advance_keeps hk hh duration hw)

end

/-! ## Runs -/

/-- The world after some steps. -/
def after (h : Host σ) (steps : List Step) (w : World σ) : World σ :=
  steps.foldl (fun w step => (w.step h step).2) w

/-- A run keeps what its callbacks keep. -/
theorem after_keeps (hk : Kept P) (hh : h.Keeps P)
    (hsession : ∀ session (w : World σ), P w → P (w.deliverSession h session))
    (steps : List Step) (hw : P w) : P (w.after h steps) :=
  foldl_keeps (fun step _ _ hu => step_keeps hk hh hsession step hu) hw

end World
end Courier
