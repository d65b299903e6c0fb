/-
Who changes the modules of a channel.

A channel is created with its pipelines, and from then on only the program changes them: it may put
one of its modules at the end of a pipeline, and take one of them out wherever it stands.  So a
property of the pipelines that these two keep (`Lasting`) is kept by the callbacks of a program
(`keeps_equipped`) and by every run (`equipped_after`).
-/
import Courier.Proofs.Channel.Hosts

namespace Courier

variable {σ : Type} {h : Host σ} {Q : PerKind (Pipeline Stage) → Prop} {v w : World σ}

/-- A property of the pipelines that outlasts what the program does to them. -/
structure Lasting (Q : PerKind (Pipeline Stage) → Prop) : Prop where
  add : ∀ pipelines kind name, Q pipelines →
    Q (pipelines.set kind ((pipelines.get kind).add (.named name)))
  remove : ∀ pipelines kind name, Q pipelines →
    Q (pipelines.set kind ((pipelines.get kind).remove (.named name)).2)

namespace World

/-- The pipelines of the channel have a property. -/
def Equipped (Q : PerKind (Pipeline Stage) → Prop) (w : World σ) : Prop :=
  Q w.channel.pipelines

/-! ## What calls nobody -/

theorem equipped_transmit (envelope : Envelope) (isActivity : Bool) (hw : w.Equipped Q) :
    (w.transmit envelope isActivity).2.Equipped Q := by
  unfold transmit
  cases isActivity <;> (dsimp only; split <;> exact hw)

theorem equipped_negotiate (compression : Compression) (encryption : Encryption)
    (hw : w.Equipped Q) : (w.negotiate compression encryption).2.Equipped Q := by
  unfold negotiate
  split
  · exact hw
  · exact equipped_transmit _ true hw

theorem equipped_authenticate (identity : Identity) (authentication : Authentication)
    (place : Option String) (hw : w.Equipped Q) :
    (w.authenticate identity authentication place).2.Equipped Q := by
  unfold authenticate
  split
  · exact hw
  · split
    · exact hw
    · exact equipped_transmit _ true hw

theorem equipped_finishSession (hw : w.Equipped Q) : w.finishSession.2.Equipped Q := by
  unfold finishSession
  split
  · exact hw
  · exact equipped_transmit _ true hw

theorem equipped_configure (compression : Option Compression) (encryption : Option Encryption)
    (hw : w.Equipped Q) : (w.configure compression encryption).2.Equipped Q := by
  have hnone : ∀ w : World σ, w.Equipped Q → (w.configure none encryption).2.Equipped Q := by
    intro w hw
    unfold configure
    dsimp only
    repeat' split
    all_goals exact hw
  cases compression with
  | none => exact hnone w hw
  | some compression =>
    rw [configure_some]
    split
    · exact hnone w hw
    · dsimp only
      split
      · exact hw
      · exact hnone _ hw

theorem equipped_performStep (establishment : Establishment) (step : HandshakeStep)
    (hw : w.Equipped Q) : (w.performStep establishment step).2.Equipped Q := by
  cases step with
  | negotiate compression encryption => exact equipped_negotiate _ _ hw
  | configure compression encryption => exact equipped_configure _ _ hw
  | authenticate => exact equipped_authenticate _ _ _ hw
  | complete => exact hw

theorem equipped_startSession (listener : Subscriber) (hw : w.Equipped Q) :
    (w.startSession listener).2.Equipped Q := by
  have hsent := equipped_transmit (w := (w.addSessionListener listener true).2)
    (.session { state := .new }) true hw
  unfold startSession sendSession
  split
  · exact hw
  · split <;> rename_i heq <;> rw [heq] at hsent <;> exact hsent

theorem equipped_establish (establishment : Establishment) (reporter : Reporter)
    (hw : w.Equipped Q) : (w.establish establishment reporter).2.Equipped Q := by
  unfold establish
  split
  · exact hw
  · split
    · exact hw
    · dsimp only
      have hstarted := equipped_startSession (.handshake w.channel.handshakes.length)
        (w := ((w.modify fun channel => { channel with handshakes :=
          w.channel.handshakes ++ [{ establishment, reporter }] }).addCloseListener
            (.handshake w.channel.handshakes.length) true).2) hw
      split <;> rename_i heq <;> rw [heq] at hstarted <;> exact hstarted

theorem equipped_await (establishment : Establishment) (name : Name) (hw : w.Equipped Q) :
    (w.await establishment name).Equipped Q := by
  have hestablished := equipped_establish (w := { w with waiting := w.waiting + 1 }) establishment
    (.waiting name) hw
  unfold await
  dsimp only
  split <;> rename_i heq <;> rw [heq] at hestablished <;> exact hestablished

theorem equipped_settle (hw : w.Equipped Q) : w.settle.Equipped Q :=
  foldl_keeps (P := Equipped Q) (fun _ _ _ hu => hu) hw

/-! ## What calls the program -/

section Callbacks

variable (hh : h.Keeps (Equipped Q))
include hh

theorem equipped_callOut (call : Call) (hw : w.Equipped Q) : (w.callOut h call).Equipped Q :=
  hh.call call { w with depth := w.depth + 1 } hw

theorem equipped_conclude (number : Nat) (outcome : Outcome) (hw : w.Equipped Q) :
    (w.conclude h number outcome).Equipped Q := by
  unfold conclude report
  split
  · exact hw
  · split
    · exact hw
    · split
      · exact equipped_callOut hh _ hw
      · exact hw

theorem equipped_handshakeReceives (number : Nat) (session : Session) (hw : w.Equipped Q) :
    (w.handshakeReceives h number session).Equipped Q := by
  by_cases hpending : Pending number w
  · obtain ⟨handshake, hget, hfinished⟩ := hpending
    rw [handshakeReceives_of_pending hget hfinished]
    split
    · exact equipped_conclude hh number _ hw
    · rename_i step _
      split
      · have hperformed := equipped_performStep handshake.establishment step
          (w := (w.addSessionListener (.handshake number) true).2) hw
        split <;> rename_i heq <;> rw [heq] at hperformed
        · exact hperformed
        · exact equipped_conclude hh number _ hperformed
      · exact equipped_conclude hh number _ hw
  · rw [handshakeReceives_of_not_pending hpending]
    exact hw

theorem equipped_tellSession (session : Session) (subscriber : Subscriber) (hw : w.Equipped Q) :
    (w.tellSession h session subscriber).Equipped Q := by
  cases subscriber with
  | named name => exact equipped_callOut hh _ hw
  | handshake number => exact equipped_handshakeReceives hh number session hw

theorem equipped_tellClose (state : SessionState) (subscriber : Subscriber) (hw : w.Equipped Q) :
    (w.tellClose h state subscriber).Equipped Q := by
  cases subscriber with
  | named name => exact equipped_callOut hh _ hw
  | handshake number =>
    show (w.handshakeCloses h number state).Equipped Q
    unfold handshakeCloses
    split
    · exact hw
    · exact equipped_conclude hh number _ hw

theorem equipped_deliver (kind : Traffic) (item : kind.Item) (hw : w.Equipped Q) :
    (w.deliver h kind item).Equipped Q :=
  foldl_keeps (P := Equipped Q) (fun _ _ _ hu => equipped_callOut hh _ hu) hw

theorem equipped_deliverSession (session : Session) (hw : w.Equipped Q) :
    (w.deliverSession h session).Equipped Q :=
  foldl_keeps (P := Equipped Q)
    (fun subscriber _ _ hu => equipped_tellSession hh session subscriber hu) hw

theorem equipped_closeLink (hw : w.Equipped Q) : (w.closeLink h).2.Equipped Q := by
  have hdeliver : ∀ u : World σ, u.Equipped Q → (u.deliverClose h).Equipped Q := fun u hu =>
    foldl_keeps (P := Equipped Q)
      (fun subscriber _ _ hu => equipped_tellClose hh _ subscriber hu) hu
  unfold closeLink disconnect linkClosed
  dsimp only
  repeat' split
  · exact hw
  · exact hdeliver _ hw
  all_goals exact hw

theorem equipped_close (hw : w.Equipped Q) : (w.close h).2.Equipped Q := by
  have hclosed := equipped_closeLink hh (w := w.stopKeepAlive) hw
  unfold close
  split <;> rename_i heq <;> rwa [heq] at hclosed

theorem equipped_callStage (kind : Traffic) (name : Name) (direction : Direction)
    (item : kind.Item) (hw : w.Equipped Q) :
    (h.transform kind name direction item ((w.record (.entered name direction)).callOut h
      (.stage name direction (kind.envelope item)))).2.Equipped Q :=
  hh.transform _ _ _ _ _ (equipped_callOut hh _ hw)

theorem equipped_sendUnchecked (kind : Traffic) (item : kind.Item) (isActivity : Bool)
    (hw : w.Equipped Q) : (w.sendUnchecked h kind item isActivity).2.Equipped Q := by
  have hstep : ∀ stage item (w : World σ), w.Equipped Q →
      (w.sendingStep h kind stage item).2.Equipped Q := by
    intro stage item w hw
    cases stage with
    | named name => exact equipped_callStage hh kind name .sending item hw
    | receipt => exact hw
  have hthrough := Pipeline.through_induction hstep (w.channel.pipelines.get kind).modules item hw
  unfold sendUnchecked
  split <;> rename_i heq <;> rw [heq] at hthrough
  · exact equipped_transmit _ isActivity hthrough
  · exact hthrough

theorem equipped_sendItem (kind : Traffic) (item : kind.Item) (hw : w.Equipped Q) :
    (w.sendItem h kind item).2.Equipped Q := by
  unfold sendItem
  split
  · exact equipped_sendUnchecked hh kind item true hw
  · exact hw

theorem equipped_send (envelope : Envelope) (hw : w.Equipped Q) :
    (w.send h envelope).2.Equipped Q := by
  cases envelope with
  | message m => exact equipped_sendItem hh .message m hw
  | notification n => exact equipped_sendItem hh .notification n hw
  | command c => exact equipped_sendItem hh .command c hw
  | session s => exact equipped_transmit _ true hw

theorem equipped_receivingStep (kind : Traffic) (stage : Stage) (item : kind.Item)
    (hw : w.Equipped Q) : (w.receivingStep h kind stage item).2.Equipped Q := by
  cases stage with
  | named name => exact equipped_callStage hh kind name .receiving item hw
  | receipt =>
    unfold receivingStep
    dsimp only
    split
    · exact equipped_sendItem hh .notification _ hw
    · exact hw

theorem equipped_arrive (kind : Traffic) (item : kind.Item) (hw : w.Equipped Q) :
    (w.arrive h kind item).2.Equipped Q := by
  cases kind with
  | message => exact equipped_deliver hh .message _ hw
  | notification => exact equipped_deliver hh .notification _ hw
  | command =>
    unfold arrive
    dsimp only
    split
    · exact equipped_sendUnchecked hh .command _ true hw
    · exact equipped_deliver hh .command _ hw

theorem equipped_receiveItem (kind : Traffic) (item : kind.Item) (hw : w.Equipped Q) :
    (w.receiveItem h kind item).2.Equipped Q := by
  have hthrough := Pipeline.through_induction
    (fun stage item _ hu => equipped_receivingStep hh kind stage item hu)
    (w.channel.pipelines.get kind).modules item hw
  unfold receiveItem
  split
  · exact hw
  · split <;> rename_i heq <;> rw [heq] at hthrough
    · exact equipped_arrive hh kind _ hthrough
    · exact hthrough

theorem equipped_receive (envelope : Envelope) (hw : w.Equipped Q) :
    (w.receive h envelope).2.Equipped Q := by
  cases envelope with
  | message m => exact equipped_receiveItem hh .message m hw
  | notification n => exact equipped_receiveItem hh .notification n hw
  | command c => exact equipped_receiveItem hh .command c hw
  | session s =>
    have hadmitted : (w.touch.admitted h s).Equipped Q := by
      unfold admitted
      dsimp only
      split
      · exact equipped_closeLink hh hw
      · exact hw
    exact equipped_deliverSession hh s hadmitted

theorem equipped_tick (hw : w.Equipped Q) : (w.tick h).Equipped Q := by
  unfold tick
  split
  · exact hw
  · split
    · exact equipped_closeLink hh hw
    · split
      · exact equipped_sendUnchecked hh .command _ false hw
      · exact hw

theorem equipped_ticks (interval count time : Nat) (hw : w.Equipped Q) :
    (w.ticks h interval count time).Equipped Q := by
  induction count generalizing time w with
  | zero => exact hw
  | succ count ih =>
    unfold ticks
    split
    · exact ih _ (equipped_tick hh hw)
    · exact hw

/-! ## Requests and steps -/

variable (hl : Lasting Q)
include hl

theorem equipped_perform (request : Request) (hw : w.Equipped Q) :
    (w.perform h request).2.Equipped Q := by
  unfold perform
  split
  · exact hw
  cases request with
  | send envelope => exact equipped_send hh envelope hw
  | receive envelope => exact equipped_receive hh envelope hw
  | raise envelope =>
    show (w.raise h envelope).Equipped Q
    unfold raise
    split
    · exact equipped_receive hh envelope hw
    · exact hw
  | addListener audience name once => cases audience <;> exact hw
  | removeListener audience name => cases audience <;> exact hw
  | addModule kind name => exact hl.add _ kind name hw
  | removeModule kind name => exact hl.remove _ kind name hw
  | startSession name => exact equipped_startSession _ hw
  | negotiate compression encryption => exact equipped_negotiate _ _ hw
  | authenticate identity authentication place => exact equipped_authenticate _ _ _ hw
  | finish => exact equipped_finishSession hw
  | notifyReceived id recipient => exact equipped_sendItem hh .notification _ hw
  | establish establishment name => exact equipped_establish _ _ hw
  | close => exact equipped_close hh hw
  | closeLink => exact equipped_closeLink hh hw
  | unreadable | nextSession | moduleCounts | failToClose | setLink | sentCounts | takeSent
  | settings | drop | alive => exact hw

theorem equipped_step (step : Step) (hw : w.Equipped Q) : (w.step h step).2.Equipped Q := by
  cases step with
  | request request => exact equipped_settle (equipped_perform hh hl request hw)
  | await establishment name =>
    refine equipped_settle (?_ : Equipped Q (Prod.snd (ite _ _ _)))
    split
    · exact equipped_await establishment name hw
    · exact hw
  | advance duration =>
    refine equipped_settle (?_ : (w.advance h duration).Equipped Q)
    unfold advance
    dsimp only
    split
    · exact hw
    · exact equipped_ticks hh _ _ _ hw

end Callbacks

/-! ## Lawful programs -/

variable {R : World σ → Prop} (hl : Lasting Q) (hR : ∀ w : World σ, w.Equipped Q → R w)
include hl hR

theorem Acts.equipped (hacts : Acts R v w) : v.Equipped Q → w.Equipped Q := by
  induction hacts with
  | rest w => exact id
  | think user _ ih => exact ih
  | ask h name request hcall htransform _ ihcall ih =>
    intro hv
    -- The callbacks of a request are acts of their own, with the same property by induction.
    have hh : h.Keeps (Equipped Q) := by
      refine ⟨fun call u hu => ihcall call u (hR u hu) hu, ?_⟩
      intro kind name direction item u hu
      obtain ⟨user, huser⟩ := htransform kind name direction item u (hR u hu)
      rw [huser]
      exact hu
    exact ih (equipped_perform hh hl request hv)

theorem keeps_equipped (hh : h.Within R) : h.Keeps (Equipped Q) where
  call call w hw := (hh.call call w (hR w hw)).equipped hl hR hw
  transform kind name direction item w hw := by
    obtain ⟨user, huser⟩ := hh.transform kind name direction item w (hR w hw)
    rw [huser]
    exact hw

theorem equipped_after (hh : h.Within R) (steps : List Step) (hw : w.Equipped Q) :
    (w.after h steps).Equipped Q :=
  foldl_keeps (P := Equipped Q)
    (fun step _ _ hu => equipped_step (keeps_equipped hl hR hh) hl step hu) hw

end World
end Courier
