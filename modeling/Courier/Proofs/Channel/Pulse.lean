/-
What requests do to the liveness of a channel.

Whether a channel is kept alive depends on little of a world: the clock, the last activity, the
state of the pings, and how often the link was used.  `pulse` is that little.  A relation between
worlds that holds wherever the pulse is the same (`Tells`), and across the few things that change it
(`Spans`), holds from the beginning of a request to its end: `perform_spans` says so of every
request, after what the request does at once (`begun`).

With a host whose callbacks make requests only, the clock stands still while a request is answered,
activity is noted as of now, and the pings and the link remain as they are unless the link is asked
to close (`Onward`).
-/
import Courier.Proofs.Channel.Carrying

namespace Courier

namespace World

variable {σ : Type} {h : Host σ} {R : World σ → World σ → Prop}

/-- A relation that holds across what does not change the pulse, and across callbacks. -/
structure Tells (h : Host σ) (R : World σ → World σ → Prop) : Prop where
  still : ∀ {v w}, w.pulse = v.pulse → R v w
  trans : ∀ {u v w}, R u v → R v w → R u w
  call : ∀ call w, R w (w.callOut h call)

/-- A relation that also holds across what changes the pulse, but for what a request does at
once. -/
structure Spans (h : Host σ) (R : World σ → World σ → Prop) : Prop extends Tells h R where
  transform : ∀ kind name direction item w, R w (h.transform kind name direction item w).2
  transmit : ∀ envelope w, R w (w.transmit envelope true).2
  ring : ∀ w, R w w.rung
  sever : ∀ {w}, w.link.connected = true → R w w.rung.severed

theorem Tells.refl (ht : Tells h R) (w : World σ) : R w w :=
  ht.still rfl

theorem Tells.prepend (ht : Tells h R) {u v w : World σ} (hvw : R v w) (huv : v.pulse = u.pulse) :
    R u w :=
  ht.trans (ht.still huv) hvw

theorem Tells.hears (ht : Tells h R) : Hears h R where
  still hstill := ht.still hstill.pulse
  trans := ht.trans
  call call w _ := ht.call call w
  retire _ _ _ := ht.still rfl

theorem Spans.carries (hs : Spans h R) : Carries (fun _ => False) h R where
  toHears := hs.toTells.hears
  transform := hs.transform
  transmit := hs.transmit
  register _ _ _ := hs.still rfl
  unregister _ _ _ := hs.still rfl
  taken _ := hs.still rfl

/-- The link is asked to close; then it is closed or not, and listeners are told. -/
theorem closeLink_cases (ht : Tells h R) (w : World σ) :
    (w.closeLink h).2 = w.rung ∨
      w.link.connected = true ∧ R w.rung.severed (w.closeLink h).2 := by
  by_cases hquiet : (w.link.failsToClose || !w.link.connected) = true
  · have hunheard : w.hearsClose ≠ true := by
      unfold hearsClose
      cases hfails : w.link.failsToClose <;> cases hconnected : w.link.connected <;>
        simp_all
    rw [closeLink_eq, if_neg hunheard, struck, if_pos hquiet]
    exact .inl rfl
  · have hopen : w.link.connected = true := by
      cases hconnected : w.link.connected <;> simp_all
    refine .inr ⟨hopen, ?_⟩
    rw [closeLink_eq, struck, if_neg hquiet]
    split
    · exact deliverClose_hears ht.hears (fun _ _ => ht.call _) _
    · exact ht.refl _

section Spans

variable (hs : Spans h R)
include hs

theorem deliverSession_spans (session : Session) (w : World σ) :
    R w (w.deliverSession h session) :=
  deliverSession_carries hs.carries session (fun _ => hs.call _) w

theorem closeLink_spans (w : World σ) : R w (w.closeLink h).2 := by
  rcases closeLink_cases hs.toTells w with hrung | ⟨hconnected, hsevered⟩
  · rw [hrung]
    exact hs.ring w
  · exact hs.trans (hs.sever hconnected) hsevered

end Spans

/-! ## Requests -/

theorem receive_spans (hs : Spans h R) (envelope : Envelope) (w : World σ) :
    R (w.opened envelope) (w.receive h envelope).2 := by
  cases envelope with
  | message | notification | command =>
    exact receive_carries hs.carries (fun _ heq => by cases heq) w
  | session s =>
    show R (if s.state.isTerminal then w.touch.stopKeepAlive else w.touch)
      (w.touch.receiveSession h s)
    unfold receiveSession
    dsimp only
    split
    · refine hs.trans ?_ (deliverSession_spans hs s _)
      exact hs.prepend (closeLink_spans hs _) rfl
    · exact hs.prepend (deliverSession_spans hs s _) rfl

/-- From what it does at once to its end, a request is within every relation that spans the
operations. -/
theorem perform_spans (hs : Spans h R) (request : Request) (w : World σ) :
    R (w.begun request) (w.perform h request).2 := by
  by_cases hplain : request.isPlain = true
  · exact perform_carries hs.carries hplain (fun _ _ => id) w
  by_cases hrefused : w.refuses request = true
  · rw [perform_of_refused hrefused, begun_of_refused hrefused]
    exact hs.refl w
  rw [perform_of_not_refused hrefused]
  unfold begun
  rw [if_neg hrefused]
  cases request with
  | receive envelope => exact receive_spans hs envelope w
  | raise envelope =>
    show R (if w.alive then w.opened envelope else w) (w.raise h envelope)
    unfold raise
    split
    · exact receive_spans hs envelope w
    · exact hs.refl w
  | close =>
    have hclosed := closeLink_spans hs w.stopKeepAlive
    show R w.stopKeepAlive (w.close h).2
    unfold close
    split <;> rename_i heq <;> rwa [heq] at hclosed
  | closeLink => exact closeLink_spans hs w
  | _ => exact absurd rfl hplain

/-! ## Onward -/

/-- What comes of a world while the clock stands still. -/
structure Onward (v w : World σ) : Prop where
  now : w.now = v.now
  settings : w.channel.settings = v.channel.settings
  activity : w.channel.lastActivity = v.channel.lastActivity ∨ w.channel.lastActivity = v.now
  closeCalls : v.link.closeCalls ≤ w.link.closeCalls
  line : v.link.closeCalls < w.link.closeCalls ∨
    w.channel.keepAlive = v.channel.keepAlive ∧ w.link.connected = v.link.connected

section Onward

variable {u v w : World σ}

theorem Onward.still (hpulse : w.pulse = v.pulse) : Onward v w where
  now := congrArg Pulse.now hpulse
  settings := congrArg Pulse.settings hpulse
  activity := .inl (congrArg Pulse.lastActivity hpulse)
  closeCalls := Nat.le_of_eq (congrArg Pulse.closeCalls hpulse).symm
  line := .inr ⟨congrArg Pulse.keepAlive hpulse, congrArg Pulse.connected hpulse⟩

theorem Onward.trans (huv : Onward u v) (hvw : Onward v w) : Onward u w where
  now := hvw.now.trans huv.now
  settings := hvw.settings.trans huv.settings
  activity := by
    rcases hvw.activity with hsame | hnow
    · rw [hsame]
      exact huv.activity
    · exact .inr (hnow.trans huv.now)
  closeCalls := Nat.le_trans huv.closeCalls hvw.closeCalls
  line := by
    rcases huv.line with hlt | ⟨hkeep, hconnected⟩
    · exact .inl (Nat.lt_of_lt_of_le hlt hvw.closeCalls)
    · rcases hvw.line with hlt | ⟨hkeep', hconnected'⟩
      · exact .inl (Nat.lt_of_le_of_lt huv.closeCalls hlt)
      · exact .inr ⟨hkeep'.trans hkeep, hconnected'.trans hconnected⟩

/-- Pings are stopped only where the link is asked to close. -/
theorem Onward.of_stopped (hstopped : Onward v.stopKeepAlive w)
    (hlt : v.link.closeCalls < w.link.closeCalls) : Onward v w where
  now := hstopped.now
  settings := hstopped.settings
  activity := hstopped.activity
  closeCalls := Nat.le_of_lt hlt
  line := .inl hlt

theorem onward_touch (w : World σ) : Onward w w.touch where
  now := rfl
  settings := rfl
  activity := .inr rfl
  closeCalls := Nat.le_refl _
  line := .inr ⟨rfl, rfl⟩

theorem onward_transmit (envelope : Envelope) (isActivity : Bool) (w : World σ) :
    Onward w (w.transmit envelope isActivity).2 := by
  have htouch : Onward w (if isActivity then w.touch else w) := by
    cases isActivity
    · exact .still rfl
    · exact onward_touch w
  refine htouch.trans ?_
  unfold transmit
  generalize (if isActivity = true then w.touch else w) = u
  have hlink : (u.link.send envelope).2.connected = u.link.connected ∧
      (u.link.send envelope).2.closeCalls = u.link.closeCalls := by
    unfold Link.send
    dsimp only
    split <;> exact ⟨rfl, rfl⟩
  dsimp only
  cases hsend : u.link.send envelope with
  | mk result link =>
    rw [hsend] at hlink
    cases result <;>
      exact ⟨rfl, rfl, .inl rfl, Nat.le_of_eq hlink.2.symm, .inr ⟨rfl, hlink.1⟩⟩

/-- Callbacks that go onward make operations that do. -/
theorem spans_onward (hcall : ∀ call w, Onward w (h.call call w))
    (htransform : ∀ kind name direction item w,
      ∃ user, (h.transform kind name direction item w).2 = { w with user }) :
    Spans h (@Onward σ) where
  still := Onward.still
  trans := Onward.trans
  call call w := by
    have hcalled := hcall call { w with depth := w.depth + 1 }
    exact ⟨hcalled.now, hcalled.settings, hcalled.activity, hcalled.closeCalls, hcalled.line⟩
  transform kind name direction item w := by
    obtain ⟨user, huser⟩ := htransform kind name direction item w
    rw [huser]
    exact .still rfl
  transmit envelope w := onward_transmit envelope true w
  ring w := ⟨rfl, rfl, .inl rfl, Nat.le_succ _, .inl (Nat.lt_succ_self _)⟩
  sever {w} _ := by
    unfold severed
    dsimp only
    split <;> exact ⟨rfl, rfl, .inl rfl, Nat.le_succ _, .inl (Nat.lt_succ_self _)⟩

variable (hs : Spans h (@Onward σ))
include hs

theorem closeCalls_lt_closeLink (w : World σ) :
    w.link.closeCalls < (w.closeLink h).2.link.closeCalls := by
  rcases closeLink_cases hs.toTells w with hrung | ⟨_, hsevered⟩
  · rw [hrung]
    exact Nat.lt_succ_self _
  · have hcounted : w.rung.severed.link.closeCalls = w.link.closeCalls + 1 := by
      unfold severed
      dsimp only
      split <;> rfl
    have hle := hsevered.closeCalls
    omega

theorem onward_receive (envelope : Envelope) (w : World σ) :
    Onward w (w.receive h envelope).2 := by
  have hreceived := receive_spans hs envelope w
  cases envelope with
  | message | notification | command => exact (onward_touch w).trans hreceived
  | session s =>
    by_cases hterminal : s.state.isTerminal = true
    · rw [opened, if_pos (show (Envelope.session s).isLast = true from hterminal)] at hreceived
      refine (onward_touch w).trans (hreceived.of_stopped ?_)
      show w.link.closeCalls < (w.touch.receiveSession h s).link.closeCalls
      unfold receiveSession
      dsimp only
      rw [if_pos hterminal]
      generalize hstopped : stopKeepAlive (World.modify _ _) = u
      have hcount : u.link.closeCalls = w.link.closeCalls := by rw [← hstopped]; rfl
      have hasked := closeCalls_lt_closeLink hs u
      have htold := (deliverSession_spans hs s (u.closeLink h).2).closeCalls
      omega
    · rw [opened, if_neg (show ¬(Envelope.session s).isLast = true from hterminal)] at hreceived
      exact (onward_touch w).trans hreceived

theorem onward_close (w : World σ) : Onward w (w.close h).2 := by
  have hclosed : Onward w (w.stopKeepAlive.closeLink h).2 :=
    (closeLink_spans hs w.stopKeepAlive).of_stopped (closeCalls_lt_closeLink hs w.stopKeepAlive)
  unfold close
  split <;> rename_i heq <;> rwa [heq] at hclosed

theorem onward_perform (request : Request) (w : World σ) : Onward w (w.perform h request).2 := by
  have hperformed := perform_spans hs request w
  unfold begun at hperformed
  by_cases hrefused : w.refuses request = true
  · rwa [if_pos hrefused] at hperformed
  · rw [if_neg hrefused] at hperformed
    have hanswer : w.perform h request = w.answer h request := if_neg hrefused
    cases request with
    | receive envelope =>
      rw [hanswer]
      exact onward_receive hs envelope w
    | raise envelope =>
      rw [hanswer]
      show Onward w (w.raise h envelope)
      unfold raise
      split
      · exact onward_receive hs envelope w
      · exact .still rfl
    | close =>
      rw [hanswer]
      exact onward_close hs w
    | drop => exact ⟨rfl, rfl, .inl rfl, Nat.le_refl _, .inr ⟨rfl, rfl⟩⟩
    | _ => exact hperformed

theorem onward_tick {w : World σ} (halive : w.alive = true) : Onward w (w.tick h) := by
  unfold tick
  rw [halive]
  simp only [Bool.not_true, Bool.false_eq_true, if_false]
  split
  · have hclosed := closeLink_spans hs w
    exact ⟨hclosed.now, hclosed.settings, hclosed.activity, hclosed.closeCalls,
      .inl (closeCalls_lt_closeLink hs w)⟩
  · split
    · have hsent := sendUnchecked_carries hs.carries (fun envelope w => onward_transmit envelope false w)
        .command (.ping w.drawId.1) w.drawId.2
      exact Onward.trans (v := w.drawId.2) (.still rfl) hsent
    · exact .still rfl

end Onward

theorem Acts.onward {P : World σ → Prop} {v w : World σ} (hacts : Acts P v w)
    (hP : ∀ u, P u) : Onward v w := by
  induction hacts with
  | rest w => exact .still rfl
  | think user _ ih =>
    refine Onward.trans ?_ ih
    exact .still rfl
  | ask h name request _ htransform _ ihcall ih =>
    have hs : Spans h (@Onward _) := spans_onward (fun call u => ihcall call u (hP u))
      fun kind name direction item u => htransform kind name direction item u (hP u)
    refine (onward_perform hs request _).trans (Onward.trans ?_ ih)
    exact .still rfl

end World

theorem Host.IsLawful.spans_onward {σ : Type} {h : Host σ} (hh : h.IsLawful) :
    World.Spans h (@World.Onward σ) :=
  World.spans_onward (fun call w => (hh.call call w trivial).onward fun _ => trivial)
    fun kind name direction item w => hh.transform kind name direction item w trivial

end Courier
