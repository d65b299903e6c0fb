/-
What goes on in the world of a conversation.

The listeners of the client note what they are told, and ask for nothing.  So whatever comes over the
link or with the time, the program holds the channel, its modules and its listeners for good stay, no
handshake is started, and a session is noted once by each of those listeners.  When no handshake is
pending, nothing is sent but what a channel sends by itself: notices of receipt, answers to pings, and
pings (`murmurs_raise`, `murmurs_advance`).
-/
import Courier.Client.Conversation
import Courier.Proofs.Channel.Carrying

namespace Courier

open World

/-- Whether an envelope is one that a channel does not send by itself. -/
def Envelope.isOwn : Envelope → Bool
  | message _ | session _ => true
  | notification _ | command _ => false

/-- The session that a listener is told of. -/
def Call.session? : Call → Option Session
  | listener _ (.envelope (.session session)) => some session
  | _ => none

/-- Whether a listener is one of the program. -/
def Registration.isNamed (entry : Registration Subscriber) : Bool :=
  match entry.listener with
  | .named _ => true
  | .handshake _ => false

namespace Conversation

variable {replies replies' : List Envelope} {heard heard' : List Session} {u v w : World Console}

/-! ## What passes -/

/-- The listeners of the program that are registered for sessions. -/
def named (w : World Console) : List (Registration Subscriber) :=
  w.channel.sessionListeners.entries.filter Registration.isNamed

/-- No handshake waits for anything. -/
def Settled (w : World Console) : Prop :=
  ∀ n, ¬ Pending n w

/-- What a conversation depends on. -/
structure Gist where
  held : Bool
  pipelines : PerKind (Pipeline Stage)
  sessionListeners : Registry Subscriber
  handshakes : List Handshake
  arrived : List (Name × Outcome)
  failingSends : List Nat
  sent : List Envelope
  sessions : List Session

def gist (w : World Console) : Gist where
  held := w.held
  pipelines := w.channel.pipelines
  sessionListeners := w.channel.sessionListeners
  handshakes := w.channel.handshakes
  arrived := w.arrived
  failingSends := w.link.failingSends
  sent := w.link.sent
  sessions := w.user.sessions

/-- Some sessions have been noted, and some envelopes have been sent; a pending handshake may have sent
others.  No handshake was started, and an outcome has arrived only if one is over now. -/
structure Passes (replies : List Envelope) (heard : List Session) (v w : World Console) : Prop where
  held : w.held = v.held
  pipelines : w.channel.pipelines = v.channel.pipelines
  failingSends : w.link.failingSends = v.link.failingSends
  named : (∀ entry ∈ named v, entry.once = false) → named w = named v
  handshakes : w.channel.handshakes.length = v.channel.handshakes.length
  pending : ∀ n, Pending n w → Pending n v
  arrived : w.arrived ≠ [] → v.arrived ≠ [] ∨ ∃ n, Pending n v ∧ ¬ Pending n w
  sent : Settled v → w.link.sent = v.link.sent ++ replies
  sessions : w.user.sessions = v.user.sessions ++ heard

theorem pending_of_gist (h : gist w = gist v) (n : Nat) : Pending n w ↔ Pending n v := by
  rw [Pending, Pending, show w.channel.handshakes = v.channel.handshakes from
    congrArg Gist.handshakes h]

theorem Passes.of_gist (h : gist w = gist v) : Passes [] [] v w where
  held := congrArg Gist.held h
  pipelines := congrArg Gist.pipelines h
  failingSends := congrArg Gist.failingSends h
  named _ := congrArg (fun registry : Registry Subscriber => registry.entries.filter _)
    (congrArg Gist.sessionListeners h)
  handshakes := congrArg List.length (congrArg Gist.handshakes h)
  pending n := (pending_of_gist h n).mp
  arrived hsome := .inl (by rwa [← show w.arrived = v.arrived from congrArg Gist.arrived h])
  sent _ := (congrArg Gist.sent h).trans (List.append_nil _).symm
  sessions := (congrArg Gist.sessions h).trans (List.append_nil _).symm

theorem Passes.refl (w : World Console) : Passes [] [] w w :=
  .of_gist rfl

theorem Passes.trans (huv : Passes replies heard u v) (hvw : Passes replies' heard' v w) :
    Passes (replies ++ replies') (heard ++ heard') u w where
  held := hvw.held.trans huv.held
  pipelines := hvw.pipelines.trans huv.pipelines
  failingSends := hvw.failingSends.trans huv.failingSends
  named hlasting := by
    have hsame := huv.named hlasting
    rw [hvw.named (hsame ▸ hlasting), hsame]
  handshakes := hvw.handshakes.trans huv.handshakes
  pending n := huv.pending n ∘ hvw.pending n
  arrived hsome := by
    rcases hvw.arrived hsome with hbefore | ⟨n, hpending, hover⟩
    · rcases huv.arrived hbefore with hearlier | ⟨n, hpending, hover⟩
      · exact .inl hearlier
      · exact .inr ⟨n, hpending, fun h => hover (hvw.pending n h)⟩
    · exact .inr ⟨n, huv.pending n hpending, hover⟩
  sent hsettled := by
    rw [hvw.sent fun n h => hsettled n (huv.pending n h), huv.sent hsettled, List.append_assoc]
  sessions := by rw [hvw.sessions, huv.sessions, List.append_assoc]

theorem Passes.andThen (huv : Passes replies heard u v) (hvw : Passes [] [] v w) :
    Passes replies heard u w := by
  have hboth := huv.trans hvw
  rwa [List.append_nil, List.append_nil] at hboth

theorem Passes.after (huv : Passes [] [] u v) (hvw : Passes replies heard v w) :
    Passes replies heard u w :=
  huv.trans hvw

/-- What a channel has sent by itself may be anything, but for messages and sessions. -/
def Murmurs (v w : World Console) : Prop :=
  ∃ replies, (∀ envelope ∈ replies, envelope.isOwn = false) ∧ Passes replies [] v w

theorem Murmurs.of_passes (h : Passes [] [] v w) : Murmurs v w :=
  ⟨[], fun _ => nofun, h⟩

theorem Murmurs.trans (huv : Murmurs u v) (hvw : Murmurs v w) : Murmurs u w := by
  obtain ⟨first, hfirst, hpasses⟩ := huv
  obtain ⟨second, hsecond, hpasses'⟩ := hvw
  exact ⟨first ++ second, List.forall_mem_append.mpr ⟨hfirst, hsecond⟩, hpasses.trans hpasses'⟩

/-! ## Callbacks -/

theorem script_done (call : Call) (console : Console) : (program.script call console).1 = .done := by
  unfold program
  dsimp only
  split <;> rfl

theorem callOut_eq (call : Call) (w : World Console) :
    w.callOut host call = { w with user := (program.script call w.user).2 } := by
  unfold World.callOut host
  rw [Program.call_host_succ, script_done]
  rfl

/-- A listener notes the session that it is told of, and nothing else goes to the queue. -/
theorem sessions_script (call : Call) (console : Console) :
    (program.script call console).2.sessions = console.sessions ++ call.session?.toList := by
  unfold program Call.session?
  dsimp only
  split <;> split <;> simp_all [Console.print]

theorem passes_callOut (call : Call) (w : World Console) :
    Passes [] call.session?.toList w (w.callOut host call) := by
  rw [callOut_eq]
  exact { Passes.refl w with sessions := sessions_script call w.user }

/-- A listener is told of something other than a session, after that has been noted. -/
theorem passes_told (event : World.Event) (call : Call) (hother : call.session? = none)
    (w : World Console) : Passes [] [] w ((w.record event).callOut host call) := by
  have hrecorded : Passes [] [] w (w.record event) := .of_gist rfl
  have hcalled := passes_callOut call (w.record event)
  rw [hother] at hcalled
  exact hrecorded.after hcalled

theorem passes_foldl {α : Type} {tell : World Console → α → World Console} {hears : α → List Session}
    (htell : ∀ a w, Passes [] (hears a) w (tell w a)) (called : List α) (w : World Console) :
    Passes [] (called.flatMap hears) w (called.foldl tell w) := by
  induction called generalizing w with
  | nil => exact .refl w
  | cons a called ih => exact (htell a w).trans (ih _)

theorem passes_foldl_quiet {α : Type} {tell : World Console → α → World Console}
    (htell : ∀ a w, Passes [] [] w (tell w a)) (called : List α) (w : World Console) :
    Passes [] [] w (called.foldl tell w) := by
  have hall := passes_foldl htell called w
  rwa [List.flatMap_eq_nil_iff.mpr fun _ _ => rfl] at hall

/-! ## Sending -/

/-- An envelope is sent unless the link fails to. -/
theorem passes_transmit (envelope : Envelope) (isActivity : Bool) (w : World Console) :
    Passes (if w.link.sendFault?.isNone then [envelope] else []) [] w
      (w.transmit envelope isActivity).2 := by
  have htouched : Passes [] [] w (if isActivity then w.touch else w) := by
    cases isActivity <;> exact .of_gist rfl
  have hlink : (if isActivity then w.touch else w).link = w.link := by cases isActivity <;> rfl
  unfold transmit Link.send
  rw [← hlink]
  generalize (if isActivity = true then w.touch else w) = touched at htouched ⊢
  dsimp only
  cases touched.link.sendFault? with
  | some fault => exact htouched.andThen (.of_gist rfl)
  | none => exact htouched.after { Passes.refl touched with sent := fun _ => rfl }

theorem murmurs_transmit {envelope : Envelope} (hother : envelope.isOwn = false)
    (isActivity : Bool) (w : World Console) : Murmurs w (w.transmit envelope isActivity).2 := by
  refine ⟨_, ?_, passes_transmit envelope isActivity w⟩
  split
  · exact fun other hmem => List.mem_singleton.mp hmem ▸ hother
  · exact fun _ => nofun

/-- While a handshake is pending, anything may be sent. -/
theorem passes_transmit_of_pending {n : Nat} (hpending : Pending n w) (envelope : Envelope)
    (isActivity : Bool) : Passes [] [] w (w.transmit envelope isActivity).2 :=
  { passes_transmit envelope isActivity w with
    sent := fun hsettled => absurd hpending (hsettled n) }

theorem passes_sendingStep (kind : Traffic) (stage : Stage) (item : kind.Item) (w : World Console) :
    Passes [] [] w (w.sendingStep host kind stage item).2 := by
  cases stage with
  | receipt => exact .refl w
  | named name => exact passes_told _ (.stage name .sending (kind.envelope item)) rfl w

theorem murmurs_sendUnchecked {kind : Traffic} (hother : ∀ item, (kind.envelope item).isOwn = false)
    (item : kind.Item) (isActivity : Bool) (w : World Console) :
    Murmurs w (w.sendUnchecked host kind item isActivity).2 := by
  have hthrough := Pipeline.through_induction (P := Passes [] [] w)
    (fun stage item u hu => hu.andThen (passes_sendingStep kind stage item u))
    (w.channel.pipelines.get kind).modules item (.refl w)
  unfold sendUnchecked
  split <;> rename_i heq <;> rw [heq] at hthrough
  · exact (Murmurs.of_passes hthrough).trans (murmurs_transmit (hother _) isActivity _)
  · exact .of_passes hthrough

theorem murmurs_notifyReceived (id : String) (recipient : Node) (w : World Console) :
    Murmurs w (w.notifyReceived host id recipient).2 := by
  unfold notifyReceived sendItem
  split
  · exact murmurs_sendUnchecked (fun _ => rfl) _ true w
  · exact .of_passes (.refl w)

/-! ## Traffic -/

theorem murmurs_receivingStep (kind : Traffic) (stage : Stage) (item : kind.Item)
    (w : World Console) : Murmurs w (w.receivingStep host kind stage item).2 := by
  cases stage with
  | named name =>
    exact .of_passes (passes_told _ (.stage name .receiving (kind.envelope item)) rfl w)
  | receipt =>
    unfold receivingStep
    dsimp only
    split
    · exact murmurs_notifyReceived _ _ w
    · exact .of_passes (.refl w)

theorem passes_deliver (kind : Traffic) (item : kind.Item) (w : World Console) :
    Passes [] [] w (w.deliver host kind item) := by
  have hother : ∀ name, (Call.listener name (.envelope (kind.envelope item))).session? = none := by
    cases kind <;> exact fun _ => rfl
  have htaken : Passes [] [] w (w.modify fun channel => { channel with
      listeners := channel.listeners.set kind (channel.listeners.get kind).withoutOnce }) :=
    .of_gist rfl
  exact htaken.after (passes_foldl_quiet (fun name u => passes_told _ _ (hother name) u) _ _)

theorem murmurs_receiveItem (kind : Traffic) (item : kind.Item) (w : World Console) :
    Murmurs w (w.receiveItem host kind item).2 := by
  have hthrough := Pipeline.through_induction (P := Murmurs w)
    (fun stage item u hu => hu.trans (murmurs_receivingStep kind stage item u))
    (w.channel.pipelines.get kind).modules item (.of_passes (.refl w))
  have harrive : ∀ (item : kind.Item) u, Murmurs u (u.arrive host kind item).2 := by
    intro item u
    cases kind with
    | message => exact .of_passes (passes_deliver .message _ u)
    | notification => exact .of_passes (passes_deliver .notification _ u)
    | command =>
      unfold arrive
      dsimp only
      split
      · exact murmurs_sendUnchecked (fun _ => rfl) _ true u
      · exact .of_passes (passes_deliver .command _ u)
  unfold receiveItem
  split
  · exact .of_passes (.refl w)
  · split <;> rename_i heq <;> rw [heq] at hthrough
    · exact hthrough.trans (harrive _ _)
    · exact hthrough

/-! ## Handshakes -/

theorem filter_isNamed_remove (registry : Registry Subscriber) (n : Nat) :
    (registry.remove (.handshake n)).2.entries.filter Registration.isNamed =
      registry.entries.filter Registration.isNamed := by
  unfold Registry.remove
  rw [List.filter_filter]
  refine List.filter_congr fun entry _ => ?_
  unfold Registration.isNamed
  cases entry.listener <;> simp

theorem filter_isNamed_add (registry : Registry Subscriber) (n : Nat) :
    (registry.add (.handshake n) true).2.entries.filter Registration.isNamed =
      registry.entries.filter Registration.isNamed := by
  unfold Registry.add
  split
  · rfl
  · rw [List.filter_append]
    exact List.append_nil _

theorem passes_noted {n : Nat} {handshake : Handshake} (outcome : Outcome)
    (hget : w.channel.handshakes[n]? = some handshake) (hpending : handshake.finished = false) :
    Passes [] [] w (w.noted n handshake outcome) where
  held := by unfold noted; cases handshake.reporter <;> rfl
  pipelines := by rw [channel_noted]; rfl
  failingSends := by unfold noted; cases handshake.reporter <;> rfl
  named _ := by
    rw [named, channel_noted]
    exact filter_isNamed_remove _ n
  handshakes := by rw [handshakes_noted, List.length_set]
  pending m h := ((pending_noted hget).mp h).1
  arrived _ := .inr ⟨n, ⟨handshake, hget, hpending⟩, fun h => ((pending_noted hget).mp h).2 rfl⟩
  sent hsettled := absurd ⟨handshake, hget, hpending⟩ (hsettled n)
  sessions := by
    rw [List.append_nil]
    unfold noted
    cases handshake.reporter <;> rfl

theorem passes_conclude (n : Nat) (outcome : Outcome) (w : World Console) :
    Passes [] [] w (w.conclude host n outcome) := by
  by_cases hpending : Pending n w
  · obtain ⟨handshake, hget, hfinished⟩ := hpending
    rw [conclude_of_pending hget hfinished]
    refine (passes_noted outcome hget hfinished).andThen ?_
    unfold announced
    cases handshake.reporter with
    | callback name => exact passes_callOut (.outcome name outcome) _
    | waiting name => exact .refl _
  · rw [conclude_of_not_pending hpending]
    exact .refl w

theorem passes_register (n : Nat) (w : World Console) :
    Passes [] [] w (w.addSessionListener (.handshake n) true).2 :=
  { Passes.refl w with named := fun _ => filter_isNamed_add _ n }

theorem passes_configure (compression : Option Compression) (encryption : Option Encryption)
    (w : World Console) : Passes [] [] w (w.configure compression encryption).2 := by
  have hcompression : ∀ compression (u : World Console),
      Passes [] [] u { u with link := (u.link.setCompression compression).2 } := by
    intro compression u
    unfold Link.setCompression
    split <;> exact .of_gist rfl
  have hencryption : ∀ encryption (u : World Console),
      Passes [] [] u { u with link := (u.link.setEncryption encryption).2 } := by
    intro encryption u
    unfold Link.setEncryption
    split <;> exact .of_gist rfl
  have hrecorded : ∀ event (u : World Console), Passes [] [] u (u.record event) :=
    fun _ _ => .of_gist rfl
  have hnone : ∀ u : World Console, Passes [] [] u (u.configure none encryption).2 := by
    intro u
    unfold configure
    dsimp only
    split
    · exact .refl u
    · split
      · exact .refl u
      · split <;> exact (hencryption _ u).andThen (hrecorded _ _)
  cases compression with
  | none => exact hnone w
  | some value =>
    rw [configure_some]
    split
    · exact hnone w
    · have hset := (hcompression value w).andThen (hrecorded (.compressionSet value) _)
      dsimp only
      split
      · exact hset
      · exact hset.andThen (hnone _)

theorem passes_performStep {n : Nat} (hpending : Pending n w) (establishment : Establishment)
    (step : HandshakeStep) : Passes [] [] w (w.performStep establishment step).2 := by
  have hsent : ∀ session, Passes [] [] w (w.sendSession session).2 :=
    fun session => passes_transmit_of_pending hpending _ true
  cases step with
  | negotiate compression encryption =>
    show Passes [] [] w (w.negotiate compression encryption).2
    unfold negotiate
    split
    · exact .refl w
    · exact hsent _
  | configure compression encryption => exact passes_configure compression encryption w
  | authenticate =>
    show Passes [] [] w (w.authenticate _ _ _).2
    unfold authenticate
    split
    · exact .refl w
    · split
      · exact .refl w
      · exact hsent _
  | complete => exact .refl w

theorem passes_handshakeReceives (n : Nat) (session : Session) (w : World Console) :
    Passes [] [] w (w.handshakeReceives host n session) := by
  by_cases hpending : Pending n w
  · obtain ⟨handshake, hget, hfinished⟩ := hpending
    rw [handshakeReceives_of_pending hget hfinished]
    split
    · exact passes_conclude n _ w
    · rename_i step _
      split
      · have hstill : Pending n (w.addSessionListener (.handshake n) true).2 :=
          ⟨handshake, hget, hfinished⟩
        have hperformed := (passes_register n w).andThen
          (passes_performStep hstill handshake.establishment step)
        split <;> rename_i heq <;> rw [heq] at hperformed
        · exact hperformed
        · exact hperformed.andThen (passes_conclude n _ _)
      · exact passes_conclude n _ w
  · rw [handshakeReceives_of_not_pending hpending]
    exact .refl w

/-! ## Sessions -/

/-- How often a session is noted: once by each listener of the program. -/
def notes (session : Session) (w : World Console) : List Session :=
  (named w).map fun _ => session

theorem passes_sessionTaken (w : World Console) : Passes [] [] w w.sessionTaken :=
  { Passes.refl w with
    named := fun hlasting => by
      show (w.channel.sessionListeners.entries.filter _).filter _ = _
      rw [List.filter_filter]
      refine List.filter_congr fun entry hmem => ?_
      cases hnamed : entry.isNamed with
      | false => rfl
      | true => simp [hlasting entry (List.mem_filter.mpr ⟨hmem, hnamed⟩)] }

/-- What is noted when a subscriber is told of a session. -/
def notedBy (session : Session) : Subscriber → List Session
  | .named _ => [session]
  | .handshake _ => []

theorem flatMap_notedBy (session : Session) (entries : List (Registration Subscriber)) :
    (entries.map (·.listener)).flatMap (notedBy session) =
      (entries.filter Registration.isNamed).map fun _ => session := by
  induction entries with
  | nil => rfl
  | cons entry entries ih =>
    rw [List.map_cons, List.flatMap_cons, ih, List.filter_cons]
    unfold Registration.isNamed
    cases entry.listener <;> rfl

theorem passes_deliverSession (session : Session) (w : World Console) :
    Passes [] (notes session w) w (w.deliverSession host session) := by
  have htold : ∀ subscriber (u : World Console),
      Passes [] (notedBy session subscriber) u (u.tellSession host session subscriber) := by
    intro subscriber u
    cases subscriber with
    | named name =>
      have hrecorded : Passes [] [] u (u.record (.notified name (.envelope (.session session)))) :=
        .of_gist rfl
      exact hrecorded.after (passes_callOut (.listener name (.envelope (.session session))) _)
    | handshake n => exact passes_handshakeReceives n session u
  have hall := passes_foldl htold w.channel.sessionListeners.listeners w.sessionTaken
  rw [Registry.listeners, flatMap_notedBy] at hall
  exact (passes_sessionTaken w).after hall

/-! ## The close of the link -/

theorem passes_deliverClose (w : World Console) : Passes [] [] w (w.deliverClose host) := by
  have htold : ∀ state subscriber (u : World Console),
      Passes [] [] u (u.tellClose host state subscriber) := by
    intro state subscriber u
    cases subscriber with
    | named name => exact passes_told _ (.listener name (.closed state)) rfl u
    | handshake n =>
      show Passes [] [] u (u.handshakeCloses host n state)
      unfold handshakeCloses
      split
      · exact .refl u
      · exact passes_conclude n _ u
  have htaken : Passes [] [] w (w.modify fun channel =>
      { channel with closeListeners := channel.closeListeners.withoutOnce }) := .of_gist rfl
  exact htaken.after (passes_foldl_quiet (fun subscriber u => htold _ subscriber u) _ _)

theorem passes_linkClosed (w : World Console) : Passes [] [] w (w.linkClosed host) := by
  have hstopped : Passes [] [] w w.stopKeepAlive := .of_gist rfl
  unfold linkClosed
  split
  · exact hstopped.after (passes_deliverClose _)
  · exact .refl w

theorem passes_disconnect (w : World Console) : Passes [] [] w (w.disconnect host) := by
  have hcut : Passes [] [] w { w with link := { w.link with connected := false } } := .of_gist rfl
  unfold disconnect
  split
  · exact hcut.after (passes_linkClosed _)
  · exact .refl w

theorem passes_closeLink (w : World Console) : Passes [] [] w (w.closeLink host).2 := by
  have hrung : Passes [] [] w w.rung := .of_gist rfl
  unfold closeLink
  dsimp only
  split
  · exact hrung
  · exact hrung.after (passes_disconnect _)

theorem passes_close (w : World Console) : Passes [] [] w (w.close host).2 := by
  have hstopped : Passes [] [] w w.stopKeepAlive := .of_gist rfl
  have hclosed := hstopped.after (passes_closeLink w.stopKeepAlive)
  unfold close
  split <;> rename_i heq <;> rwa [heq] at hclosed

/-! ## What comes over the link -/

section

variable (hlasting : ∀ entry ∈ named w, entry.once = false)
include hlasting

theorem passes_receiveSession (session : Session) :
    Passes [] (notes session w) w (w.receiveSession host session) := by
  have hstanding : Passes [] [] w (w.modify fun channel =>
      { channel with standing := channel.standing.after session }) := .of_gist rfl
  have hstopped : ∀ u : World Console, Passes [] [] u u.stopKeepAlive := fun _ => .of_gist rfl
  have hdelivered : ∀ u, Passes [] [] w u →
      Passes [] (notes session w) w (u.deliverSession host session) := by
    intro u hu
    have hnamed : notes session u = notes session w :=
      congrArg (List.map fun _ => session) (hu.named hlasting)
    exact hu.after (hnamed ▸ passes_deliverSession session u)
  unfold receiveSession
  dsimp only
  split
  · exact hdelivered _ ((hstanding.andThen (hstopped _)).andThen (passes_closeLink _))
  · exact hdelivered _ hstanding

/-- A session that comes in is noted, and nothing is sent. -/
theorem passes_raise_session (hheld : w.held = true) (session : Session) :
    Passes [] (notes session w) w (w.raise host (.session session)) := by
  have halive : w.alive = true := by rw [alive, hheld]; rfl
  have htouched : Passes [] [] w w.touch := .of_gist rfl
  unfold raise
  rw [if_pos halive]
  exact htouched.after (passes_receiveSession (w := w.touch) hlasting session)

end

/-- Other envelopes are answered by the channel at most. -/
theorem murmurs_raise {envelope : Envelope} (hother : ∀ session, envelope ≠ .session session)
    (w : World Console) : Murmurs w (w.raise host envelope) := by
  have htouched : Murmurs w w.touch := .of_passes (.of_gist rfl)
  unfold raise
  split
  · refine htouched.trans ?_
    cases envelope with
    | message message => exact murmurs_receiveItem .message message _
    | notification notification => exact murmurs_receiveItem .notification notification _
    | command command => exact murmurs_receiveItem .command command _
    | session session => exact absurd rfl (hother session)
  · exact .of_passes (.refl w)

/-! ## Time -/

theorem murmurs_tick (w : World Console) : Murmurs w (w.tick host) := by
  have hstopped : ∀ u : World Console, Passes [] [] u u.stopKeepAlive := fun u => .of_gist rfl
  have hdrawn : Murmurs w w.drawId.2 := .of_passes (.of_gist rfl)
  unfold tick
  split
  · exact .of_passes (hstopped w)
  · split
    · exact .of_passes ((passes_closeLink w).andThen (hstopped _))
    · split
      · exact hdrawn.trans (murmurs_sendUnchecked (fun _ => rfl) _ false _)
      · exact .of_passes (.refl w)

theorem murmurs_ticks (interval count time : Nat) (w : World Console) :
    Murmurs w (w.ticks host interval count time) := by
  induction count generalizing time w with
  | zero => exact .of_passes (.refl w)
  | succ count ih =>
    have hclock : Murmurs w { w with now := time } := .of_passes (.of_gist rfl)
    unfold ticks
    split
    · exact (hclock.trans (murmurs_tick _)).trans (ih _ _)
    · exact .of_passes (.refl w)

theorem murmurs_advance (duration : Nat) (w : World Console) :
    Murmurs w (w.advance host duration) := by
  have hclock : ∀ (u : World Console) now, Murmurs u { u with now } :=
    fun u _ => .of_passes (.of_gist rfl)
  unfold advance
  dsimp only
  split
  · exact hclock w _
  · exact (murmurs_ticks _ _ _ w).trans (hclock _ _)

end Conversation
end Courier
