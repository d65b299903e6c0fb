/-
What is sent while the user talks.

A line that says something is sent, as one message, if it is read while the session is established and
the link is open; at the end of the lines the client asks to finish the session, under the same
conditions.  Other inputs send nothing but what a channel sends by itself (`responds_of_open`).
-/
import Courier.Proofs.Client.Lines
import Courier.Proofs.Client.Passing

namespace Courier

open World

namespace Conversation

variable {replies : List Envelope} {heard : List Session} {v w : World Console}
  {c : Conversation}

/-! ## Steady worlds -/

/-- The client listens for sessions, and nothing stands in the way of its messages. -/
structure Attends (w : World Console) : Prop where
  held : w.held = true
  failingSends : w.link.failingSends = []
  receipts : ∀ stage ∈ w.channel.pipelines.message.modules, stage = .receipt
  listens : named w = [⟨.named Conversation.sessions, false⟩]

theorem Attends.lasting (h : Attends w) : ∀ entry ∈ named w, entry.once = false := by
  rw [h.listens]
  exact fun entry hmem => List.mem_singleton.mp hmem ▸ rfl

theorem Attends.notes (h : Attends w) (session : Session) : notes session w = [session] := by
  rw [Conversation.notes, h.listens]
  rfl

theorem Passes.attends (h : Passes replies heard v w) (hv : Attends v) : Attends w where
  held := h.held.trans hv.held
  failingSends := h.failingSends.trans hv.failingSends
  receipts := h.pipelines ▸ hv.receipts
  listens := (h.named hv.lasting).trans hv.listens

/-- The handshake of the client is over, too. -/
structure Steady (w : World Console) : Prop where
  attends : Attends w
  settled : Settled w

theorem Passes.steady (h : Passes replies heard v w) (hv : Steady v) : Steady w :=
  ⟨h.attends hv.attends, fun n hpending => hv.settled n (h.pending n hpending)⟩

/-- What the program notes for itself does not matter. -/
theorem Attends.of_channel (hv : Attends v) (hheld : w.held = v.held)
    (hchannel : w.channel = v.channel) (hlink : w.link = v.link) : Attends w where
  held := hheld.trans hv.held
  failingSends := hlink ▸ hv.failingSends
  receipts := hchannel ▸ hv.receipts
  listens := by
    rw [named, hchannel]
    exact hv.listens

theorem Settled.of_channel (hv : Settled v) (hchannel : w.channel = v.channel) : Settled w := by
  intro n
  rw [Pending, hchannel]
  exact hv n

theorem Steady.of_channel (hv : Steady v) (hheld : w.held = v.held) (hchannel : w.channel = v.channel)
    (hlink : w.link = v.link) : Steady w :=
  ⟨hv.attends.of_channel hheld hchannel hlink, hv.settled.of_channel hchannel⟩

/-! ## Sending -/

/-- The session is established, and the link is open. -/
def canSend (w : World Console) : Bool :=
  w.channel.standing.state = .established && w.link.connected

theorem passes_transmit_of_attends (h : Attends w) (envelope : Envelope) :
    Passes (if w.link.connected then [envelope] else []) [] w (w.transmit envelope true).2 := by
  have hfault : w.link.sendFault?.isNone = w.link.connected := by
    unfold Link.sendFault?
    rw [h.failingSends]
    cases w.link.connected <;> rfl
  rw [← hfault]
  exact passes_transmit envelope true w

theorem through_receipts (kind : Traffic) {stages : List Stage}
    (hreceipts : ∀ stage ∈ stages, stage = .receipt) (item : kind.Item) (w : World Console) :
    Pipeline.through (sendingStep host kind) stages item w = (some item, w) := by
  induction stages with
  | nil => rfl
  | cons stage stages ih =>
    obtain ⟨rfl, hrest⟩ := List.forall_mem_cons.mp hreceipts
    exact ih hrest

theorem ensure_of_ne {standing : Standing} {state : SessionState} (h : standing.state ≠ state)
    (operation : String) :
    standing.ensure state operation = .error (.invalidState operation standing.state) :=
  if_neg h

theorem passes_sendItem (h : Attends w) (message : Message) :
    Passes (if canSend w then [.message message] else []) [] w
      (w.sendItem host .message message).2 := by
  have hthrough := through_receipts .message h.receipts message w
  unfold sendItem canSend
  by_cases hstate : w.channel.standing.state = .established
  · have hunchecked : w.sendUnchecked host .message message true =
        w.transmit (.message message) true := by
      unfold sendUnchecked
      exact hthrough ▸ rfl
    rw [ensure_eq_ok.mpr hstate]
    dsimp only
    rw [hunchecked]
    simpa [hstate] using passes_transmit_of_attends h (.message message)
  · rw [ensure_of_ne hstate]
    simpa [hstate] using Passes.refl w

/-- The session that asks to finish. -/
def farewell (w : World Console) : Session where
  header := { id := w.channel.standing.id }
  state := .finishing

theorem passes_finishSession (h : Attends w) :
    Passes (if canSend w then [.session (farewell w)] else []) [] w w.finishSession.2 := by
  unfold finishSession canSend
  by_cases hstate : w.channel.standing.state = .established
  · rw [ensure_eq_ok.mpr hstate]
    simpa [hstate, sendSession] using! passes_transmit_of_attends h (.session (farewell w))
  · rw [ensure_of_ne hstate]
    simpa [hstate] using Passes.refl w

/-! ## Lines -/

/-- An envelope is the message of a text to a node. -/
def IsText (said : Node × String) (envelope : Envelope) : Prop :=
  ∃ id, envelope = .message {
    header := { id := some id, recipient := some said.1 }
    mediaType := "text/plain"
    content := .string said.2 }

theorem passes_sendLine (h : Attends c.world) (line : String) :
    ∃ messages, List.Forall₂ IsText (if canSend c.world then (said? line).toList else []) messages ∧
      Passes messages [] c.world (c.sendLine line).world := by
  have hcomplained : ∀ complaint, Passes [] [] c.world
      (c.modifyConsole (·.complain complaint)).world := fun _ => .of_gist rfl
  have hnothing : ∀ ready : Bool, List.Forall₂ IsText (if ready then none.toList else []) [] := by
    intro ready
    cases ready <;> exact .nil
  unfold sendLine said?
  dsimp only
  generalize Text.trimChars line.toList = trimmed
  cases trimmed with
  | nil => exact ⟨[], hnothing _, .refl _⟩
  | cons first rest =>
    simp only [List.isEmpty_cons, Bool.false_eq_true, if_false]
    cases cutLine (first :: rest) with
    | none => exact ⟨[], hnothing _, hcomplained _⟩
    | some said =>
      obtain ⟨receiver, text⟩ := said
      dsimp only
      cases Node.parse (String.ofList receiver) with
      | error fault => exact ⟨[], hnothing _, hcomplained _⟩
      | ok node =>
        dsimp only
        generalize hmessage : Message.ofText c.world.drawId.1 node (String.ofList text) = message
        have hdrawn : Passes [] [] c.world c.world.drawId.2 := .of_gist rfl
        have hsent := hdrawn.after (passes_sendItem (hdrawn.attends h) message)
        refine ⟨if canSend c.world then [.message message] else [], ?_, ?_⟩
        · cases canSend c.world
          · exact .nil
          · exact .cons ⟨_, congrArg Envelope.message hmessage.symm⟩ .nil
        · cases hresult : c.world.drawId.2.sendItem host .message message with
          | mk result world =>
            rw [hresult] at hsent
            cases result with
            | ok => exact hsent
            | error error => exact hsent.andThen (.of_gist rfl)

theorem phase_sendLine (line : String) (c : Conversation) : (c.sendLine line).phase = c.phase := by
  unfold sendLine
  dsimp only
  split
  · rfl
  · split
    · rfl
    · split
      · rfl
      · split <;> rfl

/-! ## Inputs -/

/-- The session that comes in. -/
def Input.session? : Input → Option Session
  | .received (.session incoming) => some incoming
  | _ => none

/-- Whether a channel has nothing to answer by itself to an input.  It may to traffic other than
sessions, and it pings as time goes by. -/
def Input.isCalm : Input → Bool
  | .received (.session _) => true
  | .received _ | .advance _ => false
  | _ => true

/-- What a line that is read says, if it can be sent. -/
def saidAt (input : Input) (c : Conversation) : List (Node × String) :=
  match input, c.phase with
  | .line line, .talking => if canSend c.world then (said? line).toList else []
  | _, _ => []

/-- The session that asks to finish at the end of the lines, if it can be sent. -/
def farewellAt (input : Input) (c : Conversation) : List Session :=
  match input, c.phase with
  | .endOfLines, .talking => if canSend c.world then [farewell c.world] else []
  | _, _ => []

/-- The session that is looked at. -/
def takenAt (input : Input) (c : Conversation) : List Session :=
  match input, c.phase with
  | .session, .talking | .session, .finishing => c.world.user.sessions.take 1
  | _, _ => []

/-- The world when that session has been taken, and nothing else has happened. -/
def taking (input : Input) (c : Conversation) : World Console :=
  { c.world with user := { c.world.user with
    sessions := c.world.user.sessions.drop (takenAt input c).length } }

/-- The client has greeted the user and not ended yet. -/
def IsOpen (c : Conversation) : Prop :=
  c.phase = .talking ∨ c.phase = .finishing

/-- What an envelope that comes in does. -/
theorem passes_raise (h : Attends w) (envelope : Envelope) :
    ∃ replies, (∀ reply ∈ replies, reply.isOwn = false) ∧
      ((Input.received envelope).isCalm = true → replies = []) ∧
      Passes replies (Input.received envelope).session?.toList w (w.raise host envelope) := by
  by_cases hsession : ∃ session, envelope = .session session
  · obtain ⟨session, rfl⟩ := hsession
    have hpasses := passes_raise_session h.lasting h.held session
    rw [h.notes] at hpasses
    exact ⟨[], fun _ => nofun, fun _ => rfl, hpasses⟩
  · have hother : ∀ session, envelope ≠ .session session := fun session heq => hsession ⟨session, heq⟩
    have hnone : (Input.received envelope).session? = none ∧
        (Input.received envelope).isCalm = false := by
      cases envelope with
      | session session => exact absurd rfl (hother session)
      | _ => exact ⟨rfl, rfl⟩
    obtain ⟨replies, hreplies, hpasses⟩ := murmurs_raise hother w
    rw [hnone.1, hnone.2]
    exact ⟨replies, hreplies, nofun, hpasses⟩

theorem passes_hangUp (c : Conversation) : Passes [] [] c.world c.hangUp.world := by
  have hclosed := passes_close c.world
  unfold hangUp
  split <;> rename_i heq <;> rwa [heq] at hclosed

theorem takenAt_of_open (hopen : IsOpen c) :
    takenAt .session c = c.world.user.sessions.take 1 := by
  unfold takenAt
  rcases hopen with hphase | hphase <;> rw [hphase]

theorem passes_takeSession (hopen : IsOpen c) :
    Passes [] [] (c.taking .session) c.takeSession.world := by
  have hended : ∀ d : Conversation, gist d.world = gist (c.taking .session) →
      Passes [] [] (c.taking .session) d.hangUp.world :=
    fun d hd => (Passes.of_gist hd).after (passes_hangUp d)
  cases hsessions : c.world.user.sessions with
  | nil =>
    have hself : c.takeSession = c := by
      unfold takeSession
      rw [hsessions]
    rw [hself]
    exact .of_gist (by simp [gist, taking, hsessions])
  | cons session rest =>
    have hgist : gist (c.taking .session) =
        gist (c.modifyConsole ({ · with sessions := rest })).world := by
      simp [gist, taking, takenAt_of_open hopen, hsessions, modifyConsole]
    unfold takeSession
    rw [hsessions]
    dsimp only
    split
    · rcases hopen with hphase | hphase <;> simp only [modifyConsole, hphase]
      · exact hended _ hgist.symm
      · exact hended _ hgist.symm
    · exact .of_gist hgist.symm

/-! ## One step -/

theorem step_of_talking (h : c.phase = .talking) (input : Input) :
    c.step input =
      match input with
      | .received envelope => { c with world := c.world.raise host envelope }
      | .disconnected => { c with world := c.world.disconnect host }
      | .session => c.takeSession
      | .line line => c.sendLine line
      | .unreadableLine => c.finishWith (.error ⟨ReadFailure.notText.message, []⟩)
      | .endOfLines => c.finish
      | .timeout => c
      | .advance duration => { c with world := c.world.advance host duration } := by
  obtain ⟨world, phase⟩ := c
  cases h
  cases input <;> rfl

theorem step_of_finishing (h : c.phase = .finishing) (input : Input) :
    c.step input =
      match input with
      | .received envelope => { c with world := c.world.raise host envelope }
      | .disconnected => { c with world := c.world.disconnect host }
      | .session => c.takeSession
      | .timeout => c.hangUp
      | .advance duration => { c with world := c.world.advance host duration }
      | _ => c := by
  obtain ⟨world, phase⟩ := c
  cases h
  cases input <;> rfl

/-- What an input makes the client send: first what the channel answers by itself, if it may, then what
the user says or the request to finish. -/
def Responds (input : Input) (c : Conversation) : Prop :=
  ∃ replies messages, (∀ reply ∈ replies, reply.isOwn = false) ∧
    (input.isCalm = true → replies = []) ∧ List.Forall₂ IsText (saidAt input c) messages ∧
    Passes (replies ++ messages ++ (farewellAt input c).map .session) input.session?.toList
      (c.taking input) (c.step input).world

theorem responds_of_open (hattends : Attends c.world) (hopen : IsOpen c) (input : Input) :
    Responds input c := by
  -- Most inputs do not speak for the user, and few of these are answered.
  have hanswered : ∀ (input : Input) (replies : List Envelope), saidAt input c = [] →
      farewellAt input c = [] → (∀ reply ∈ replies, reply.isOwn = false) →
      (input.isCalm = true → replies = []) →
      Passes replies input.session?.toList (c.taking input) (c.step input).world →
      Responds input c := by
    intro input replies hsaid hfarewell hreplies hcalm hpasses
    refine ⟨replies, [], hreplies, hcalm, hsaid ▸ .nil, ?_⟩
    rw [hfarewell, List.map_nil, List.append_nil, List.append_nil]
    exact hpasses
  have hquiet : ∀ input : Input, saidAt input c = [] → farewellAt input c = [] →
      input.session? = none → Passes [] [] (c.taking input) (c.step input).world →
      Responds input c := by
    intro input hsaid hfarewell hsession hpasses
    exact hanswered input [] hsaid hfarewell (fun _ => nofun) (fun _ => rfl) (hsession ▸ hpasses)
  cases input with
  | received envelope =>
    obtain ⟨replies, hreplies, hcalm, hpasses⟩ := passes_raise hattends envelope
    refine hanswered _ replies rfl rfl hreplies hcalm ?_
    rcases hopen with h | h
    · rw [step_of_talking h]
      exact hpasses
    · rw [step_of_finishing h]
      exact hpasses
  | disconnected =>
    refine hquiet _ rfl rfl rfl ?_
    rcases hopen with h | h
    · rw [step_of_talking h]
      exact passes_disconnect c.world
    · rw [step_of_finishing h]
      exact passes_disconnect c.world
  | advance duration =>
    obtain ⟨replies, hreplies, hpasses⟩ := murmurs_advance duration c.world
    refine hanswered _ replies rfl rfl hreplies nofun ?_
    rcases hopen with h | h
    · rw [step_of_talking h]
      exact hpasses
    · rw [step_of_finishing h]
      exact hpasses
  | session =>
    refine hquiet _ rfl rfl rfl ?_
    rcases id hopen with h | h
    · rw [step_of_talking h]
      exact passes_takeSession hopen
    · rw [step_of_finishing h]
      exact passes_takeSession hopen
  | line line =>
    rcases hopen with h | h
    · obtain ⟨messages, htexts, hpasses⟩ := passes_sendLine hattends line
      refine ⟨[], messages, fun _ => nofun, fun _ => rfl, ?_, ?_⟩
      · simpa [saidAt, h] using htexts
      · rw [step_of_talking h]
        show Passes (messages ++ []) _ _ _
        rw [List.append_nil]
        exact hpasses
    · refine hquiet _ (by simp [saidAt, h]) rfl rfl ?_
      rw [step_of_finishing h]
      exact .refl _
  | unreadableLine =>
    refine hquiet _ rfl rfl rfl ?_
    rcases hopen with h | h
    · rw [step_of_talking h]
      exact .refl _
    · rw [step_of_finishing h]
      exact .refl _
  | endOfLines =>
    rcases hopen with h | h
    · refine ⟨[], [], fun _ => nofun, fun _ => rfl, .nil, ?_⟩
      have hfinished := passes_finishSession hattends
      have hfarewell : (farewellAt .endOfLines c).map Envelope.session =
          if canSend c.world then [.session (farewell c.world)] else [] := by
        simp only [farewellAt, h]
        split <;> rfl
      rw [step_of_talking h, hfarewell]
      unfold finish
      cases hresult : c.world.finishSession with
      | mk result world =>
        rw [hresult] at hfinished
        cases result <;> exact hfinished
    · refine hquiet _ rfl (by simp [farewellAt, h]) rfl ?_
      rw [step_of_finishing h]
      exact .refl _
  | timeout =>
    refine hquiet _ rfl rfl rfl ?_
    rcases hopen with h | h
    · rw [step_of_talking h]
      exact .refl _
    · rw [step_of_finishing h]
      exact passes_hangUp c

end Conversation
end Courier
