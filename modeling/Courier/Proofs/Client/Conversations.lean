/-
Conversations, from their start.

While the session is being established the client has one handshake, and what it waits for arrives when
that is over.  So when the client talks no handshake is pending, and the talk goes as it does from any
steady world (`talk_exact`).
-/
import Courier.Proofs.Client.Runs

namespace Courier

open World

namespace Conversation

variable {replies : List Envelope} {heard : List Session} {v w : World Console} {c : Conversation}

/-! ## Establishing -/

/-- The client has one handshake at most, and what it waits for has arrived only if that is over. -/
structure Opens (w : World Console) : Prop where
  attends : Attends w
  handshakes : w.channel.handshakes.length ≤ 1
  arrived : w.arrived ≠ [] → Settled w

theorem settled_of_none (hnone : w.channel.handshakes = []) : Settled w := by
  rintro n ⟨handshake, hget, -⟩
  rw [hnone] at hget
  cases hget

theorem Passes.opens (h : Passes replies heard v w) (hv : Opens v) : Opens w where
  attends := h.attends hv.attends
  handshakes := h.handshakes ▸ hv.handshakes
  arrived hsome := by
    rcases h.arrived hsome with hbefore | ⟨n, hpending, hover⟩
    · exact fun m hm => hv.arrived hbefore m (h.pending m hm)
    · intro m hm
      have honly : ∀ k, Pending k v → k = 0 := by
        rintro k ⟨handshake, hget, -⟩
        have hlt := getElem?_lt hget
        have hone := hv.handshakes
        omega
      rw [honly m (h.pending m hm), ← honly n hpending] at hm
      exact hover hm

/-- A handshake that is started is the only one, and if it cannot be, there is none. -/
theorem opens_establish (hattends : Attends w) (hnone : w.channel.handshakes = [])
    (hquiet : w.arrived = []) (establishment : Establishment) (reporter : Reporter) :
    Opens (w.establish establishment reporter).2 ∧
      ((w.establish establishment reporter).1 ≠ .ok () →
        Settled (w.establish establishment reporter).2) := by
  have hsettled : Settled w := settled_of_none hnone
  have hsame : Opens w := ⟨hattends, by simp [hnone], fun _ => hsettled⟩
  by_cases hnew : w.channel.standing.state = .new
  · cases hidentity : checkIdentity establishment.identity with
    | error error =>
      unfold establish
      rw [ensure_eq_ok.mpr hnew, hidentity]
      exact ⟨hsame, fun _ => hsettled⟩
    | ok =>
      have hstarted : Opens (w.started establishment reporter) := {
        attends := {
          held := hattends.held
          failingSends := hattends.failingSends
          receipts := hattends.receipts
          listens := (filter_isNamed_add _ _).trans hattends.listens }
        handshakes := by rw [handshakes_started, hnone]; exact Nat.le_refl 1
        arrived := fun hsome => absurd hquiet hsome }
      have hsent : Opens ((w.started establishment reporter).sendSession { state := .new }).2 :=
        (passes_transmit _ true _).opens hstarted
      rw [establish_of_new hnew hidentity]
      cases hresult : (w.started establishment reporter).sendSession { state := .new } with
      | mk result u =>
        rw [hresult] at hsent
        cases result with
        | ok => exact ⟨hsent, fun hfailed => absurd rfl hfailed⟩
        | error error =>
          have hnone' : (u.abandoned w.channel.handshakes).channel.handshakes = [] := hnone
          have hattends' : Attends (u.abandoned w.channel.handshakes) := {
            held := hsent.attends.held
            failingSends := hsent.attends.failingSends
            receipts := hsent.attends.receipts
            listens := (filter_isNamed_remove _ _).trans hsent.attends.listens }
          have hsettled' := settled_of_none hnone'
          exact ⟨⟨hattends', by simp [hnone'], fun _ => hsettled'⟩, fun _ => hsettled'⟩
  · unfold establish
    rw [ensure_of_ne hnew]
    exact ⟨hsame, fun _ => hsettled⟩

theorem opens_await (hattends : Attends w) (hnone : w.channel.handshakes = [])
    (hquiet : w.arrived = []) (establishment : Establishment) (name : Name) :
    Opens (w.await establishment name) := by
  have hwaiting : Attends { w with waiting := w.waiting + 1 } := hattends.of_channel rfl rfl rfl
  obtain ⟨hopens, hfailed⟩ :=
    opens_establish hwaiting hnone hquiet establishment (.waiting name)
  unfold await
  dsimp only
  cases hresult : establish establishment (.waiting name) { w with waiting := w.waiting + 1 } with
  | mk result u =>
    rw [hresult] at hopens hfailed
    cases result with
    | ok => exact hopens
    | error error =>
      have hsettled : Settled u := hfailed nofun
      exact ⟨hopens.attends.of_channel rfl rfl rfl, hopens.handshakes,
        fun _ => hsettled.of_channel rfl⟩

/-! ## Any conversation -/

/-- The client waits for its session to be established, or that is over, or it has ended. -/
inductive Sound (c : Conversation) : Prop
  | opening (hphase : c.phase = .establishing) (hopens : Opens c.world)
  | greeted (hphase : c.phase ≠ .establishing) (hsteady : Steady c.world)
  | ended (result : Except Report Unit) (hphase : c.phase = .ended result)

theorem Sound.steady (h : Sound c) (htalking : c.phase = .talking) : Steady c.world := by
  cases h with
  | opening hphase => exact absurd (hphase.symm.trans htalking) nofun
  | greeted _ hsteady => exact hsteady
  | ended result hphase => exact absurd (hphase.symm.trans htalking) nofun

theorem sound_seeOutcome (hphase : c.phase = .establishing) (hopens : Opens c.world) :
    Sound c.seeOutcome := by
  unfold seeOutcome
  rw [hphase]
  cases harrived : c.world.arrived with
  | nil => exact .opening hphase hopens
  | cons told later =>
    obtain ⟨name, outcome⟩ := told
    have hsteady : Steady c.world :=
      ⟨hopens.attends, hopens.arrived (harrived ▸ List.cons_ne_nil _ _)⟩
    cases outcome with
    | error error => exact .ended _ rfl
    | ok session =>
      dsimp only
      split
      · have hsettled : Steady c.world.settle := by
          rw [settle_eq]
          exact hsteady.of_channel rfl rfl rfl
        exact .greeted nofun (hsettled.of_channel rfl rfl rfl)
      · exact .ended _ rfl

theorem step_of_establishing (h : c.phase = .establishing) (input : Input) :
    c.step input =
      match input with
      | .received envelope => { c with world := c.world.raise host envelope }.seeOutcome
      | .disconnected => { c with world := c.world.disconnect host }.seeOutcome
      | .advance duration => { c with world := c.world.advance host duration }.seeOutcome
      | .timeout => c.giveUp
      | _ => c := by
  obtain ⟨world, phase⟩ := c
  cases h
  cases input <;> rfl

theorem sound_step (h : Sound c) (input : Input) : Sound (c.step input) := by
  cases h with
  | opening hphase hopens =>
    have hpassed : ∀ {replies heard world}, Passes replies heard c.world world →
        Sound ({ c with world } : Conversation).seeOutcome :=
      fun hpasses => sound_seeOutcome hphase (hpasses.opens hopens)
    rw [step_of_establishing hphase]
    cases input with
    | received envelope =>
      obtain ⟨_, -, -, hpasses⟩ := passes_raise hopens.attends envelope
      exact hpassed hpasses
    | disconnected => exact hpassed (passes_disconnect c.world)
    | advance duration =>
      obtain ⟨_, -, hpasses⟩ := murmurs_advance duration c.world
      exact hpassed hpasses
    | timeout =>
      dsimp only [giveUp]
      rw [hphase]
      exact .ended _ rfl
    | _ => exact .opening hphase hopens
  | greeted hphase hsteady =>
    exact .greeted (greeted_step hphase input) (steady_step hsteady hphase input)
  | ended result hphase =>
    rw [step_of_ended hphase]
    exact .ended result hphase

theorem sound_run (h : Sound c) (inputs : List Input) : Sound (run inputs c) := by
  induction inputs generalizing c with
  | nil => exact h
  | cons input inputs ih => exact ih (sound_step h input)

theorem attends_create {settings : ChannelSettings} {console : Console}
    (h : World.create settings {} .overStream true console = .ok w) (drawn : Nat) :
    let world := { w with drawn }
    let world := (world.addListener (.traffic .message) messages false).2
    let world := (world.addListener (.traffic .notification) notifications false).2
    Attends (world.addListener .session Conversation.sessions false).2 ∧
      w.channel.handshakes = [] ∧ w.arrived = [] := by
  unfold World.create at h
  split at h
  · cases h
  · cases h
    refine ⟨⟨rfl, rfl, ?_, rfl⟩, rfl, rfl⟩
    show ∀ stage ∈ (if settings.notifiesReceipt then _ else _ : Pipeline Stage).modules, _
    cases settings.notifiesReceipt <;> simp

theorem sound_start (settings : Settings) (identity : Identity) (drawn : Nat) :
    Sound (start settings identity .overStream drawn) := by
  unfold start
  split
  · exact .ended _ rfl
  · rename_i world hcreate
    obtain ⟨hattends, hnone, hquiet⟩ := attends_create hcreate drawn
    exact sound_seeOutcome rfl (opens_await hattends hnone hquiet _ _)

/-- While the client talks, it sends the text of each valid line that it reads while the session is
established and the link is open, then the request to finish if the lines end before a session that is
over is taken, and nothing else. -/
theorem talk_exact (settings : Settings) (identity : Identity) (drawn : Nat)
    (before inputs : List Input)
    (htalking : (run before (start settings identity .overStream drawn)).phase = .talking) :
    let c := run before (start settings identity .overStream drawn)
    let final := run inputs c
    let farewells := along farewellAt inputs c
    let lasting (session : Session) := session.state.isTerminal = false
    Sends (along saidAt inputs c) farewells (∀ input ∈ inputs, input.isCalm = true)
      c.world final.world ∧
    farewells.length ≤ 1 ∧
    (farewells ≠ [] ↔ ∃ earlier later, inputs = earlier ++ .endOfLines :: later ∧
      .endOfLines ∉ earlier ∧ .unreadableLine ∉ earlier ∧
      (∀ session ∈ along takenAt earlier c, lasting session) ∧
      canSend (run earlier c).world = true) ∧
    (final.phase = .talking ↔ .endOfLines ∉ inputs ∧ .unreadableLine ∉ inputs ∧
      ∀ session ∈ along takenAt inputs c, lasting session) ∧
    (IsOpen final → along takenAt inputs c ++ final.world.user.sessions =
      c.world.user.sessions ++ inputs.filterMap Input.session?) ∧
    (∀ line node text, said? line = some (node, text) ↔ Says line node text) ∧
    (∀ line node text, said? line = some (node, text) → text ≠ "") ∧
    ∀ (node : Node) (text : String), Node.parse node.text = .ok node → ' ' ∉ node.text.toList →
      Text.trimChars text.toList = text.toList → text ≠ "" →
      said? (node.text ++ " " ++ text) = some (node, text) := by
  intro c final farewells lasting
  have hsteady : Steady c.world :=
    (sound_run (sound_start settings identity drawn) before).steady htalking
  have hgreeted : c.phase ≠ .establishing := by
    rw [htalking]
    nofun
  have hasks : farewells ≠ [] ↔ _ := farewells_ne_nil_iff inputs c
  have htalks : ∀ earlier, (run earlier c).phase = .talking ↔ _ := talking_run_iff htalking
  simp only [htalks, and_assoc] at hasks
  refine ⟨sends_run hsteady hgreeted inputs, length_farewells_le hgreeted inputs, hasks,
    htalks inputs, sessions_run hsteady (.inl htalking) inputs,
    fun _ _ _ => said?_eq_some_iff, fun _ _ _ h => (said?_eq_some_iff.mp h).text_ne,
    fun _ _ hparse hspace htrimmed hne =>
      said?_eq_some_iff.mpr (says_of_text hparse hspace htrimmed hne)⟩

/-- Bob of example.org. -/
def bob : Node where
  identity := { name := some "bob", domain := some "example.org" }

/-- The server establishes a session, and the user says hello. -/
theorem talk_exact_hello :
    let established : Input := .received (.session {
      header := { id := some "1", recipient := some (aliceAsGuest.identity.at? (some "home")) }
      state := .established })
    let c := run [established] (start {} aliceAsGuest.identity .overStream 0)
    let inputs : List Input :=
      [.line " ", .line "@ nobody", .line "bob@example.org  hello there ", .endOfLines, .line "bob late"]
    c.phase = .talking ∧ (∀ input ∈ inputs, input.isCalm = true) ∧
    (∃ message, IsText (bob, "hello there") message ∧
      (run inputs c).world.link.sent = c.world.link.sent ++
        [message, .session { header := { id := some "1" }, state := .finishing }]) ∧
    IsOpen (run inputs c) ∧ (run inputs c).world.user.sessions = c.world.user.sessions ∧
    Node.parse bob.text = .ok bob ∧ said? (bob.text ++ " " ++ "hello") = some (bob, "hello") := by
  intro established c inputs
  have htalking : c.phase = .talking := rfl
  obtain ⟨⟨added, messages, hsent, -, hcalm, htexts⟩, -, -, -, hsessions, -, -, hnode⟩ :=
    talk_exact {} aliceAsGuest.identity 0 [established] inputs htalking
  have hquiet : ∀ input ∈ inputs, input.isCalm = true := by simp [inputs, Input.isCalm]
  have hsaid : along saidAt inputs c = [(bob, "hello there")] := rfl
  have hfarewells : along farewellAt inputs c =
    [{ header := { id := some "1" }, state := .finishing }] := rfl
  have hopen : IsOpen (run inputs c) := .inr rfl
  have htaken : along takenAt inputs c = [] := rfl
  have hnone : inputs.filterMap Input.session? = [] := rfl
  have hwaiting : (run inputs c).world.user.sessions = c.world.user.sessions := by
    have hall := hsessions hopen
    rwa [htaken, hnone, List.nil_append, List.append_nil] at hall
  rw [hsaid] at htexts
  obtain ⟨message, _, htext, hrest, rfl⟩ := List.forall₂_cons_left_iff.mp htexts
  obtain rfl := List.forall₂_nil_left_iff.mp hrest
  have hparse : Node.parse bob.text = .ok bob := rfl
  refine ⟨htalking, hquiet, ⟨message, htext, ?_⟩, hopen, hwaiting, hparse,
    hnode bob "hello" hparse (by decide) (by decide) (by decide)⟩
  rw [hsent, hcalm hquiet, hfarewells]
  rfl

end Conversation
end Courier
