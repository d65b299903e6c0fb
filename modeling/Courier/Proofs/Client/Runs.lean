/-
How a talk goes.

The client talks until the lines end, one of them is not readable, or a session that is over is taken
(`talking_run_iff`), and it takes the sessions in the order in which they come in (`sessions_run`).
Along any run it sends what the lines say that are read while they can be sent, then at most one
request to finish, and nothing after that (`sends_run`, `length_farewells_le`).
-/
import Mathlib.Data.List.Forall2
import Courier.Proofs.Client.Talking

namespace Courier

open World

namespace Conversation

variable {c : Conversation} {input : Input}

/-! ## When the talk is over -/

/-- The client does not read lines any more. -/
def IsOver (c : Conversation) : Prop :=
  c.phase = .finishing ∨ ∃ result, c.phase = .ended result

/-- The client goes on reading lines. -/
def Continues (input : Input) (c : Conversation) : Prop :=
  input ≠ .endOfLines ∧ input ≠ .unreadableLine ∧
    ∀ session ∈ takenAt input c, session.state.isTerminal = false

theorem step_of_ended {result : Except Report Unit} (h : c.phase = .ended result) (input : Input) :
    c.step input = c := by
  unfold step
  rw [h]

theorem ended_hangUp (c : Conversation) : ∃ result, c.hangUp.phase = .ended result := by
  unfold hangUp
  split <;> exact ⟨_, rfl⟩

theorem phase_takeSession (hopen : IsOpen c) :
    if ∀ session ∈ takenAt .session c, session.state.isTerminal = false then
      c.takeSession.phase = c.phase
    else ∃ result, c.takeSession.phase = .ended result := by
  unfold takeSession
  rw [takenAt_of_open hopen]
  cases c.world.user.sessions with
  | nil => simp
  | cons session rest =>
    cases hterminal : session.state.isTerminal with
    | false => simp [hterminal, modifyConsole]
    | true =>
      rcases hopen with hphase | hphase
      · simpa [hterminal, modifyConsole, hphase] using ended_hangUp _
      · simpa [hterminal, modifyConsole, hphase] using ended_hangUp _

theorem over_finish (c : Conversation) : IsOver c.finish := by
  unfold finish
  split
  · exact .inl rfl
  · exact .inr ⟨_, rfl⟩

theorem over_step (h : IsOver c) (input : Input) : IsOver (c.step input) := by
  rcases h with h | ⟨result, h⟩
  · rw [step_of_finishing h]
    cases input with
    | session =>
      have hphase := phase_takeSession (.inr h)
      dsimp only
      split at hphase
      · exact .inl (hphase.trans h)
      · exact .inr hphase
    | timeout => exact .inr (ended_hangUp c)
    | _ => exact .inl h
  · rw [step_of_ended h]
    exact .inr ⟨result, h⟩

theorem talking_step (h : c.phase = .talking) (input : Input) :
    (Continues input c ∧ (c.step input).phase = .talking) ∨
      (¬Continues input c ∧ IsOver (c.step input)) := by
  rw [step_of_talking h]
  have hgoes : ∀ input : Input, input ≠ .endOfLines → input ≠ .unreadableLine →
      takenAt input c = [] → Continues input c :=
    fun input hend hreadable htaken => ⟨hend, hreadable, htaken ▸ fun _ => nofun⟩
  cases input with
  | session =>
    have hphase := phase_takeSession (.inl h)
    dsimp only
    split at hphase
    · rename_i hlasting
      exact .inl ⟨⟨nofun, nofun, hlasting⟩, hphase.trans h⟩
    · rename_i hterminal
      exact .inr ⟨fun hcontinues => hterminal hcontinues.2.2, .inr hphase⟩
  | line line => exact .inl ⟨hgoes _ nofun nofun rfl, (phase_sendLine line c).trans h⟩
  | unreadableLine => exact .inr ⟨fun hcontinues => hcontinues.2.1 rfl, .inr ⟨_, rfl⟩⟩
  | endOfLines => exact .inr ⟨fun hcontinues => hcontinues.1 rfl, over_finish c⟩
  | _ => exact .inl ⟨hgoes _ nofun nofun rfl, h⟩

/-! ## Runs -/

/-- What is collected at each of the inputs of a run. -/
def along {α : Type} (collect : Input → Conversation → List α) :
    List Input → Conversation → List α
  | [], _ => []
  | input :: inputs, c => collect input c ++ along collect inputs (c.step input)

theorem over_run (h : IsOver c) (inputs : List Input) : IsOver (run inputs c) := by
  induction inputs generalizing c with
  | nil => exact h
  | cons input inputs ih => exact ih (over_step h input)

theorem not_talking_of_over (h : IsOver c) : c.phase ≠ .talking := by
  rcases h with h | ⟨_, h⟩ <;> rw [h] <;> nofun

/-- The talk goes on until the lines end, one is not readable, or a session that is over is taken. -/
theorem talking_run_iff (h : c.phase = .talking) (inputs : List Input) :
    (run inputs c).phase = .talking ↔ .endOfLines ∉ inputs ∧ .unreadableLine ∉ inputs ∧
      ∀ session ∈ along takenAt inputs c, session.state.isTerminal = false := by
  induction inputs generalizing c with
  | nil => simp [run, along, h]
  | cons input inputs ih =>
    show (run inputs (c.step input)).phase = .talking ↔ _
    rw [along, List.forall_mem_append, List.mem_cons, List.mem_cons, not_or, not_or]
    rcases talking_step h input with ⟨⟨hend, hreadable, hlasting⟩, hnext⟩ | ⟨hstops, hover⟩
    · rw [ih hnext]
      exact ⟨fun ⟨hends, hreads, hlast⟩ =>
          ⟨⟨hend.symm, hends⟩, ⟨hreadable.symm, hreads⟩, hlasting, hlast⟩,
        fun ⟨⟨_, hends⟩, ⟨_, hreads⟩, _, hlast⟩ => ⟨hends, hreads, hlast⟩⟩
    · refine ⟨fun htalking => absurd htalking (not_talking_of_over (over_run hover inputs)), ?_⟩
      rintro ⟨⟨hend, -⟩, ⟨hreadable, -⟩, hlasting, -⟩
      exact absurd ⟨Ne.symm hend, Ne.symm hreadable, hlasting⟩ hstops

/-! ### What is sent along a run -/

/-- Texts have been sent, and then sessions that ask to finish.  There was nothing else but what the
channel sends by itself, and nothing at all if the inputs were calm. -/
def Sends (texts : List (Node × String)) (farewells : List Session) (calm : Prop)
    (v w : World Console) : Prop :=
  ∃ added messages, w.link.sent = v.link.sent ++ added ∧
    added.filter Envelope.isOwn = messages ++ farewells.map .session ∧
    (calm → added = messages ++ farewells.map .session) ∧ List.Forall₂ IsText texts messages

theorem Sends.refl {calm : Prop} (w : World Console) : Sends [] [] calm w w :=
  ⟨[], [], (List.append_nil _).symm, rfl, fun _ => rfl, .nil⟩

theorem Sends.trans {texts texts' : List (Node × String)} {farewells farewells' : List Session}
    {calm calm' : Prop} {u v w : World Console} (huv : Sends texts farewells calm u v)
    (hvw : Sends texts' farewells' calm' v w) (horder : farewells = [] ∨ texts' = []) :
    Sends (texts ++ texts') (farewells ++ farewells') (calm ∧ calm') u w := by
  obtain ⟨first, said, hsent, hown, hcalm, htexts⟩ := huv
  obtain ⟨second, said', hsent', hown', hcalm', htexts'⟩ := hvw
  have hordered : said ++ farewells.map .session ++ (said' ++ farewells'.map .session) =
      said ++ said' ++ (farewells ++ farewells').map Envelope.session := by
    rcases horder with rfl | rfl
    · simp
    · rw [List.forall₂_nil_left_iff.mp htexts']
      simp
  refine ⟨first ++ second, said ++ said', ?_, ?_, fun ⟨hfirst, hsecond⟩ => ?_, ?_⟩
  · rw [hsent', hsent, List.append_assoc]
  · rw [List.filter_append, hown, hown', hordered]
  · rw [hcalm hfirst, hcalm' hsecond, hordered]
  · exact List.rel_append htexts htexts'

theorem isOwn_of_texts {texts : List (Node × String)} {messages : List Envelope}
    (h : List.Forall₂ IsText texts messages) : ∀ message ∈ messages, message.isOwn = true := by
  induction h with
  | nil => exact fun _ => nofun
  | cons htext _ ih =>
    obtain ⟨id, rfl⟩ := htext
    exact List.forall_mem_cons.mpr ⟨rfl, ih⟩

theorem Responds.sends (h : Responds input c) (hsteady : Steady c.world) :
    Sends (saidAt input c) (farewellAt input c) (input.isCalm = true) c.world
      (c.step input).world := by
  obtain ⟨replies, messages, hreplies, hcalm, htexts, hpasses⟩ := h
  have htaking : Steady (c.taking input) := hsteady.of_channel rfl rfl rfl
  refine ⟨_, messages, hpasses.sent htaking.settled, ?_, fun hquiet => ?_, htexts⟩
  · rw [List.filter_append, List.filter_append, List.filter_eq_nil_iff.mpr (by simpa using hreplies),
      List.filter_eq_self.mpr (isOwn_of_texts htexts), List.filter_eq_self.mpr (by simp [Envelope.isOwn]),
      List.nil_append]
  · rw [hcalm hquiet, List.nil_append]

theorem open_or_ended (h : c.phase ≠ .establishing) :
    IsOpen c ∨ ∃ result, c.phase = .ended result := by
  unfold IsOpen
  cases hphase : c.phase with
  | establishing => exact absurd hphase h
  | talking => exact .inl (.inl rfl)
  | finishing => exact .inl (.inr rfl)
  | ended result => exact .inr ⟨result, rfl⟩

theorem talking_or_over (h : c.phase ≠ .establishing) : c.phase = .talking ∨ IsOver c := by
  rcases open_or_ended h with (htalking | hfinishing) | hended
  · exact .inl htalking
  · exact .inr (.inl hfinishing)
  · exact .inr (.inr hended)

theorem greeted_of_over (h : IsOver c) : c.phase ≠ .establishing := by
  rcases h with h | ⟨_, h⟩ <;> rw [h] <;> nofun

theorem greeted_step (h : c.phase ≠ .establishing) (input : Input) :
    (c.step input).phase ≠ .establishing := by
  rcases talking_or_over h with htalking | hover
  · rcases talking_step htalking input with ⟨-, hnext⟩ | ⟨-, hover⟩
    · rw [hnext]
      nofun
    · exact greeted_of_over hover
  · exact greeted_of_over (over_step hover input)

theorem saidAt_of_over (h : IsOver c) (input : Input) : saidAt input c = [] := by
  unfold saidAt
  rcases h with h | ⟨_, h⟩ <;> rw [h] <;> cases input <;> rfl

theorem farewellAt_of_over (h : IsOver c) (input : Input) : farewellAt input c = [] := by
  unfold farewellAt
  rcases h with h | ⟨_, h⟩ <;> rw [h] <;> cases input <;> rfl

theorem along_of_over {α : Type} {collect : Input → Conversation → List α}
    (hnothing : ∀ {c}, IsOver c → ∀ input, collect input c = []) (h : IsOver c)
    (inputs : List Input) : along collect inputs c = [] := by
  induction inputs generalizing c with
  | nil => rfl
  | cons input inputs ih => rw [along, hnothing h, ih (over_step h input), List.nil_append]

/-- The request to finish is the last that is said. -/
theorem farewellAt_eq_nil_or (h : c.phase ≠ .establishing) (input : Input) :
    farewellAt input c = [] ∨ IsOver (c.step input) := by
  rcases talking_or_over h with htalking | hover
  · rcases talking_step htalking input with ⟨⟨hend, -⟩, -⟩ | ⟨-, hover⟩
    · refine .inl ?_
      unfold farewellAt
      split
      · exact absurd rfl hend
      · rfl
    · exact .inr hover
  · exact .inl (farewellAt_of_over hover input)

theorem steady_step (hsteady : Steady c.world) (h : c.phase ≠ .establishing) (input : Input) :
    Steady (c.step input).world := by
  rcases open_or_ended h with hopen | ⟨result, hended⟩
  · obtain ⟨_, _, -, -, -, hpasses⟩ := responds_of_open hsteady.attends hopen input
    exact hpasses.steady (hsteady.of_channel rfl rfl rfl)
  · rwa [step_of_ended hended]

theorem sends_step (hsteady : Steady c.world) (h : c.phase ≠ .establishing) (input : Input) :
    Sends (saidAt input c) (farewellAt input c) (input.isCalm = true) c.world
      (c.step input).world := by
  rcases open_or_ended h with hopen | hended
  · exact (responds_of_open hsteady.attends hopen input).sends hsteady
  · have hover : IsOver c := .inr hended
    obtain ⟨result, hended⟩ := hended
    rw [saidAt_of_over hover, farewellAt_of_over hover, step_of_ended hended]
    exact .refl c.world

theorem sends_run (hsteady : Steady c.world) (h : c.phase ≠ .establishing) (inputs : List Input) :
    Sends (along saidAt inputs c) (along farewellAt inputs c) (∀ input ∈ inputs, input.isCalm = true)
      c.world (run inputs c).world := by
  induction inputs generalizing c with
  | nil => exact .refl c.world
  | cons input inputs ih =>
    rw [List.forall_mem_cons]
    refine (sends_step hsteady h input).trans
      (ih (steady_step hsteady h input) (greeted_step h input)) ?_
    exact (farewellAt_eq_nil_or h input).imp_right fun hover =>
      along_of_over saidAt_of_over hover inputs

theorem length_farewells_le (h : c.phase ≠ .establishing) (inputs : List Input) :
    (along farewellAt inputs c).length ≤ 1 := by
  induction inputs generalizing c with
  | nil => exact Nat.zero_le 1
  | cons input inputs ih =>
    rw [along]
    rcases farewellAt_eq_nil_or h input with hnone | hover
    · rw [hnone]
      exact ih (greeted_step h input)
    · rw [along_of_over farewellAt_of_over hover, List.append_nil]
      unfold farewellAt
      split
      · split <;> simp
      · exact Nat.zero_le 1

theorem farewellAt_ne_nil_iff :
    farewellAt input c ≠ [] ↔
      input = .endOfLines ∧ c.phase = .talking ∧ canSend c.world = true := by
  unfold farewellAt
  split
  · rename_i htalking
    simp [htalking]
  · rename_i hnot
    refine ⟨fun hne => absurd rfl hne, fun ⟨hinput, htalking, _⟩ => ?_⟩
    exact absurd htalking (hnot hinput)

/-- The client asks to finish if the lines end while it reads them and can send. -/
theorem farewells_ne_nil_iff (inputs : List Input) (c : Conversation) :
    along farewellAt inputs c ≠ [] ↔ ∃ earlier later, inputs = earlier ++ .endOfLines :: later ∧
      (run earlier c).phase = .talking ∧ canSend (run earlier c).world = true := by
  induction inputs generalizing c with
  | nil => simp [along]
  | cons input inputs ih =>
    rw [along, ne_eq, List.append_eq_nil_iff, not_and_or, ← ne_eq, ← ne_eq, farewellAt_ne_nil_iff, ih]
    constructor
    · rintro (⟨rfl, htalking, hcan⟩ | ⟨earlier, later, rfl, htalking, hcan⟩)
      · exact ⟨[], inputs, rfl, htalking, hcan⟩
      · exact ⟨input :: earlier, later, rfl, htalking, hcan⟩
    · rintro ⟨earlier, later, hinputs, htalking, hcan⟩
      cases earlier with
      | nil =>
        obtain ⟨rfl, rfl⟩ := List.cons.inj hinputs
        exact .inl ⟨rfl, htalking, hcan⟩
      | cons first earlier =>
        obtain ⟨rfl, rfl⟩ := List.cons.inj hinputs
        exact .inr ⟨earlier, later, rfl, htalking, hcan⟩

/-! ### The sessions that are looked at -/

theorem takenAt_append_drop (input : Input) (c : Conversation) :
    takenAt input c ++ c.world.user.sessions.drop (takenAt input c).length =
      c.world.user.sessions := by
  unfold takenAt
  split
  · cases c.world.user.sessions <;> rfl
  · cases c.world.user.sessions <;> rfl
  · rfl

theorem ended_run {result : Except Report Unit} (h : c.phase = .ended result) (inputs : List Input) :
    run inputs c = c := by
  induction inputs with
  | nil => rfl
  | cons input inputs ih =>
    show run inputs (c.step input) = c
    rwa [step_of_ended h]

/-- Until the client ends, each session that comes in is looked at in its turn or still waits. -/
theorem sessions_run (hsteady : Steady c.world) (hopen : IsOpen c) (inputs : List Input)
    (hend : IsOpen (run inputs c)) :
    along takenAt inputs c ++ (run inputs c).world.user.sessions =
      c.world.user.sessions ++ inputs.filterMap Input.session? := by
  induction inputs generalizing c with
  | nil => exact (List.append_nil _).symm
  | cons input inputs ih =>
    have hgreeted : c.phase ≠ .establishing := by
      rcases hopen with h | h <;> rw [h] <;> nofun
    have hnext : IsOpen (c.step input) := by
      rcases open_or_ended (greeted_step hgreeted input) with hnext | ⟨result, hended⟩
      · exact hnext
      · have hself : run (input :: inputs) c = c.step input := ended_run hended inputs
        rwa [hself] at hend
    obtain ⟨_, _, -, -, -, hpasses⟩ := responds_of_open hsteady.attends hopen input
    have hsessions : (c.step input).world.user.sessions =
        c.world.user.sessions.drop (takenAt input c).length ++ input.session?.toList :=
      hpasses.sessions
    calc along takenAt (input :: inputs) c ++ (run (input :: inputs) c).world.user.sessions
      _ = takenAt input c ++
            (along takenAt inputs (c.step input) ++ (run inputs (c.step input)).world.user.sessions) :=
        List.append_assoc _ _ _
      _ = takenAt input c ++
            ((c.step input).world.user.sessions ++ inputs.filterMap Input.session?) := by
        rw [ih (steady_step hsteady hgreeted input) hnext hend]
      _ = takenAt input c ++ c.world.user.sessions.drop (takenAt input c).length ++
            (input.session?.toList ++ inputs.filterMap Input.session?) := by
        rw [hsessions, List.append_assoc, List.append_assoc]
      _ = c.world.user.sessions ++ (input :: inputs).filterMap Input.session? := by
        rw [takenAt_append_drop]
        cases hsession : input.session? <;> simp [hsession]

end Conversation
end Courier
