/-
Where an endpoint stands depends on the sessions it has received, and on nothing else.

Sending, the single operations, handshakes, closes, pings, receipts, all other traffic and all errors
leave the standing alone.  So a run leaves the state and the id of the last session that came in, and
the nodes of the last one that came in established (`standing_follows_sessions`).  Two runs in which
the same sessions come in end in the same standing, whatever else happens in them.
-/
import Courier.Proofs.Channel.Transit
import Mathlib.Data.List.Induction

namespace Courier

variable {σ : Type} {h : Host σ} {u v w : World σ}

/-! ## What some sessions leave -/

/-- What is left of a standing after some sessions: the state and the id are those of the last of
them, the nodes those of the last one that establishes. -/
def Standing.following (start : Standing) (sessions : List Session) : Standing :=
  let last := sessions.getLast?
  let establishing := (sessions.filter (·.state = .established)).getLast?
  { state := last.elim start.state (·.state)
    id := last.elim start.id (·.header.id)
    localNode := establishing.elim start.localNode (·.header.recipient)
    remoteNode := establishing.elim start.remoteNode (·.header.sender) }

theorem Standing.following_snoc (start : Standing) (sessions : List Session) (session : Session) :
    start.following (sessions ++ [session]) = (start.following sessions).after session := by
  by_cases hestablished : session.state = .established
  · simp [following, after, hestablished]
  · simp [following, after, hestablished]

theorem Standing.foldl_after (start : Standing) (sessions : List Session) :
    sessions.foldl after start = start.following sessions := by
  induction sessions using List.reverseRecOn with
  | nil => rfl
  | append_singleton sessions session ih =>
    rw [List.foldl_append, ih, following_snoc]
    rfl

/-- The session that a step hands in. -/
def Step.session? : Step → Option Session
  | .request (.receive (.session session)) | .request (.raise (.session session)) => some session
  | _ => none

/-- Whether the program gives up the channel in a step. -/
def Step.isDrop : Step → Bool
  | .request .drop => true
  | _ => false

namespace World

/-! ## Sessions that come in -/

/-- The session that comes in at a step, if the channel is there to take it. -/
def taking (step : Step) (w : World σ) : Option Session :=
  match step with
  | .request (.receive (.session session)) => if w.held then some session else none
  | .request (.raise (.session session)) => if w.alive then some session else none
  | _ => none

/-- The sessions that come in during a run, in order. -/
def sessionsTaken (h : Host σ) : List Step → World σ → List Session
  | [], _ => []
  | step :: steps, w => (w.taking step).toList ++ sessionsTaken h steps (w.step h step).2

theorem taking_of_plain {request : Request} (hplain : request.isPlain = true) (w : World σ) :
    w.taking (.request request) = none := by
  cases request with
  | receive envelope | raise envelope =>
    cases envelope with
    | session session => cases hplain
    | message | notification | command => rfl
  | _ => rfl

/-! ## What happens beside -/

/-- A session may have been taken over; nothing else has happened to the standing, nor to the hold
that the program has of the channel. -/
structure Takes (session? : Option Session) (v w : World σ) : Prop where
  standing : w.channel.standing = session?.elim v.channel.standing v.channel.standing.after
  held : w.held = v.held

theorem Takes.andThen {session? : Option Session} (huv : Takes session? u v)
    (hvw : Takes none v w) : Takes session? u w :=
  ⟨hvw.standing.trans huv.standing, hvw.held.trans huv.held⟩

theorem Takes.after {session? : Option Session} (huv : Takes none u v)
    (hvw : Takes session? v w) : Takes session? u w := by
  refine ⟨?_, hvw.held.trans huv.held⟩
  have hstanding : v.channel.standing = u.channel.standing := huv.standing
  rw [hvw.standing, hstanding]

theorem takes_transmit (envelope : Envelope) (isActivity : Bool) (w : World σ) :
    Takes none w (w.transmit envelope isActivity).2 := by
  unfold transmit
  cases isActivity <;> dsimp only <;> split <;> exact ⟨rfl, rfl⟩

theorem takes_opened (envelope : Envelope) (w : World σ) : Takes none w (w.opened envelope) := by
  unfold opened
  split <;> exact ⟨rfl, rfl⟩

theorem takes_struck (w : World σ) : Takes none w w.struck := by
  unfold struck severed
  dsimp only
  split
  · exact ⟨rfl, rfl⟩
  · split <;> exact ⟨rfl, rfl⟩

theorem takes_begun {request : Request} (hkept : Step.isDrop (.request request) = false)
    (w : World σ) : Takes none w (w.begun request) := by
  unfold begun
  split
  · exact ⟨rfl, rfl⟩
  · cases request with
    | receive envelope => exact takes_opened envelope w
    | raise envelope =>
      dsimp only
      split
      · exact takes_opened envelope w
      · exact ⟨rfl, rfl⟩
    | drop => cases hkept
    | _ => exact ⟨rfl, rfl⟩

section

variable (hh : h.IsReserved)
include hh

theorem carries_takes : Carries (fun _ => False) h (Takes (σ := σ) none) where
  still hstill := ⟨hstill.standing, congrArg Pulse.held hstill.pulse⟩
  trans := Takes.andThen
  call call w _ := by
    obtain ⟨user, huser⟩ := hh.callOut call w
    rw [huser]
    exact ⟨rfl, rfl⟩
  retire _ _ _ := ⟨rfl, rfl⟩
  transform kind name direction item w := by
    obtain ⟨user, huser⟩ := hh.transform kind name direction item w
    rw [huser]
    exact ⟨rfl, rfl⟩
  transmit envelope w := takes_transmit envelope true w
  register _ _ _ := ⟨rfl, rfl⟩
  unregister _ _ _ := ⟨rfl, rfl⟩
  taken _ := ⟨rfl, rfl⟩

theorem takes_callOut (call : Call) (w : World σ) : Takes none w (w.callOut h call) := by
  obtain ⟨user, huser⟩ := hh.callOut call w
  rw [huser]
  exact ⟨rfl, rfl⟩

theorem takes_closeLink (w : World σ) : Takes none w (w.closeLink h).2 := by
  rw [closeLink_eq]
  split
  · exact (takes_struck w).andThen
      (deliverClose_hears (carries_takes hh).toHears (fun _ _ => takes_callOut hh _) _)
  · exact takes_struck w

/-! ## Requests -/

/-- The session is taken over before anything else is done about it. -/
theorem takes_receiveSession (session : Session) (w : World σ) :
    Takes (some session) w (w.receiveSession h session) := by
  have htaken : Takes (some session) w
      (w.modify fun channel => { channel with standing := channel.standing.after session }) :=
    ⟨rfl, rfl⟩
  have hdelivered := deliverSession_carries (carries_takes hh) session
    (fun name => takes_callOut hh (.listener name (.envelope (.session session))))
  unfold receiveSession
  dsimp only
  split
  · have hstopped : Takes none
        (w.modify fun channel => { channel with standing := channel.standing.after session })
        (w.modify fun channel =>
          { channel with standing := channel.standing.after session }).stopKeepAlive := ⟨rfl, rfl⟩
    exact ((htaken.andThen hstopped).andThen (takes_closeLink hh _)).andThen (hdelivered _)
  · exact htaken.andThen (hdelivered _)

theorem takes_receive_session (session : Session) (w : World σ) :
    Takes (some session) w (w.receive h (.session session)).2 := by
  have htouched : Takes none w w.touch := ⟨rfl, rfl⟩
  exact htouched.after (takes_receiveSession hh session w.touch)

theorem takes_close (w : World σ) : Takes none w (w.close h).2 := by
  have hstopped : Takes none w w.stopKeepAlive := ⟨rfl, rfl⟩
  have hclosed := hstopped.andThen (takes_closeLink hh w.stopKeepAlive)
  unfold close
  split <;> rename_i heq <;> rwa [heq] at hclosed

theorem takes_perform {request : Request} (hkept : Step.isDrop (.request request) = false)
    (w : World σ) : Takes (w.taking (.request request)) w (w.perform h request).2 := by
  by_cases hplain : request.isPlain = true
  · rw [taking_of_plain hplain]
    exact (takes_begun hkept w).andThen
      (perform_carries (carries_takes hh) hplain (fun _ _ => id) w)
  -- What is left hands in a session, or closes the link and calls those who wait for that.
  · unfold perform
    cases request with
    | receive envelope =>
      cases envelope with
      | session session =>
        show Takes (if w.held then some session else none) w _
        cases hheld : w.held with
        | false => exact ⟨rfl, rfl⟩
        | true => exact takes_receive_session hh session w
      | message | notification | command => exact absurd rfl hplain
    | raise envelope =>
      cases envelope with
      | session session =>
        show Takes (if w.alive then some session else none) w (w.raise h (.session session))
        unfold raise
        split
        · exact takes_receive_session hh session w
        · exact ⟨rfl, rfl⟩
      | message | notification | command => exact absurd rfl hplain
    | close =>
      show Takes none w _
      cases hheld : w.held with
      | false => exact ⟨rfl, rfl⟩
      | true => exact takes_close hh w
    | closeLink => exact takes_closeLink hh w
    | _ => exact absurd rfl hplain

/-! ## Time -/

theorem takes_tick (w : World σ) : Takes none w (w.tick h) := by
  have hdrawn : Takes none w w.drawId.2 := ⟨rfl, rfl⟩
  have hpinged := hdrawn.andThen (sendUnchecked_carries (carries_takes hh)
    (fun envelope => takes_transmit envelope false) .command (.ping w.drawId.1) w.drawId.2)
  unfold tick
  split
  · exact ⟨rfl, rfl⟩
  · split
    · exact (takes_closeLink hh w).andThen ⟨rfl, rfl⟩
    · split
      · exact hpinged
      · exact ⟨rfl, rfl⟩

theorem takes_ticks (interval count time : Nat) (w : World σ) :
    Takes none w (w.ticks h interval count time) := by
  induction count generalizing time w with
  | zero => exact ⟨rfl, rfl⟩
  | succ count ih =>
    have hclock : Takes none w { w with now := time } := ⟨rfl, rfl⟩
    unfold ticks
    split
    · exact (hclock.andThen (takes_tick hh _)).andThen (ih _ _)
    · exact ⟨rfl, rfl⟩

theorem takes_advance (duration : Nat) (w : World σ) : Takes none w (w.advance h duration) := by
  unfold advance
  dsimp only
  split
  · exact ⟨rfl, rfl⟩
  · exact (takes_ticks hh _ _ _ w).andThen ⟨rfl, rfl⟩

/-! ## Runs -/

theorem takes_step {step : Step} (hkept : step.isDrop = false) (w : World σ) :
    Takes (w.taking step) w (w.step h step).2 := by
  have hsettled : ∀ v : World σ, Takes none v v.settle := fun v => by
    rw [settle_eq]
    exact ⟨rfl, rfl⟩
  cases step with
  | request request => exact (takes_perform hh hkept w).andThen (hsettled _)
  | await establishment name =>
    have hwaiting : Takes none w { w with waiting := w.waiting + 1 } := ⟨rfl, rfl⟩
    refine Takes.andThen (?_ : Takes none w (Prod.snd (ite _ _ _))) (hsettled _)
    split
    · exact hwaiting.andThen (await_carries (carries_takes hh) establishment name w)
    · exact ⟨rfl, rfl⟩
  | advance duration => exact (takes_advance hh duration w).andThen (hsettled _)

theorem standing_step (step : Step) (w : World σ) :
    (w.step h step).2.channel.standing =
      (w.taking step).elim w.channel.standing w.channel.standing.after := by
  cases hdrop : step.isDrop with
  | false => exact (takes_step hh hdrop w).standing
  | true =>
    have hstep : step = .request .drop := by
      unfold Step.isDrop at hdrop
      split at hdrop
      · rfl
      · cases hdrop
    subst hstep
    show (settle _).channel.standing = _
    rw [settle_eq]
    rfl

theorem standing_after (steps : List Step) (w : World σ) :
    (w.after h steps).channel.standing =
      (w.sessionsTaken h steps).foldl Standing.after w.channel.standing := by
  induction steps generalizing w with
  | nil => rfl
  | cons step steps ih =>
    show ((w.step h step).2.after h steps).channel.standing = _
    rw [ih, standing_step hh, sessionsTaken, List.foldl_append]
    cases w.taking step <;> rfl

/-- As long as the program holds the channel, every session that is handed in comes in. -/
theorem sessionsTaken_of_held {steps : List Step} (hkept : ∀ step ∈ steps, step.isDrop = false)
    {w : World σ} (hheld : w.held = true) :
    w.sessionsTaken h steps = steps.filterMap Step.session? := by
  -- The hold outlives every step, so the induction is over all worlds that are held.
  have halive : w.alive = true := by simp [alive, hheld]
  induction steps generalizing w with
  | nil => rfl
  | cons step steps ih =>
    obtain ⟨hstep, hrest⟩ := List.forall_mem_cons.mp hkept
    have hheld' : (w.step h step).2.held = true := (takes_step hh hstep w).held.trans hheld
    have htaken : w.taking step = step.session? := by
      unfold taking Step.session?
      split <;> simp_all
    rw [sessionsTaken, ih hrest hheld' (by simp [alive, hheld']), htaken]
    cases hsession : step.session? <;> simp [hsession]

end

/-- A run leaves a standing that depends on the start and on the sessions that come in, and on
nothing else: neither on what else happens, nor on the channel, its link or the program.  As long as
the program holds the channel, the sessions that come in are those that are handed in. -/
theorem standing_follows_sessions (hh : h.IsReserved) (steps : List Step) (w : World σ) :
    (w.after h steps).channel.standing =
      w.channel.standing.following (w.sessionsTaken h steps) ∧
    (w.held = true → (∀ step ∈ steps, step.isDrop = false) →
      w.sessionsTaken h steps = steps.filterMap Step.session?) ∧
    ∀ {τ : Type} {h' : Host τ} (_ : h'.IsReserved) (steps' : List Step) (w' : World τ),
      w'.channel.standing = w.channel.standing →
      w'.sessionsTaken h' steps' = w.sessionsTaken h steps →
      (w'.after h' steps').channel.standing = (w.after h steps).channel.standing := by
  have hfollows : (w.after h steps).channel.standing =
      w.channel.standing.following (w.sessionsTaken h steps) := by
    rw [standing_after hh, Standing.foldl_after]
  refine ⟨hfollows, fun hheld hkept => sessionsTaken_of_held hh hkept hheld, ?_⟩
  intro τ h' hh' steps' w' hstanding hsessions
  rw [hfollows, standing_after hh', Standing.foldl_after, hstanding, hsessions]

/-- A session that establishes, between nodes. -/
def openingSession : Session where
  header := {
    id := some "1"
    sender := some { place := some "server" }
    recipient := some { place := some "client" } }
  state := .established

/-- A session that moves on, with other nodes. -/
def leavingSession : Session where
  header := { id := some "2", sender := some { place := some "elsewhere" } }
  state := .finishing

/-- The sessions come in among other traffic: sends that fail and sends that do not, a message and a
ping that are answered, a close, and operations in states in which they are refused. -/
def eventfulSteps : List Step :=
  [.request (.negotiate .off .off),
    .request (.receive (.session openingSession)),
    .request (.receive (.message (.of "m" "text/plain" .null))),
    .request (.raise (.command (.ping "p"))),
    .request (.send (.session leavingSession)),
    .request .close,
    .request .finish,
    .request (.receive (.session leavingSession)),
    .advance 60000]

def bareSteps : List Step :=
  [.request (.raise (.session openingSession)), .request (.raise (.session leavingSession))]

theorem standing_follows_sessions_eventful :
    let eventful : World Nat := {
      channel := {
        settings := { answersPings := true, notifiesReceipt := true }
        pipelines := ⟨⟨[.receipt, .named "gate"]⟩, {}, {}⟩
        keepAlive := .running }
      link := { failingSends := [1] }
      user := 0 }
    let bare : World Unit := { user := () }
    (countingProgram.host 1).IsReserved ∧
      (eventful.after (countingProgram.host 1) eventfulSteps).channel.standing = {
        state := .finishing
        id := some "2"
        localNode := some { place := some "client" }
        remoteNode := some { place := some "server" } } ∧
      (bare.after Host.silent bareSteps).channel.standing =
        (eventful.after (countingProgram.host 1) eventfulSteps).channel.standing := by
  intro eventful bare
  have hreserved : (countingProgram.host 1).IsReserved :=
    Program.host_isReserved (fun _ _ => rfl) 1
  obtain ⟨hfollows, hsessions, hsame⟩ :=
    standing_follows_sessions hreserved eventfulSteps eventful
  have htaken : eventful.sessionsTaken (countingProgram.host 1) eventfulSteps =
      [openingSession, leavingSession] := hsessions rfl (by decide)
  have hbare : bare.sessionsTaken Host.silent bareSteps = [openingSession, leavingSession] :=
    (standing_follows_sessions Host.silent_isReserved bareSteps bare).2.1 rfl (by decide)
  refine ⟨hreserved, ?_, ?_⟩
  · rw [hfollows, htaken]
    rfl
  · exact hsame Host.silent_isReserved bareSteps bare rfl (hbare.trans htaken.symm)

end World
end Courier
