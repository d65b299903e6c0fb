/-
What the operations of a channel ask for before they try anything.

An operation belongs to a state of the session, and those that show an identity need its name and its
domain (`Request.demand?`).  `refusal_exact` says that an operation fails for want of these if and
only if one of them is wanting, that the error names the first that is, and that the world is left as
it was: nothing is registered, entered, sent, or counted as activity.  So an operation that has tried
something never fails for these reasons afterwards, whatever its modules do meanwhile.
-/
import Courier.Proofs.Channel.Hosts

namespace Courier

/-! ## Demands -/

/-- What an operation asks for before it tries anything. -/
structure Demand where
  /-- The operation, as messages say it. -/
  operation : String
  /-- The state that the session is to be in. -/
  state : SessionState
  /-- The identity that is shown. -/
  identity? : Option Identity := none

/-- What a request asks for, if it is for an operation that belongs to a state. -/
def Request.demand? : Request → Option Demand
  | .send (.message _) => some { operation := "send a message", state := .established }
  | .send (.notification _) | .notifyReceived .. =>
    some { operation := "send a notification", state := .established }
  | .send (.command _) => some { operation := "send a command", state := .established }
  | .startSession _ => some { operation := "start a session", state := .new }
  | .negotiate .. => some { operation := "negotiate a session", state := .negotiating }
  | .authenticate identity .. =>
    some { operation := "authenticate a session", state := .authenticating, identity? := identity }
  | .finish => some { operation := "finish a session", state := .established }
  | .establish establishment _ =>
    some {
      operation := "establish a session"
      state := .new
      identity? := establishment.identity }
  | _ => none

namespace Demand

variable {demand : Demand} {standing : Standing} {error : ChannelError}

/-- What is wanting first, as errors say it. -/
inductive Wants (demand : Demand) (standing : Standing) : ChannelError → Prop where
  | state : standing.state ≠ demand.state →
      Wants demand standing (.invalidState demand.operation standing.state)
  | name {identity : Identity} : standing.state = demand.state → identity ∈ demand.identity? →
      identity.name = none → Wants demand standing (.missingArgument .identityName)
  | domain {identity : Identity} : standing.state = demand.state → identity ∈ demand.identity? →
      identity.name ≠ none → identity.domain = none →
      Wants demand standing (.missingArgument .identityDomain)

/-- Something is wanting if the session is in another state, or the identity has no name or no
domain. -/
theorem wants_iff : (∃ error, demand.Wants standing error) ↔
    standing.state ≠ demand.state ∨
      ∃ identity ∈ demand.identity?, identity.name = none ∨ identity.domain = none := by
  constructor
  · intro hwanting
    obtain ⟨error, hwants⟩ := hwanting
    cases hwants with
    | state hstate => exact .inl hstate
    | name _ hmem hname => exact .inr ⟨_, hmem, .inl hname⟩
    | domain _ hmem _ hdomain => exact .inr ⟨_, hmem, .inr hdomain⟩
  · intro hwanting
    by_cases hstate : standing.state = demand.state
    · obtain hother | ⟨identity, hmem, hmissing⟩ := hwanting
      · exact absurd hstate hother
      · by_cases hname : identity.name = none
        · exact ⟨_, .name hstate hmem hname⟩
        · exact ⟨_, .domain hstate hmem hname (hmissing.resolve_left hname)⟩
    · exact ⟨_, .state hstate⟩

theorem Wants.isPrecondition (hwants : demand.Wants standing error) :
    error.isPrecondition = true := by
  cases hwants <;> rfl

theorem checkIdentity_eq_error_iff {identity : Identity} :
    World.checkIdentity identity = .error error ↔
      identity.name = none ∧ error = .missingArgument .identityName ∨
        identity.name ≠ none ∧ identity.domain = none ∧
          error = .missingArgument .identityDomain := by
  unfold World.checkIdentity
  cases identity.name <;> cases identity.domain <;> simp [eq_comm]

theorem wants_of_ne (hstate : standing.state ≠ demand.state) :
    demand.Wants standing error ↔
      .invalidState demand.operation standing.state = error := by
  constructor
  · intro hwants
    cases hwants with
    | state => rfl
    | name hsame => exact absurd hsame hstate
    | domain hsame => exact absurd hsame hstate
  · intro herror
    rw [← herror]
    exact .state hstate

theorem wants_of_eq (hstate : standing.state = demand.state) :
    demand.Wants standing error ↔
      ∃ identity ∈ demand.identity?, World.checkIdentity identity = .error error := by
  simp only [checkIdentity_eq_error_iff]
  constructor
  · intro hwants
    cases hwants with
    | state hother => exact absurd hstate hother
    | name _ hmem hname => exact ⟨_, hmem, .inl ⟨hname, rfl⟩⟩
    | domain _ hmem hname hdomain => exact ⟨_, hmem, .inr ⟨hname, hdomain, rfl⟩⟩
  · intro hfails
    obtain ⟨identity, hmem, ⟨hname, herror⟩ | ⟨hname, hdomain, herror⟩⟩ := hfails
    · rw [herror]
      exact .name hstate hmem hname
    · rw [herror]
      exact .domain hstate hmem hname hdomain

/-- What an operation that makes a demand checks. -/
def check (demand : Demand) (standing : Standing) : Except ChannelError Unit :=
  match standing.ensure demand.state demand.operation, demand.identity? with
  | .error error, _ => .error error
  | .ok (), none => .ok ()
  | .ok (), some identity => World.checkIdentity identity

theorem check_eq_error_iff :
    demand.check standing = .error error ↔ demand.Wants standing error := by
  unfold check Standing.ensure
  by_cases hstate : standing.state = demand.state
  · rw [wants_of_eq hstate, if_pos hstate]
    cases demand.identity? <;> simp
  · rw [wants_of_ne hstate, if_neg hstate]
    simp

end Demand

theorem Reply.ofChannel_eq_failed_iff {result : Except ChannelError Unit} {error : ChannelError} :
    Reply.ofChannel result = .failed error ↔ result = .error error := by
  cases result <;> simp [Reply.ofChannel]

namespace World

variable {σ : Type} {h : Host σ} {w : World σ} {demand : Demand}

/-- An operation asks for what is demanded before it tries anything, and for nothing more
afterwards. -/
def Meets (demand : Demand) (w : World σ) (answer : Except ChannelError Unit × World σ) : Prop :=
  match demand.check w.channel.standing with
  | .error error => answer = (.error error, w)
  | .ok () => ∀ error, answer.1 = .error error → error.isPrecondition = false

theorem transmit_error {envelope : Envelope} {isActivity : Bool} {error : ChannelError}
    (herror : (w.transmit envelope isActivity).1 = .error error) :
    error.isPrecondition = false := by
  unfold transmit at herror
  dsimp only at herror
  split at herror
  · cases herror
  · cases herror
    rfl

/-! ## The operations -/

theorem sendItem_meets (kind : Traffic) (item : kind.Item) :
    Meets { operation := "send a " ++ kind.word, state := .established } w
      (w.sendItem h kind item) := by
  unfold Meets Demand.check sendItem
  cases w.channel.standing.ensure .established ("send a " ++ kind.word) with
  | error error => rfl
  | ok =>
    intro error herror
    unfold sendUnchecked at herror
    dsimp only at herror
    split at herror
    · exact transmit_error herror
    · cases herror

theorem negotiate_meets (compression : Compression) (encryption : Encryption) :
    Meets { operation := "negotiate a session", state := .negotiating } w
      (w.negotiate compression encryption) := by
  unfold Meets Demand.check negotiate
  cases w.channel.standing.ensure .negotiating "negotiate a session" with
  | error error => rfl
  | ok => exact fun _ herror => transmit_error herror

theorem finishSession_meets :
    Meets { operation := "finish a session", state := .established } w w.finishSession := by
  unfold Meets Demand.check finishSession
  cases w.channel.standing.ensure .established "finish a session" with
  | error error => rfl
  | ok => exact fun _ herror => transmit_error herror

theorem authenticate_meets (identity : Identity) (authentication : Authentication)
    (place : Option String) :
    Meets {
        operation := "authenticate a session"
        state := .authenticating
        identity? := identity } w
      (w.authenticate identity authentication place) := by
  unfold Meets Demand.check authenticate
  cases w.channel.standing.ensure .authenticating "authenticate a session" with
  | error error => rfl
  | ok =>
    dsimp only
    cases checkIdentity identity with
    | error error => rfl
    | ok => exact fun _ herror => transmit_error herror

theorem startSession_error {listener : Subscriber} {error : ChannelError}
    (hnew : w.channel.standing.state = .new)
    (herror : (w.startSession listener).1 = .error error) : error.isPrecondition = false := by
  rw [startSession_of_new hnew] at herror
  split at herror
  · cases herror
  · rename_i hsent
    cases herror
    exact transmit_error (congrArg Prod.fst hsent)

theorem startSession_meets (listener : Subscriber) :
    Meets { operation := "start a session", state := .new } w (w.startSession listener) := by
  unfold Meets Demand.check
  dsimp only
  cases hstate : w.channel.standing.ensure .new "start a session" with
  | error error =>
    unfold startSession
    rw [hstate]
  | ok => exact fun _ herror => startSession_error (ensure_eq_ok.mp hstate) herror

theorem establish_meets (establishment : Establishment) (reporter : Reporter) :
    Meets {
        operation := "establish a session"
        state := .new
        identity? := establishment.identity } w
      (w.establish establishment reporter) := by
  unfold Meets Demand.check establish
  cases hstate : w.channel.standing.ensure .new "establish a session" with
  | error error => rfl
  | ok =>
    dsimp only
    cases checkIdentity establishment.identity with
    | error error => rfl
    | ok =>
      intro error herror
      dsimp only at herror
      split at herror
      · cases herror
      · rename_i hstarted
        cases herror
        exact startSession_error (by exact ensure_eq_ok.mp hstate) (congrArg Prod.fst hstarted)

/-- A request that makes a demand is for an operation that asks for it. -/
theorem answer_meets {request : Request} (hdemand : request.demand? = some demand) :
    ∃ answer, Meets demand w answer ∧
      w.answer h request = (Reply.ofChannel answer.1, answer.2) := by
  cases request with
  | send envelope =>
    cases envelope with
    | message m =>
      cases hdemand
      exact ⟨_, sendItem_meets .message m, rfl⟩
    | notification n =>
      cases hdemand
      exact ⟨_, sendItem_meets .notification n, rfl⟩
    | command c =>
      cases hdemand
      exact ⟨_, sendItem_meets .command c, rfl⟩
    | session s => cases hdemand
  | notifyReceived id recipient =>
    cases hdemand
    exact ⟨_, sendItem_meets .notification _, rfl⟩
  | startSession name =>
    cases hdemand
    exact ⟨_, startSession_meets (.named name), rfl⟩
  | negotiate compression encryption =>
    cases hdemand
    exact ⟨_, negotiate_meets compression encryption, rfl⟩
  | authenticate identity authentication place =>
    cases hdemand
    exact ⟨_, authenticate_meets identity authentication place, rfl⟩
  | finish =>
    cases hdemand
    exact ⟨_, finishSession_meets, rfl⟩
  | establish establishment name =>
    cases hdemand
    exact ⟨_, establish_meets establishment (.callback name), rfl⟩
  | _ => cases hdemand

theorem Meets.refused {answer : Except ChannelError Unit × World σ} {error : ChannelError}
    (hmeets : Meets demand w answer) (hwants : demand.Wants w.channel.standing error) :
    answer = (.error error, w) := by
  unfold Meets at hmeets
  rwa [Demand.check_eq_error_iff.mpr hwants] at hmeets

theorem Meets.wanting {answer : Except ChannelError Unit × World σ} {error : ChannelError}
    (hmeets : Meets demand w answer) (herror : answer.1 = .error error)
    (hprecondition : error.isPrecondition = true) :
    ∃ error, demand.Wants w.channel.standing error := by
  unfold Meets at hmeets
  cases hcheck : demand.check w.channel.standing with
  | error error => exact ⟨error, Demand.check_eq_error_iff.mp hcheck⟩
  | ok =>
    rw [hcheck] at hmeets
    rw [hmeets error herror] at hprecondition
    cases hprecondition

/-- An operation fails with an error that says that something is wanting if and only if that is so.
The error says what, and nothing has happened. -/
theorem refusal_exact {request : Request} (hdemand : request.demand? = some demand)
    (hheld : w.held = true) :
    ((∃ error, (w.perform h request).1 = .failed error ∧ error.isPrecondition = true) ↔
      w.channel.standing.state ≠ demand.state ∨
        ∃ identity ∈ demand.identity?, identity.name = none ∨ identity.domain = none) ∧
    ∀ error, demand.Wants w.channel.standing error → w.perform h request = (.failed error, w) := by
  obtain ⟨answer, hmeets, hanswer⟩ := answer_meets (h := h) (w := w) hdemand
  have hperform : w.perform h request = (Reply.ofChannel answer.1, answer.2) := by
    unfold perform
    rw [hheld, Bool.not_true, Bool.and_false, if_neg Bool.false_ne_true, hanswer]
  have hrefused : ∀ error, demand.Wants w.channel.standing error →
      w.perform h request = (.failed error, w) := by
    intro error hwants
    rw [hperform, hmeets.refused hwants]
    rfl
  refine ⟨?_, hrefused⟩
  rw [← Demand.wants_iff]
  constructor
  · intro h
    obtain ⟨error, hfailed, hprecondition⟩ := h
    rw [hperform] at hfailed
    exact hmeets.wanting (Reply.ofChannel_eq_failed_iff.mp hfailed) hprecondition
  · intro h
    obtain ⟨error, hwants⟩ := h
    exact ⟨error, by rw [hrefused error hwants], hwants.isPrecondition⟩

/-- A channel that is asked to show who it is. -/
def challengedWorld : World Unit where
  channel := { standing := { state := .authenticating, id := some "1" } }
  user := ()

theorem refusal_exact_challenged :
    let request := Request.authenticate { name := some "ann" } .guest none
    (∃ demand, request.demand? = some demand) ∧ challengedWorld.held = true ∧
      challengedWorld.perform Host.silent request =
        (.failed (.missingArgument .identityDomain), challengedWorld) := by
  intro request
  have hdemand : request.demand? = some ⟨_, .authenticating, some { name := some "ann" }⟩ := rfl
  obtain ⟨_, hrefused⟩ := refusal_exact (h := Host.silent) (w := challengedWorld) hdemand rfl
  exact ⟨⟨_, hdemand⟩, rfl, hrefused _ (.domain rfl rfl (by decide) rfl)⟩

end World
end Courier
