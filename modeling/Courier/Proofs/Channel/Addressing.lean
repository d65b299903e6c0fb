/-
The addresses of a message that is received.

A message that comes over a session comes from its far end and goes to its near end, so a peer may
leave out what the session says already.  A channel that is set to complete addresses takes what is
missing from the session, for both addresses of a message unless both are complete; the sender of
the hop is then of no use, and is left out.  `addresses_completed` says what the listeners are told,
whatever the modules are that the message came through.
-/
import Courier.Proofs.Channel.Reception

namespace Courier

/-- An address has the parts that it had before, and takes the others from a source. -/
structure Node.Fills (source before after : Option Node) : Prop where
  isSome : after.isSome = (before.isSome || source.isSome)
  name : after.bind (·.identity.name) =
    (before.bind (·.identity.name)).or (source.bind (·.identity.name))
  domain : after.bind (·.identity.domain) =
    (before.bind (·.identity.domain)).or (source.bind (·.identity.domain))
  place : after.bind (·.place) = (before.bind (·.place)).or (source.bind (·.place))

/-- A source fills an address in one way only. -/
theorem Node.Fills.unique {source before after other : Option Node}
    (h : Node.Fills source before after) (hother : Node.Fills source before other) :
    after = other := by
  have hsome := h.isSome.trans hother.isSome.symm
  have hname := h.name.trans hother.name.symm
  have hdomain := h.domain.trans hother.domain.symm
  have hplace := h.place.trans hother.place.symm
  cases after with
  | none =>
    cases other with
    | none => rfl
    | some other => cases hsome
  | some after =>
    cases other with
    | none => cases hsome
    | some other =>
      obtain ⟨⟨name, domain⟩, place⟩ := after
      obtain ⟨⟨name', domain'⟩, place'⟩ := other
      obtain rfl : name = name' := hname
      obtain rfl : domain = domain' := hdomain
      obtain rfl : place = place' := hplace
      rfl

theorem Node.fill_self (node : Node) : node.fill node = node := by
  obtain ⟨⟨name, domain⟩, place⟩ := node
  cases name <;> cases domain <;> cases place <;> rfl

/-- Both addresses of a message are complete. -/
def Message.isAddressed (message : Message) : Bool :=
  message.header.sender.any Node.isComplete && message.header.recipient.any Node.isComplete

namespace World

variable {σ : Type} {h : Host σ} {standing : Standing} {message : Message}

/-! ## An address -/

theorem fills_completed (before source : Option Node) :
    Node.Fills source before (completed before source) := by
  cases before <;> cases source <;> constructor <;> simp [completed, Node.fill, Identity.fill]

theorem fills_iff {source before after : Option Node} :
    Node.Fills source before after ↔ after = completed before source :=
  ⟨fun h => h.unique (fills_completed before source), fun h => h ▸ fills_completed before source⟩

theorem completed_completed (before source : Option Node) :
    completed (completed before source) source = completed before source := by
  cases source with
  | none => rfl
  | some source =>
    cases before with
    | none => exact congrArg some source.fill_self
    | some before => exact congrArg some (before.fill_fill source)

theorem isComplete_completed {source : Option Node} (hsource : source.any Node.isComplete = true)
    (before : Option Node) : (completed before source).any Node.isComplete = true := by
  cases source with
  | none => cases hsource
  | some source =>
    cases before with
    | none => exact hsource
    | some before => exact Node.isComplete_fill hsource

/-! ## A message -/

theorem filled_of_isAddressed (haddressed : message.isAddressed = true) :
    filled standing message = message :=
  if_pos haddressed

theorem filled_of_not_isAddressed (haddressed : ¬message.isAddressed = true) :
    filled standing message = { message with
      header := { message.header with
        sender := completed message.header.sender standing.remoteNode
        recipient := completed message.header.recipient standing.localNode
        hop := none } } :=
  if_neg haddressed

theorem filled_filled (standing : Standing) (message : Message) :
    filled standing (filled standing message) = filled standing message := by
  by_cases hfull : (filled standing message).isAddressed = true
  · exact filled_of_isAddressed hfull
  · have hpart : ¬message.isAddressed = true := fun haddressed => by
      rw [filled_of_isAddressed haddressed] at hfull
      exact hfull haddressed
    rw [filled_of_not_isAddressed hfull, filled_of_not_isAddressed hpart]
    simp only [completed_completed]

theorem isAddressed_filled (hremote : standing.remoteNode.any Node.isComplete = true)
    (hlocal : standing.localNode.any Node.isComplete = true) (message : Message) :
    (filled standing message).isAddressed = true := by
  by_cases haddressed : message.isAddressed = true
  · rwa [filled_of_isAddressed haddressed]
  · rw [filled_of_not_isAddressed haddressed]
    exact Bool.and_eq_true_iff.mpr
      ⟨isComplete_completed hremote _, isComplete_completed hlocal _⟩

/-! ## What the listeners are told -/

/-- A message that comes out of the modules is told to all listeners alike.  It is left as it is if
the channel does not complete addresses, or has nothing to complete; otherwise its addresses are
filled from the ends of the session, it has no hop, and nothing else of it has changed.  It is
complete if both ends are, and to complete it again would change nothing. -/
theorem addresses_completed {w v : World σ} {message result : Message}
    (hstate : w.channel.standing.state = .established)
    (hsurvives : Pipeline.through (receivingStep h .message)
      (w.channel.pipelines.get .message).modules message w.touch = (some result, v)) :
    let fills := v.channel.settings.fillsAddresses
    let standing := v.channel.standing
    let delivered := v.addressed .message result
    w.receive h (.message message) =
      (.ok (), (v.taken .message).told h (.envelope (.message delivered))
        (v.channel.listeners.get .message).listeners) ∧
    (fills = false ∨ result.isAddressed = true → delivered = result) ∧
    (fills = true → result.isAddressed = false →
      Node.Fills standing.remoteNode result.header.sender delivered.header.sender ∧
      Node.Fills standing.localNode result.header.recipient delivered.header.recipient ∧
      delivered = { result with
        header := { result.header with
          sender := delivered.header.sender
          recipient := delivered.header.recipient
          hop := none } }) ∧
    (fills = true → standing.remoteNode.any Node.isComplete = true →
      standing.localNode.any Node.isComplete = true → delivered.isAddressed = true) ∧
    v.addressed .message delivered = delivered := by
  intro fills standing delivered
  have hreceive : w.receive h (.message message) = v.arrive h .message result := by
    show w.touch.receiveItem h .message message = _
    rw [receiveItem_through (w := w.touch) hstate,
      show w.touch.channel.pipelines = w.channel.pipelines from rfl, hsurvives]
  have hdelivered : delivered = if fills then filled standing result else result := rfl
  refine ⟨by rw [hreceive]; exact arrive_of_unanswered rfl, ?_, ?_, ?_, ?_⟩
  · intro hunfilled
    cases hfills : fills with
    | false => rw [hdelivered, hfills]; rfl
    | true =>
      rw [hdelivered, hfills, if_pos rfl]
      refine filled_of_isAddressed (hunfilled.resolve_left ?_)
      rw [hfills]
      exact Bool.noConfusion
  · intro hfills haddressed
    rw [hfills, if_pos rfl, filled_of_not_isAddressed (Bool.eq_false_iff.mp haddressed)]
      at hdelivered
    rw [hdelivered]
    exact ⟨fills_iff.mpr rfl, fills_iff.mpr rfl, rfl⟩
  · intro hfills hremote hlocal
    rw [hdelivered, hfills, if_pos rfl]
    exact isAddressed_filled hremote hlocal result
  · show (if fills then filled standing delivered else delivered) = delivered
    cases hfills : fills with
    | false => rfl
    | true => rw [if_pos rfl, hdelivered, hfills, if_pos rfl, filled_filled]

/-- A session between two complete addresses, on a channel that has one module and two listeners for
messages. -/
def postedWorld : World Nat where
  channel := {
    settings := { fillsAddresses := true }
    standing := {
      state := .established
      remoteNode := some ⟨⟨some "postmaster", some "example.org"⟩, some "server"⟩
      localNode := some ⟨⟨some "alice", some "example.org"⟩, some "home"⟩ }
    pipelines := ⟨⟨[.named "stamp"]⟩, {}, {}⟩
    listeners := ⟨⟨[⟨"first", true⟩, ⟨"second", false⟩]⟩, {}, {}⟩ }
  user := 0

theorem addresses_completed_posted :
    let h := countingProgram.host 1
    let message : Message := {
      header := {
        sender := some { identity := { name := some "bob" } }
        hop := some { place := some "relay" } }
      mediaType := "text/plain"
      content := .null }
    let stamped : Message := { message with header := { message.header with id := some "stamp" } }
    let delivered : Message := { stamped with
      header := { stamped.header with
        sender := some ⟨⟨some "bob", some "example.org"⟩, some "server"⟩
        recipient := some ⟨⟨some "alice", some "example.org"⟩, some "home"⟩
        hop := none } }
    let v := postedWorld.passed .receiving { item := some stamped, user := 1, entered := ["stamp"] }
    postedWorld.channel.standing.state = .established ∧
      Pipeline.through (receivingStep h .message) postedWorld.channel.pipelines.message.modules
        message postedWorld.touch = (some stamped, v) ∧
      v.addressed .message stamped = delivered ∧
      v.addressed .message delivered = delivered ∧
      (postedWorld.receive h (.message message)).2.trace = [.entered "stamp" .receiving,
        .notified "first" (.envelope (.message delivered)),
        .notified "second" (.envelope (.message delivered))] := by
  intro h message stamped delivered v
  have hsurvives : Pipeline.through (receivingStep h .message)
      postedWorld.channel.pipelines.message.modules message postedWorld.touch = (some stamped, v) :=
    rfl
  have hdelivered : v.addressed .message stamped = delivered := rfl
  obtain ⟨hreceive, _, _, _, hagain⟩ := addresses_completed (w := postedWorld) rfl hsurvives
  rw [hdelivered] at hreceive hagain
  refine ⟨rfl, hsurvives, hdelivered, hagain, ?_⟩
  rw [hreceive]
  rfl

end World
end Courier
