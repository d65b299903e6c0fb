/-
What comes of an envelope that is received.

A message, notification or command is refused unless the session is established.  Otherwise it goes
through the modules of its kind, and what comes out of them is taken to the listeners of its kind,
each in its turn; those that listen once are unregistered before the first of them is called.  An
item that is swallowed leaves the listeners as they were.  `reception_course` says so of all three
kinds at once, for any modules that are functions with a state, and says what else changes: nothing.
-/
import Courier.Proofs.Channel.Transit

namespace Courier
namespace World

variable {σ : Type} {h : Host σ} {treat : Treatment σ}

/-! ## Delivery -/

/-- A delivery has taken its listeners: those of one delivery are unregistered. -/
def taken (kind : Traffic) (w : World σ) : World σ :=
  w.modify fun channel => { channel with
    listeners := channel.listeners.set kind (channel.listeners.get kind).withoutOnce }

/-- Listeners are called with a notice, one after the other. -/
def told (h : Host σ) (notice : Notice) (names : List Name) (w : World σ) : World σ :=
  names.foldl
    (fun w name => (w.record (.notified name notice)).callOut h (.listener name notice)) w

theorem told_cons (notice : Notice) (name : Name) (names : List Name) (w : World σ) :
    w.told h notice (name :: names) =
      ((w.record (.notified name notice)).callOut h (.listener name notice)).told h notice names :=
  rfl

/-- Listeners that leave the channel alone change nothing but the state of the program. -/
theorem told_reserved (hh : h.IsReserved) (notice : Notice) (names : List Name) (w : World σ) :
    ∃ user, w.told h notice names =
      { w with user, trace := w.trace ++ names.map fun name => .notified name notice } := by
  induction names generalizing w with
  | nil => exact ⟨w.user, by simp [told]⟩
  | cons name names ih =>
    obtain ⟨user, hcalled⟩ :=
      hh.callOut (.listener name notice) (w.record (.notified name notice))
    obtain ⟨user', hrest⟩ := ih { w.record (.notified name notice) with user }
    refine ⟨user', ?_⟩
    rw [told_cons, hcalled, hrest]
    simp [record, List.append_assoc]

/-- What listeners are told of an item: a message has its addresses completed, if the channel is set
to do that. -/
def addressed (w : World σ) : (kind : Traffic) → kind.Item → kind.Item
  | .message, message =>
    if w.channel.settings.fillsAddresses then filled w.channel.standing message else message
  | .notification, notification => notification
  | .command, command => command

/-- Whether the channel answers an item itself: it is a ping, and the channel is set to answer
pings. -/
def answersItself (w : World σ) : (kind : Traffic) → kind.Item → Bool
  | .command, command => w.channel.settings.answersPings && command.isPing
  | .message, _ | .notification, _ => false

theorem arrive_of_unanswered {kind : Traffic} {item : kind.Item} {w : World σ}
    (hunanswered : w.answersItself kind item = false) :
    w.arrive h kind item =
      (.ok (), (w.taken kind).told h (.envelope (kind.envelope (w.addressed kind item)))
        (w.channel.listeners.get kind).listeners) := by
  cases kind with
  | message | notification => rfl
  | command =>
    have hnot : ¬(w.channel.settings.answersPings && Command.isPing item) = true :=
      Bool.eq_false_iff.mp hunanswered
    unfold arrive
    dsimp only
    rw [if_neg hnot]
    rfl

/-! ## Reception -/

theorem receive_item (kind : Traffic) (item : kind.Item) (w : World σ) :
    w.receive h (kind.envelope item) = w.touch.receiveItem h kind item := by
  cases kind <;> rfl

theorem receiveItem_of_refused {kind : Traffic} {w : World σ}
    (hstate : w.channel.standing.state ≠ .established) (item : kind.Item) :
    w.receiveItem h kind item =
      (.error (.invalidState ("receive a " ++ kind.word) w.channel.standing.state), w) := by
  unfold receiveItem Standing.ensure
  rw [if_neg hstate]

theorem receiveItem_through {kind : Traffic} {w : World σ}
    (hstate : w.channel.standing.state = .established) (item : kind.Item) :
    w.receiveItem h kind item =
      match Pipeline.through (receivingStep h kind) (w.channel.pipelines.get kind).modules item w with
      | (some item, w) => w.arrive h kind item
      | (none, w) => (.ok (), w) := by
  have hensured : w.channel.standing.ensure .established ("receive a " ++ kind.word) = .ok () :=
    if_pos hstate
  unfold receiveItem
  split
  · rename_i hrefused
    rw [hensured] at hrefused
    cases hrefused
  · rfl

section Established

variable {kind : Traffic} {item : kind.Item} {w : World σ}
  (ht : h.TreatsOn treat kind .receiving) (hstate : w.channel.standing.state = .established)
  (hstages : Stage.receipt ∉ (w.channel.pipelines.get kind).modules)
include ht hstate hstages

theorem receive_through :
    w.receive h (kind.envelope item) =
      match ((treat.transit kind .receiving (w.modulesOf kind) item w.user).item,
        w.touch.passed .receiving (treat.transit kind .receiving (w.modulesOf kind) item w.user)) with
      | (some item, w) => w.arrive h kind item
      | (none, w) => (.ok (), w) := by
  rw [receive_item, receiveItem_through (w := w.touch) hstate,
    through_receiving_treated (w := w.touch) ht hstages]
  rfl

theorem receive_of_swallowed
    (hitem : (treat.transit kind .receiving (w.modulesOf kind) item w.user).item = none) :
    w.receive h (kind.envelope item) = (.ok (), w.touch.passed .receiving
      (treat.transit kind .receiving (w.modulesOf kind) item w.user)) := by
  rw [receive_through ht hstate hstages, hitem]

/-- What comes out of the modules in an established session arrives. -/
theorem receive_of_passed {result : kind.Item}
    (hitem : (treat.transit kind .receiving (w.modulesOf kind) item w.user).item = some result) :
    w.receive h (kind.envelope item) = (w.touch.passed .receiving
      (treat.transit kind .receiving (w.modulesOf kind) item w.user)).arrive h kind result := by
  rw [receive_through ht hstate hstages, hitem]

end Established

/-- What comes of an item that is received by a channel whose modules are functions with a state.
The listeners may be anything, and use the channel as they like; if they leave it alone, the
registry of the kind and the time of the last activity are all that has changed of it. -/
theorem reception_course (ht : h.Treats treat) (kind : Traffic) (item : kind.Item) (w : World σ)
    (hstages : Stage.receipt ∉ (w.channel.pipelines.get kind).modules) :
    let transit := treat.transit kind .receiving (w.modulesOf kind) item w.user
    let passed := w.touch.passed .receiving transit
    let registry := w.channel.listeners.get kind
    let reception := w.receive h (kind.envelope item)
    (w.channel.standing.state ≠ .established →
      reception =
        (.error (.invalidState ("receive a " ++ kind.word) w.channel.standing.state), w.touch)) ∧
    (w.channel.standing.state = .established → transit.item = none →
      reception = (.ok (), passed) ∧
        passed.channel = { w.channel with lastActivity := w.now }) ∧
    (∀ result, w.channel.standing.state = .established → transit.item = some result →
      w.answersItself kind result = false →
      let notice := Notice.envelope (kind.envelope (w.addressed kind result))
      reception = (.ok (), (passed.taken kind).told h notice registry.listeners) ∧
        (h.IsReserved →
          reception.2.channel = { w.channel with
            lastActivity := w.now
            listeners := w.channel.listeners.set kind registry.withoutOnce } ∧
          reception.2.link = w.link ∧
          reception.2.trace = w.trace ++
            (transit.entered.map fun name => .entered name .receiving) ++
            registry.listeners.map fun name => .notified name notice)) := by
  intro transit passed registry reception
  refine ⟨?_, ?_, ?_⟩
  · intro hstate
    show w.receive h (kind.envelope item) = _
    rw [receive_item]
    exact receiveItem_of_refused (w := w.touch) hstate item
  · intro hstate hswallowed
    exact ⟨receive_of_swallowed (ht.on kind .receiving) hstate hstages hswallowed, rfl⟩
  · intro result hstate hpassed hunanswered notice
    have htold : reception = (.ok (), (passed.taken kind).told h notice registry.listeners) := by
      show w.receive h (kind.envelope item) = _
      rw [receive_of_passed (ht.on kind .receiving) hstate hstages hpassed]
      exact arrive_of_unanswered (w := passed) hunanswered
    refine ⟨htold, fun hreserved => ?_⟩
    obtain ⟨user, hcalled⟩ := told_reserved hreserved notice registry.listeners (passed.taken kind)
    rw [htold, hcalled]
    exact ⟨rfl, rfl, rfl⟩

/-- A channel of an established session that completes addresses, with two modules and two listeners
for messages. -/
def attendedWorld : World Nat where
  channel := {
    settings := { fillsAddresses := true }
    standing := { state := .established, remoteNode := some { place := some "phone" } }
    pipelines := ⟨⟨[.named "gate", .named "stamp"]⟩, {}, {}⟩
    listeners := ⟨⟨[⟨"first", true⟩, ⟨"second", false⟩]⟩, {}, {}⟩ }
  user := 0

theorem reception_course_attended :
    let message : Message := { mediaType := "text/plain", content := .null }
    let stamped : Message := { message with
      header := { id := some "stamp", sender := some { place := some "phone" } } }
    let reception := attendedWorld.receive (countingProgram.host 1) (.message message)
    attendedWorld.channel.standing.state = .established ∧
      Stage.receipt ∉ attendedWorld.channel.pipelines.message.modules ∧
      reception.2.channel.listeners.message.entries = [⟨"second", false⟩] ∧
      reception.2.trace = [.entered "gate" .receiving, .entered "stamp" .receiving,
        .notified "first" (.envelope (.message stamped)),
        .notified "second" (.envelope (.message stamped))] := by
  intro message stamped reception
  obtain ⟨_, _, htold⟩ := reception_course countingProgram_treats .message message attendedWorld
    (by decide)
  obtain ⟨_, hspared⟩ := htold { message with header := { id := some "stamp" } } rfl rfl rfl
  obtain ⟨hchannel, _, htrace⟩ := hspared (Program.host_isReserved (fun _ _ => rfl) 1)
  have hentries := congrArg (fun channel => channel.listeners.message.entries) hchannel
  exact ⟨rfl, by decide, hentries, htrace⟩

end World
end Courier
