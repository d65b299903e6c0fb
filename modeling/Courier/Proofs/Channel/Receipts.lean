/-
Notices of receipt.

A channel that is set to notify receipt has a module for it before all modules of the program, and
keeps it there (`notifiesReceipt_after`).  So whatever the program's own modules and listeners do, a
message that says what it is called and whom it is from is acknowledged as it came, before anything
else is done with it.  The notice goes the way of all notifications; what becomes of it there is the
same to the message, which goes on to the other modules and to the listeners (`receipts_exact`).
-/
import Courier.Proofs.Channel.Modules
import Courier.Proofs.Channel.Reception

namespace Courier

variable {σ : Type} {h : Host σ} {treat : Treatment σ}

/-- The first module for messages notifies receipt, and all others are modules of the program. -/
def ReceiptFirst (pipelines : PerKind (Pipeline Stage)) : Prop :=
  ∃ names : List Name, pipelines.message.modules = .receipt :: names.map .named

def World.NotifiesReceipt (w : World σ) : Prop :=
  ReceiptFirst w.channel.pipelines

namespace World

/-! ## The module stays where it is -/

theorem lasting_receiptFirst : Lasting ReceiptFirst where
  add := by
    rintro pipelines kind name ⟨names, hmodules⟩
    cases kind with
    | message => exact ⟨names ++ [name], by simp [PerKind.set, PerKind.get, Pipeline.add, hmodules]⟩
    | notification | command => exact ⟨names, hmodules⟩
  remove := by
    rintro pipelines kind name ⟨names, hmodules⟩
    cases kind with
    | message =>
      refine ⟨names.filter (· ≠ name), ?_⟩
      simp [PerKind.set, PerKind.get, Pipeline.remove, hmodules, List.filter_map,
        Function.comp_def]
    | notification | command => exact ⟨names, hmodules⟩

theorem notifiesReceipt_of_create {settings : ChannelSettings} {standing : Standing} {link : Link}
    {driven : Bool} {user : σ} {w : World σ}
    (hcreate : create settings standing link driven user = .ok w)
    (hnotifies : settings.notifiesReceipt = true) : w.NotifiesReceipt := by
  unfold create at hcreate
  split at hcreate
  · cases hcreate
  · obtain rfl := Except.ok.inj hcreate
    refine ⟨[], ?_⟩
    dsimp only
    rw [if_pos hnotifies]
    rfl

theorem notifiesReceipt_after (hh : h.Within NotifiesReceipt) {w : World σ}
    (hw : w.NotifiesReceipt) (steps : List Step) : (w.after h steps).NotifiesReceipt :=
  equipped_after lasting_receiptFirst (fun _ => id) hh steps hw

/-! ## A notice -/

/-- A notice has gone through the modules for notifications that are sent, each of which is entered
with what the one before has made of it.  What came out of them was handed to the link; nothing was,
if the notice was swallowed. -/
def acknowledged (treat : Treatment σ) (notice : Notification) (w : World σ) : World σ :=
  let transit := treat.transit .notification .sending (w.modulesOf .notification) notice w.user
  let handed := transit.item.toList.map .notification
  { w with
    user := transit.user
    link := handed.foldl (fun link envelope => (link.send envelope).2) w.link
    trace := w.trace ++ (transit.entered.map fun name => .entered name .sending) ++
      handed.map (handing w.link) }

theorem acknowledged_eq_posted (notice : Notification) (w : World σ) :
    w.acknowledged treat notice = w.posted treat .notification notice := by
  unfold acknowledged posted
  dsimp only
  cases (treat.transit .notification .sending (w.modulesOf .notification) notice w.user).item <;> rfl

section Treated

variable (ht : h.TreatsOn treat .notification .sending) {w : World σ}
include ht

theorem send_acknowledged (hstate : w.channel.standing.state = .established)
    (notice : Notification) :
    (w.touch.sendItem h .notification notice).2 = w.touch.acknowledged treat notice := by
  unfold sendItem
  rw [ensure_eq_ok.mpr (show w.touch.channel.standing.state = .established from hstate),
    acknowledged_eq_posted]
  exact sendUnchecked_posted ht notice w

/-- The module acknowledges a message that has an id and a sender, and lets all messages pass as they
are, whatever becomes of the notice. -/
theorem receipt_acknowledged (hstate : w.channel.standing.state = .established)
    (message : Message) :
    ∃ before : World σ,
      receivingStep h .message .receipt message w.touch = (some message, before) ∧
      (message.header.id = none ∨ message.header.sender = none → before = w.touch) ∧
      ∀ id sender, message.header.id = some id → message.header.sender = some sender →
        before = w.touch.acknowledged treat {
          header := { id := some id, recipient := some sender }
          event := .received } := by
  unfold receivingStep Traffic.envelope
  dsimp only [Envelope.header]
  cases hid : message.header.id with
  | none => exact ⟨_, rfl, fun _ => rfl, nofun⟩
  | some id =>
    cases hsender : message.header.sender with
    | none => exact ⟨_, rfl, fun _ => rfl, nofun⟩
    | some sender =>
      refine ⟨_, rfl, nofun, ?_⟩
      rintro _ _ ⟨⟩ ⟨⟩
      exact send_acknowledged ht hstate _

end Treated

/-! ## Reception -/

/-- A channel that is created to notify receipt does so for good.  Nothing is known of the callbacks
but where the module stands first, so they are entered nowhere else.  Wherever a message is received
in an established session, then, it has been acknowledged once before it goes on to the other
modules, and to the listeners if it comes out of them; or not at all, if it lacks an id or a sender.
The modules that notices go through are functions with a state, and all else may use the channel as it
likes. -/
theorem receipts_exact {settings : ChannelSettings} {standing : Standing} {link : Link}
    {driven : Bool} {user : σ} {w : World σ}
    (hcreate : create settings standing link driven user = .ok w)
    (hnotifies : settings.notifiesReceipt = true) (hh : h.Within NotifiesReceipt)
    (ht : h.TreatsOn treat .notification .sending) :
    (∀ steps, (w.after h steps).NotifiesReceipt) ∧
    ∀ u : World σ, u.NotifiesReceipt → u.channel.standing.state = .established →
      ∀ message : Message, ∃ before : World σ,
        (message.header.id = none ∨ message.header.sender = none → before = u.touch) ∧
        (∀ id sender, message.header.id = some id → message.header.sender = some sender →
          before = u.touch.acknowledged treat {
            header := { id := some id, recipient := some sender }
            event := .received }) ∧
        u.receive h (.message message) =
          match Pipeline.through (receivingStep h .message)
            u.channel.pipelines.message.modules.tail message before with
          | (some result, v) =>
            (.ok (), (v.taken .message).told h
              (.envelope (.message (v.addressed .message result)))
              v.channel.listeners.message.listeners)
          | (none, v) => (.ok (), v) := by
  refine ⟨notifiesReceipt_after hh (notifiesReceipt_of_create hcreate hnotifies), ?_⟩
  intro u hfirst hstate message
  obtain ⟨before, hstep, hsilent, hnoticed⟩ := receipt_acknowledged ht hstate message
  refine ⟨before, hsilent, hnoticed, ?_⟩
  obtain ⟨names, hmodules⟩ := hfirst
  have hthrough : Pipeline.through (receivingStep h .message)
      (u.touch.channel.pipelines.get .message).modules message u.touch =
        Pipeline.through (receivingStep h .message) (names.map .named) message before := by
    rw [show (u.touch.channel.pipelines.get .message).modules = .receipt :: names.map .named from
      hmodules, Pipeline.through, hstep]
  show u.touch.receiveItem h .message message = _
  rw [receiveItem_through (w := u.touch) hstate, hthrough, hmodules, List.tail_cons]
  split <;> rename_i heq
  · rw [heq]
    exact arrive_of_unanswered rfl
  · rw [heq]

/-- An established session over a closed link, with a module for notices, and two modules and a
listener for messages. -/
def notifyingWorld (count : Nat) : World Nat where
  channel := {
    settings := { notifiesReceipt := true }
    standing := { state := .established }
    pipelines := ⟨⟨[.receipt, .named "stamp", .named "seal"]⟩, ⟨[.named "gate"]⟩, {}⟩
    listeners := ⟨⟨[⟨"first", false⟩]⟩, {}, {}⟩ }
  link := { connected := false }
  user := count

/-- One notice is handed to the closed link, and one is swallowed on its way: the message is stamped
and sealed and told all the same. -/
theorem receipts_exact_unheard :
    let h := countingProgram.host 1
    let message : Message := {
      header := { id := some "m1", sender := some { place := some "phone" } }
      mediaType := "text/plain"
      content := .null }
    let notice : Notification := {
      header := { id := some "m1", recipient := some { place := some "phone" } }
      event := .received }
    let handled : List Event := [.entered "stamp" .receiving, .entered "seal" .receiving,
      .notified "first" (.envelope (.message { message with
        header := { message.header with id := some "seal" } }))]
    ∃ w, create { notifiesReceipt := true } { state := .established } { connected := false } false
        0 = .ok w ∧
      (∀ steps, (w.after h steps).NotifiesReceipt) ∧
      ((notifyingWorld 0).receive h (.message message)).2.trace = .entered "gate" .sending ::
        .unsent (.notification notice) (.connectionClosed "memory transport is closed") ::
          handled ∧
      ((notifyingWorld 1).receive h (.message message)).2.trace =
        .entered "gate" .sending :: handled := by
  intro h message notice handled
  have ht : h.TreatsOn countingProgram.treatment .notification .sending :=
    fun name => countingProgram_treats .notification name .sending
  obtain ⟨w, hcreate⟩ : ∃ w, create { notifiesReceipt := true } { state := .established }
      { connected := false } false 0 = .ok w := ⟨_, rfl⟩
  obtain ⟨hruns, hreceive⟩ := receipts_exact hcreate rfl
    ((Program.host_isLawful countingProgram 1).within _) ht
  refine ⟨w, hcreate, hruns, ?_⟩
  have hnotifies : ∀ count, (notifyingWorld count).NotifiesReceipt :=
    fun _ => ⟨["stamp", "seal"], rfl⟩
  obtain ⟨_, -, hhanded, hfirst⟩ := hreceive (notifyingWorld 0) (hnotifies 0) rfl message
  obtain ⟨_, -, hswallowed, hsecond⟩ := hreceive (notifyingWorld 1) (hnotifies 1) rfl message
  rw [hfirst, hhanded "m1" { place := some "phone" } rfl rfl,
    hsecond, hswallowed "m1" { place := some "phone" } rfl rfl]
  exact ⟨rfl, rfl⟩

end World
end Courier
