/-
Two channels back to back do not keep each other busy.

A channel that has no modules of the program answers an envelope with at most one of its own: a
notice of receipt or the answer to a ping (`Envelope.reply?`).  Neither of these is answered.  So
however envelopes are delivered between two such channels, there are at most twice as many
deliveries as there were envelopes in flight, and what the channels send by themselves does not
depend on the order (`no_amplification`).
-/
import Courier.Proofs.Channel.Reception
import Mathlib.Data.Multiset.Filter
import Mathlib.Logic.Function.Basic

namespace Courier

variable {σ : Type} {h : Host σ} {u v w : World σ}

/-! ## Replies -/

def Envelope.isTraffic : Envelope → Bool
  | session _ => false
  | _ => true

/-- What a channel sends by itself when it receives an envelope. -/
def Envelope.reply? (settings : ChannelSettings) : Envelope → Option Envelope
  | message m =>
    if settings.notifiesReceipt then
      match m.header.id, m.header.sender with
      | some id, some sender => some (.notification {
          header := { id := some id, recipient := some sender }, event := .received })
      | _, _ => none
    else none
  | command c => if settings.answersPings && c.isPing then some (.command (.pong c)) else none
  | _ => none

/-- A reply is a notification or no ping, so it is not replied to. -/
theorem Envelope.reply?_of_reply? {settings : ChannelSettings} {envelope reply : Envelope}
    (hreply : envelope.reply? settings = some reply) (settings' : ChannelSettings) :
    reply.isTraffic = true ∧ reply.reply? settings' = none := by
  cases envelope with
  | message m =>
    simp only [reply?] at hreply
    split at hreply
    · split at hreply
      · cases hreply
        exact ⟨rfl, rfl⟩
      · cases hreply
    · cases hreply
  | command c =>
    simp only [reply?] at hreply
    split at hreply
    · cases hreply
      simp [reply?, isTraffic, Command.isPing_pong]
    · cases hreply
  | notification | session => cases hreply

namespace World

/-- No modules but the one that notifies receipt, as a channel has them from the start. -/
def IsPlain (w : World σ) : Prop :=
  w.channel.pipelines = ⟨if w.channel.settings.notifiesReceipt then ⟨[.receipt]⟩ else {}, {}, {}⟩

/-- A channel that is there, of an established session over an open link that fails no sends. -/
structure IsOpen (w : World σ) : Prop where
  alive : w.alive = true
  established : w.channel.standing.state = .established
  connected : w.link.connected = true
  reliable : w.link.failingSends = []

/-- Some envelopes have been sent; settings and modules are as before. -/
structure Sends (envelopes : List Envelope) (v w : World σ) : Prop where
  sent : w.link.sent = v.link.sent ++ envelopes
  settings : w.channel.settings = v.channel.settings
  pipelines : w.channel.pipelines = v.channel.pipelines

end World

/-- Listeners that send nothing, and leave the settings and the modules alone. -/
def Host.SendsNothing (h : Host σ) : Prop :=
  ∀ name notice w, World.Sends [] w (w.callOut h (.listener name notice))

/-- Listeners that leave an open channel open. -/
def Host.StaysOpen (h : Host σ) : Prop :=
  ∀ name notice (w : World σ), w.IsOpen → (w.callOut h (.listener name notice)).IsOpen

theorem Host.IsReserved.sendsNothing (hh : h.IsReserved) : h.SendsNothing := by
  intro name notice w
  obtain ⟨user, hcalled⟩ := hh.callOut (.listener name notice) w
  rw [hcalled]
  exact ⟨(List.append_nil _).symm, rfl, rfl⟩

theorem Host.IsReserved.staysOpen (hh : h.IsReserved) : h.StaysOpen := by
  intro name notice w hw
  obtain ⟨user, hcalled⟩ := hh.callOut (.listener name notice) w
  rw [hcalled]
  exact ⟨hw.alive, hw.established, hw.connected, hw.reliable⟩

namespace World

/-- A new channel is plain, and open if its session is established and its link works. -/
theorem isPlain_of_create {settings : ChannelSettings} {standing : Standing} {link : Link}
    {driven : Bool} {user : σ} (hcreated : create settings standing link driven user = .ok w) :
    w.IsPlain ∧ (standing.state = .established → link.connected = true → link.failingSends = [] →
      w.IsOpen) := by
  unfold create at hcreated
  split at hcreated
  · cases hcreated
  · cases hcreated
    exact ⟨rfl, fun hstate hconnected hsends => ⟨rfl, hstate, hconnected, hsends⟩⟩

theorem Sends.of_eq (hlink : w.link.sent = v.link.sent)
    (hsettings : w.channel.settings = v.channel.settings)
    (hpipelines : w.channel.pipelines = v.channel.pipelines) : Sends [] v w :=
  ⟨by rw [hlink, List.append_nil], hsettings, hpipelines⟩

theorem Sends.trans {first second : List Envelope} (huv : Sends first u v)
    (hvw : Sends second v w) : Sends (first ++ second) u w where
  sent := by rw [hvw.sent, huv.sent, List.append_assoc]
  settings := hvw.settings.trans huv.settings
  pipelines := hvw.pipelines.trans huv.pipelines

theorem Sends.andThen {sent : List Envelope} (huv : Sends sent u v) (hvw : Sends [] v w) :
    Sends sent u w := by
  have hboth := huv.trans hvw
  rwa [List.append_nil] at hboth

theorem Sends.after {sent : List Envelope} (huv : Sends [] u v) (hvw : Sends sent v w) :
    Sends sent u w :=
  huv.trans hvw

theorem Sends.isPlain {envelopes : List Envelope} (hsends : Sends envelopes v w) (hv : v.IsPlain) :
    w.IsPlain := by
  unfold IsPlain
  rw [hsends.pipelines, hsends.settings]
  exact hv

theorem IsOpen.of_eq (hw : v.IsOpen) (hheld : w.held = v.held) (hwaiting : w.waiting = v.waiting)
    (hdepth : w.depth = v.depth) (hstanding : w.channel.standing = v.channel.standing)
    (hconnected : w.link.connected = v.link.connected)
    (hsends : w.link.failingSends = v.link.failingSends) : w.IsOpen where
  alive := by
    have halive : w.alive = v.alive := by
      unfold World.alive
      rw [hheld, hwaiting, hdepth]
    rw [halive, hw.alive]
  established := by rw [hstanding, hw.established]
  connected := hconnected.trans hw.connected
  reliable := hsends.trans hw.reliable

/-! ## What listeners do -/

theorem told_sends (hh : h.SendsNothing) (notice : Notice) (names : List Name) (w : World σ) :
    Sends [] w (w.told h notice names) := by
  induction names generalizing w with
  | nil => exact .of_eq rfl rfl rfl
  | cons name names ih =>
    have hrecorded : Sends [] w (w.record (.notified name notice)) := .of_eq rfl rfl rfl
    rw [told_cons]
    exact (hrecorded.andThen (hh name notice _)).andThen (ih _)

theorem isOpen_told (hh : h.StaysOpen) (notice : Notice) (names : List Name) (hw : w.IsOpen) :
    (w.told h notice names).IsOpen := by
  induction names generalizing w with
  | nil => exact hw
  | cons name names ih =>
    rw [told_cons]
    exact ih (hh name notice _ (hw.of_eq rfl rfl rfl rfl rfl rfl))

/-! ## What the channel does -/

theorem transmit_sends (envelope : Envelope) (w : World σ) :
    ∃ sent, Sends sent w (w.transmit envelope true).2 ∧ sent <+: [envelope] := by
  unfold transmit Link.send
  simp only [if_true]
  cases w.touch.link.sendFault? with
  | some fault => exact ⟨[], .of_eq rfl rfl rfl, List.nil_prefix⟩
  | none => exact ⟨[envelope], ⟨rfl, rfl, rfl⟩, List.prefix_refl _⟩

/-- An open channel sends what it is to send, and is still open. -/
theorem transmit_of_open (hw : w.IsOpen) (envelope : Envelope) :
    Sends [envelope] w (w.transmit envelope true).2 ∧ (w.transmit envelope true).2.IsOpen := by
  have hfault : w.touch.link.sendFault? = none := by
    have hnever : w.link.attempts ∉ w.link.failingSends := by
      rw [hw.reliable]
      exact List.not_mem_nil
    show (if w.link.attempts ∈ w.link.failingSends then _ else if w.link.connected then none else _)
      = none
    rw [if_neg hnever, if_pos hw.connected]
  unfold transmit Link.send
  simp only [if_true, hfault]
  exact ⟨⟨rfl, rfl, rfl⟩, hw.of_eq rfl rfl rfl rfl rfl rfl⟩

def replied (envelope : Envelope) (w : World σ) : World σ :=
  match envelope.reply? w.channel.settings with
  | some reply => (w.transmit reply true).2
  | none => w

theorem replied_sends (envelope : Envelope) (w : World σ) :
    ∃ sent, Sends sent w (w.replied envelope) ∧
      sent <+: (envelope.reply? w.channel.settings).toList := by
  unfold replied
  cases envelope.reply? w.channel.settings with
  | some reply => exact transmit_sends reply w
  | none => exact ⟨[], .of_eq rfl rfl rfl, List.prefix_refl _⟩

theorem replied_of_open (hw : w.IsOpen) (envelope : Envelope) :
    Sends (envelope.reply? w.channel.settings).toList w (w.replied envelope) ∧
      (w.replied envelope).IsOpen := by
  unfold replied
  cases envelope.reply? w.channel.settings with
  | some reply => exact transmit_of_open hw reply
  | none => exact ⟨.of_eq rfl rfl rfl, hw⟩

theorem sendUnchecked_of_empty {kind : Traffic} (hempty : w.channel.pipelines.get kind = {})
    (item : kind.Item) (isActivity : Bool) :
    w.sendUnchecked h kind item isActivity = w.transmit (kind.envelope item) isActivity := by
  unfold sendUnchecked
  rw [hempty]
  rfl

theorem through_receiving_plain (hw : w.IsPlain)
    (hestablished : w.channel.standing.state = .established) (message : Message) :
    Pipeline.through (receivingStep h .message) w.channel.pipelines.message.modules message w =
      (some message, w.replied (.message message)) := by
  have hempty : w.channel.pipelines.get .notification = {} := by
    rw [hw]
    rfl
  have hsent : ∀ id recipient, (w.notifyReceived h id recipient).2 =
      (w.transmit (.notification {
        header := { id := some id, recipient := some recipient }, event := .received }) true).2 := by
    intro id recipient
    unfold notifyReceived sendItem
    rw [ensure_eq_ok.mpr hestablished, sendUnchecked_of_empty hempty]
    rfl
  rw [hw]
  unfold replied Envelope.reply?
  dsimp only
  by_cases hnotifies : w.channel.settings.notifiesReceipt = true
  · simp only [if_pos hnotifies, Pipeline.through, receivingStep, Traffic.envelope, Envelope.header]
    cases hid : message.header.id with
    | none => rfl
    | some id =>
      cases hsender : message.header.sender with
      | none => rfl
      | some sender => simp only [hsent]
  · simp only [if_neg hnotifies, Pipeline.through]

/-- What comes of an item: the reply, and listeners are called unless the channel keeps the item to
itself. -/
theorem receiveItem_plain (hw : w.IsPlain) (hestablished : w.channel.standing.state = .established)
    (kind : Traffic) (item : kind.Item) :
    let replied := w.replied (kind.envelope item)
    (w.receiveItem h kind item).2 = replied ∨
      ∃ notice names, (w.receiveItem h kind item).2 = (replied.taken kind).told h notice names := by
  intro replied
  unfold receiveItem
  rw [ensure_eq_ok.mpr hestablished]
  dsimp only
  cases kind with
  | message =>
    right
    rw [show w.channel.pipelines.get .message = w.channel.pipelines.message from rfl,
      through_receiving_plain hw hestablished]
    dsimp only
    rw [arrive_of_unanswered rfl]
    exact ⟨_, _, rfl⟩
  | notification =>
    right
    have hempty : w.channel.pipelines.get .notification = {} := by
      rw [hw]
      rfl
    rw [hempty]
    exact ⟨_, _, rfl⟩
  | command =>
    have hempty : w.channel.pipelines.get .command = {} := by
      rw [hw]
      rfl
    have hreply : Envelope.reply? w.channel.settings (Traffic.command.envelope item) =
        if w.answersItself .command item then some (.command (.pong item)) else none := rfl
    simp only [replied, World.replied, hreply]
    rw [hempty]
    simp only [Pipeline.through]
    by_cases hanswers : w.answersItself .command item = true
    · left
      simp only [if_pos hanswers]
      have harrive : w.arrive h .command item =
          if w.answersItself .command item then w.sendUnchecked h .command (.pong item) true
          else (.ok (), w.deliver h .command item) := rfl
      rw [harrive, if_pos hanswers, sendUnchecked_of_empty hempty]
      rfl
    · right
      simp only [if_neg hanswers]
      rw [arrive_of_unanswered (Bool.eq_false_iff.mpr hanswers)]
      exact ⟨_, _, rfl⟩

/-- What comes of an envelope that the link delivers, unless it is a session.  Where the session is
established, nothing is sent after the reply. -/
theorem raise_plain (hh : h.SendsNothing) (hw : w.IsPlain) {envelope : Envelope}
    (htraffic : envelope.isTraffic = true) :
    let replied := w.touch.replied envelope
    (Sends [] w (w.raise h envelope) ∧
        ¬(w.alive = true ∧ w.channel.standing.state = .established)) ∨
      Sends [] replied (w.raise h envelope) ∧
        (h.StaysOpen → replied.IsOpen → (w.raise h envelope).IsOpen) := by
  intro replied
  obtain ⟨kind, item, rfl⟩ : ∃ (kind : Traffic) (item : kind.Item), envelope = kind.envelope item := by
    cases envelope with
    | message m => exact ⟨.message, m, rfl⟩
    | notification n => exact ⟨.notification, n, rfl⟩
    | command c => exact ⟨.command, c, rfl⟩
    | session => cases htraffic
  unfold raise
  by_cases halive : w.alive = true
  · rw [if_pos halive, receive_item]
    by_cases hestablished : w.channel.standing.state = .established
    · right
      obtain hreplied | ⟨notice, names, htold⟩ :=
        receiveItem_plain (h := h) (w := w.touch) hw hestablished kind item
      · rw [hreplied]
        exact ⟨.of_eq rfl rfl rfl, fun _ hopen => hopen⟩
      · have htaken : Sends [] replied (replied.taken kind) := .of_eq rfl rfl rfl
        rw [htold]
        exact ⟨htaken.andThen (told_sends hh notice names _), fun hopen hreplied =>
          isOpen_told hopen notice names (hreplied.of_eq rfl rfl rfl rfl rfl rfl)⟩
    · left
      rw [receiveItem_of_refused (w := w.touch) hestablished]
      exact ⟨.of_eq rfl rfl rfl, fun ⟨_, hstate⟩ => hestablished hstate⟩
  · left
    rw [if_neg halive]
    exact ⟨.of_eq rfl rfl rfl, fun ⟨hlives, _⟩ => halive hlives⟩

theorem raise_sends (hh : h.SendsNothing) (hw : w.IsPlain) {envelope : Envelope}
    (htraffic : envelope.isTraffic = true) :
    ∃ sent, Sends sent w (w.raise h envelope) ∧
      sent <+: (envelope.reply? w.channel.settings).toList := by
  obtain ⟨sent, hreplied, hprefix⟩ := replied_sends envelope w.touch
  have htouched : Sends [] w w.touch := .of_eq rfl rfl rfl
  obtain ⟨hnothing, _⟩ | ⟨hraised, _⟩ := raise_plain hh hw htraffic
  · exact ⟨[], hnothing, List.nil_prefix⟩
  · exact ⟨sent, (htouched.after hreplied).andThen hraised, hprefix⟩

theorem raise_of_open (hh : h.SendsNothing) (hopen : h.StaysOpen) (hw : w.IsPlain)
    (hwopen : w.IsOpen) {envelope : Envelope} (htraffic : envelope.isTraffic = true) :
    Sends (envelope.reply? w.channel.settings).toList w (w.raise h envelope) ∧
      (w.raise h envelope).IsOpen := by
  have htouched : Sends [] w w.touch := .of_eq rfl rfl rfl
  obtain ⟨hreplied, hstill⟩ :=
    replied_of_open (w := w.touch) (hwopen.of_eq rfl rfl rfl rfl rfl rfl) envelope
  obtain ⟨_, hnot⟩ | ⟨hraised, hkept⟩ := raise_plain hh hw htraffic
  · exact absurd ⟨hwopen.alive, hwopen.established⟩ hnot
  · exact ⟨(htouched.after hreplied).andThen hraised, hkept hopen hstill⟩

end World

/-! ## Couples -/

inductive Side where
  | left
  | right
  deriving DecidableEq

def Side.other : Side → Side
  | left => right
  | right => left

/-- An envelope on its way to one of two channels. -/
structure Parcel where
  receiver : Side
  envelope : Envelope
  deriving DecidableEq

/-- What the receiver sends back by itself. -/
def Parcel.reply? (settings : Side → ChannelSettings) (parcel : Parcel) : Option Parcel :=
  (parcel.envelope.reply? (settings parcel.receiver)).map (Parcel.mk parcel.receiver.other)

theorem Parcel.reply?_of_reply? {settings : Side → ChannelSettings} {parcel reply : Parcel}
    (hreply : parcel.reply? settings = some reply) :
    reply.envelope.isTraffic = true ∧ reply.reply? settings = none := by
  obtain ⟨envelope, henvelope, rfl⟩ := Option.map_eq_some_iff.mp hreply
  obtain ⟨htraffic, hnone⟩ :=
    Envelope.reply?_of_reply? henvelope (settings parcel.receiver.other)
  exact ⟨htraffic, by simp [Parcel.reply?, hnone]⟩

/-- Two channels, back to back: what one sends is delivered to the other, in any order. -/
structure Couple (σ : Side → Type) where
  world : (side : Side) → World (σ side)
  /-- What has been sent and not been delivered yet. -/
  flight : Multiset Parcel

namespace Couple

variable {σ : Side → Type} (h : (side : Side) → Host (σ side))

/-- What the receiver of a parcel sends while the parcel is delivered. -/
def caused (parcel : Parcel) (c : Couple σ) : List Parcel :=
  let before := c.world parcel.receiver
  let after := before.raise (h parcel.receiver) parcel.envelope
  (after.link.sent.drop before.link.sent.length).map (Parcel.mk parcel.receiver.other)

def deliver (parcel : Parcel) (c : Couple σ) : Couple σ where
  world := Function.update c.world parcel.receiver
    ((c.world parcel.receiver).raise (h parcel.receiver) parcel.envelope)
  flight := c.flight.erase parcel + Multiset.ofList (c.caused h parcel)

def after (schedule : List Parcel) (c : Couple σ) : Couple σ :=
  schedule.foldl (fun c parcel => c.deliver h parcel) c

/-- Only what is in flight is delivered. -/
def Admits : List Parcel → Couple σ → Prop
  | [], _ => True
  | parcel :: schedule, c => parcel ∈ c.flight ∧ Admits schedule (c.deliver h parcel)

instance decidableAdmits : (schedule : List Parcel) → (c : Couple σ) →
    Decidable (c.Admits h schedule)
  | [], _ => inferInstanceAs (Decidable True)
  | parcel :: schedule, c =>
    have := decidableAdmits schedule (c.deliver h parcel)
    inferInstanceAs (Decidable (parcel ∈ c.flight ∧ (c.deliver h parcel).Admits h schedule))

/-- What is delivered, each with what it causes to be sent. -/
def log : List Parcel → Couple σ → List (Parcel × List Parcel)
  | [], _ => []
  | parcel :: schedule, c => (parcel, c.caused h parcel) :: log schedule (c.deliver h parcel)

def automatic (log : List (Parcel × List Parcel)) : Multiset Parcel :=
  Multiset.ofList (log.flatMap Prod.snd)

def settings (c : Couple σ) (side : Side) : ChannelSettings :=
  (c.world side).channel.settings

/-- The replies to what is in flight. -/
def due (c : Couple σ) : Multiset Parcel :=
  c.flight.filterMap (Parcel.reply? c.settings)

/-- Channels without modules of a program, and no sessions in flight. -/
structure Sound (c : Couple σ) : Prop where
  plain : ∀ side, (c.world side).IsPlain
  traffic : ∀ parcel ∈ c.flight, parcel.envelope.isTraffic = true

def Joined (c : Couple σ) : Prop :=
  ∀ side, (c.world side).IsOpen

variable {h} {c : Couple σ} {parcel : Parcel} {schedule : List Parcel}

/-! ## One delivery -/

theorem caused_of_sends {sent : List Envelope}
    (hsends : World.Sends sent (c.world parcel.receiver)
      ((c.world parcel.receiver).raise (h parcel.receiver) parcel.envelope)) :
    c.caused h parcel = sent.map (Parcel.mk parcel.receiver.other) := by
  unfold caused
  dsimp only
  rw [hsends.sent, List.drop_left]

theorem due_eq_of_mem (hmem : parcel ∈ c.flight) :
    c.due = Multiset.ofList (parcel.reply? c.settings).toList +
      (c.flight.erase parcel).filterMap (Parcel.reply? c.settings) := by
  conv_lhs => unfold due; rw [← Multiset.cons_erase hmem, Multiset.filterMap_cons]
  cases parcel.reply? c.settings <;> rfl

/-- What one delivery does: at most the reply is sent, and nothing is due for what is sent. -/
structure Delivered (h : (side : Side) → Host (σ side)) (parcel : Parcel) (c : Couple σ) :
    Prop where
  caused : c.caused h parcel <+: (parcel.reply? c.settings).toList
  settings : (c.deliver h parcel).settings = c.settings
  sound : (c.deliver h parcel).Sound
  due : (c.deliver h parcel).due = (c.flight.erase parcel).filterMap (Parcel.reply? c.settings)

variable (hh : ∀ side, (h side).SendsNothing)
include hh

theorem delivered (hc : c.Sound) (hmem : parcel ∈ c.flight) : c.Delivered h parcel := by
  obtain ⟨sent, hsends, hsent⟩ := World.raise_sends (hh parcel.receiver)
    (hc.plain parcel.receiver) (hc.traffic parcel hmem)
  have hcaused : c.caused h parcel <+: (parcel.reply? c.settings).toList := by
    rw [caused_of_sends hsends, Parcel.reply?, Option.toList_map]
    exact hsent.map _
  have hreplies : ∀ reply ∈ c.caused h parcel, reply.envelope.isTraffic = true ∧
      reply.reply? c.settings = none := fun reply hreply =>
    Parcel.reply?_of_reply? (Option.mem_toList.mp (hcaused.subset hreply))
  have hsettings : (c.deliver h parcel).settings = c.settings := by
    have hsame : ∀ side, ((c.deliver h parcel).world side).channel.settings = c.settings side :=
      (Function.forall_update_iff c.world
        fun side w => w.channel.settings = c.settings side).mpr
        ⟨hsends.settings, fun _ _ => rfl⟩
    exact funext hsame
  refine ⟨hcaused, hsettings, ⟨?_, ?_⟩, ?_⟩
  · exact (Function.forall_update_iff c.world fun _ w => w.IsPlain).mpr
      ⟨hsends.isPlain (hc.plain parcel.receiver), fun side _ => hc.plain side⟩
  · intro other hother
    rcases Multiset.mem_add.mp hother with hother | hother
    · exact hc.traffic other (Multiset.mem_of_mem_erase hother)
    · exact (hreplies other hother).1
  -- What is sent is a reply, for which no reply is due.
  · unfold due
    rw [hsettings]
    have hnone : (Multiset.ofList (c.caused h parcel)).filterMap (Parcel.reply? c.settings) = 0 :=
      Multiset.eq_zero_of_forall_notMem fun reply hreply => by
        obtain ⟨again, hagain, hsome⟩ := (Multiset.mem_filterMap _ _).mp hreply
        rw [(hreplies again hagain).2] at hsome
        cases hsome
    show (c.flight.erase parcel + _).filterMap _ = _
    rw [Multiset.filterMap_add, hnone, Multiset.add_zero]

theorem delivered_of_joined (hopen : ∀ side, (h side).StaysOpen) (hc : c.Sound) (hjoined : c.Joined)
    (hmem : parcel ∈ c.flight) :
    c.caused h parcel = (parcel.reply? c.settings).toList ∧ (c.deliver h parcel).Joined := by
  obtain ⟨hsends, hstill⟩ := World.raise_of_open (hh parcel.receiver) (hopen parcel.receiver)
    (hc.plain parcel.receiver) (hjoined parcel.receiver) (hc.traffic parcel hmem)
  refine ⟨?_, ?_⟩
  · rw [caused_of_sends hsends, Parcel.reply?, Option.toList_map]
    rfl
  · exact (Function.forall_update_iff c.world fun _ w => w.IsOpen).mpr
      ⟨hstill, fun side _ => hjoined side⟩

omit hh in
/-- How many deliveries there may be: what is in flight is delivered, and what is due for it. -/
def weight (c : Couple σ) : Nat :=
  c.flight.card + c.due.card

theorem weight_deliver (hc : c.Sound) (hmem : parcel ∈ c.flight) :
    (c.deliver h parcel).weight + 1 ≤ c.weight := by
  have hdelivered := delivered hh hc hmem
  have hflight : (c.deliver h parcel).flight.card =
      (c.flight.erase parcel).card + (c.caused h parcel).length :=
    Multiset.card_add _ _
  have hdue : c.due.card =
      (parcel.reply? c.settings).toList.length + (c.deliver h parcel).due.card := by
    rw [due_eq_of_mem hmem, hdelivered.due, Multiset.card_add, Multiset.coe_card]
  have herased := Multiset.card_erase_add_one hmem
  have hcaused := hdelivered.caused.length_le
  unfold weight
  omega

omit hh in
theorem weight_le : c.weight ≤ 2 * c.flight.card := by
  have hdue : c.due.card ≤ c.flight.card := by
    unfold due
    induction c.flight using Quotient.inductionOn with
    | h parcels => exact List.length_filterMap_le _ parcels
  unfold weight
  omega

/-! ## Runs -/

/-- A run of deliveries: each causes at most the reply, and the weight is lowered by each. -/
theorem run (hc : c.Sound) (hschedule : c.Admits h schedule) :
    (c.after h schedule).Sound ∧
      schedule.length + (c.after h schedule).weight ≤ c.weight ∧
      ∀ entry ∈ c.log h schedule, entry.2 <+: (entry.1.reply? c.settings).toList := by
  -- A delivery leaves the couple sound, with the same settings, so the rest of the run is as this one.
  induction schedule generalizing c with
  | nil => exact ⟨hc, by simp [after], by simp [log]⟩
  | cons parcel schedule ih =>
    obtain ⟨hmem, hrest⟩ := hschedule
    have hdelivered := delivered hh hc hmem
    obtain ⟨hsound, hweight, hlog⟩ := ih hdelivered.sound hrest
    refine ⟨hsound, ?_, ?_⟩
    · have hlower := weight_deliver hh hc hmem
      have hafter : c.after h (parcel :: schedule) = (c.deliver h parcel).after h schedule := rfl
      rw [hafter, List.length_cons]
      omega
    · intro entry hentry
      rcases List.mem_cons.mp hentry with rfl | hentry
      · exact hdelivered.caused
      · rw [← hdelivered.settings]
        exact hlog entry hentry

/-- What open channels have sent, and what is due, is what was due at the start. -/
theorem run_joined (hopen : ∀ side, (h side).StaysOpen) (hc : c.Sound) (hjoined : c.Joined)
    (hschedule : c.Admits h schedule) :
    automatic (c.log h schedule) + (c.after h schedule).due = c.due := by
  induction schedule generalizing c with
  | nil => exact Multiset.zero_add _
  | cons parcel schedule ih =>
    obtain ⟨hmem, hrest⟩ := hschedule
    have hdelivered := delivered hh hc hmem
    obtain ⟨hcaused, hstill⟩ := delivered_of_joined hh hopen hc hjoined hmem
    calc automatic (c.log h (parcel :: schedule)) + (c.after h (parcel :: schedule)).due
        = Multiset.ofList (c.caused h parcel) +
            (automatic ((c.deliver h parcel).log h schedule) +
              ((c.deliver h parcel).after h schedule).due) := by
          rw [← Multiset.add_assoc]
          rfl
      _ = Multiset.ofList (c.caused h parcel) + (c.deliver h parcel).due := by
          rw [ih hdelivered.sound hstill hrest]
      _ = c.due := by rw [due_eq_of_mem hmem, hdelivered.due, hcaused]

omit hh in
theorem admits_append {rest : List Parcel} (hschedule : c.Admits h schedule)
    (hrest : (c.after h schedule).Admits h rest) : c.Admits h (schedule ++ rest) := by
  induction schedule generalizing c with
  | nil => exact hrest
  | cons parcel schedule ih => exact ⟨hschedule.1, ih hschedule.2 hrest⟩

/-- Whatever is in flight can be delivered, and all that comes of it. -/
theorem exists_quiet (hc : c.Sound) :
    ∃ rest, c.Admits h rest ∧ (c.after h rest).flight = 0 := by
  induction hweight : c.weight using Nat.strong_induction_on generalizing c with
  | h n ih =>
    rcases c.flight.empty_or_exists_mem with hquiet | ⟨parcel, hmem⟩
    · exact ⟨[], trivial, hquiet⟩
    · have hlower := weight_deliver hh hc hmem
      obtain ⟨rest, hrest, hquiet⟩ :=
        ih _ (by omega) (delivered hh hc hmem).sound rfl
      exact ⟨parcel :: rest, ⟨hmem, hrest⟩, hquiet⟩

/-- Two channels back to back do not keep each other busy.  In whatever order envelopes are
delivered, each causes at most one other, and none is caused by one that was caused itself; there are
at most twice as many deliveries as there were envelopes in flight, and they can always be brought to
an end.  What is sent up to then, by channels that are open, is the same for every order. -/
theorem no_amplification (hc : c.Sound) (hschedule : c.Admits h schedule) :
    (∀ entry ∈ c.log h schedule, entry.2.length ≤ 1) ∧
    (∀ entry ∈ c.log h schedule, ∀ later ∈ c.log h schedule, later.1 ∈ entry.2 → later.2 = []) ∧
    (schedule.length + (c.after h schedule).flight.card ≤ 2 * c.flight.card ∧
      ∃ rest, c.Admits h (schedule ++ rest) ∧ (c.after h (schedule ++ rest)).flight = 0) ∧
    ((∀ side, (h side).StaysOpen) → c.Joined → (c.after h schedule).flight = 0 →
      automatic (c.log h schedule) = c.due ∧
      ∀ order, c.Admits h order → (c.after h order).flight = 0 →
        automatic (c.log h order) = automatic (c.log h schedule)) := by
  obtain ⟨hsound, hweight, hlog⟩ := run hh hc hschedule
  refine ⟨?_, ?_, ⟨?_, ?_⟩, ?_⟩
  · intro entry hentry
    exact (hlog entry hentry).length_le.trans (Option.length_toList_le)
  · intro entry hentry later hlater hmem
    have hreply := Option.mem_toList.mp ((hlog entry hentry).subset hmem)
    have hnone := hlog later hlater
    rw [(Parcel.reply?_of_reply? hreply).2] at hnone
    exact List.prefix_nil.mp hnone
  · have hle : c.weight ≤ 2 * c.flight.card := weight_le
    unfold weight at hweight hle
    omega
  · obtain ⟨rest, hrest, hquiet⟩ := exists_quiet hh hsound
    refine ⟨rest, admits_append hschedule hrest, ?_⟩
    rw [after, List.foldl_append]
    exact hquiet
  -- In the end nothing is due, so all that was due at the start has been sent, in whatever order.
  · intro hopen hjoined hquiet
    have hdue : ∀ order, c.Admits h order → (c.after h order).flight = 0 →
        automatic (c.log h order) = c.due := by
      intro order horder hend
      have hbalance := run_joined hh hopen hc hjoined horder
      have hnothing : (c.after h order).due = 0 := by
        unfold due
        rw [hend, Multiset.filterMap_zero]
      rwa [hnothing, Multiset.add_zero] at hbalance
    have hsame := hdue schedule hschedule hquiet
    exact ⟨hsame, fun order horder hend => (hdue order horder hend).trans hsame.symm⟩

omit hh

namespace Engaged

def message : Parcel := ⟨.right, .message {
  header := { id := some "m", sender := some { place := some "phone" } }
  mediaType := "text/plain"
  content := .null }⟩

def received : Parcel := ⟨.left, .notification {
  header := { id := some "m", recipient := some { place := some "phone" } }
  event := .received }⟩

def ping : Parcel := ⟨.left, .command (.ping "p")⟩

def pong : Parcel := ⟨.right, .command (.pong (.ping "p"))⟩

/-- Two channels that answer whatever they can, and something on its way to each. -/
def couple : Couple fun _ => Unit where
  world _ := {
    channel := {
      settings := { fillsAddresses := true, answersPings := true, notifiesReceipt := true }
      standing := { state := .established }
      pipelines := ⟨⟨[.receipt]⟩, {}, {}⟩ }
    user := () }
  flight := {message, ping}

end Engaged

open Engaged in
theorem no_amplification_engaged :
    let h (_ : Side) : Host Unit := .silent
    let schedule := [message, received, ping, pong]
    let order := [ping, message, pong, received]
    (∀ side, (h side).SendsNothing) ∧ (∀ side, (h side).StaysOpen) ∧
      couple.Sound ∧ couple.Joined ∧ couple.Admits h schedule ∧ couple.Admits h order ∧
      schedule.length + (couple.after h schedule).flight.card ≤ 2 * couple.flight.card ∧
      automatic (couple.log h schedule) = {received, pong} ∧
      automatic (couple.log h order) = {received, pong} := by
  intro h schedule order
  have hsends : ∀ side, (h side).SendsNothing := fun _ => Host.silent_isReserved.sendsNothing
  have hopen : ∀ side, (h side).StaysOpen := fun _ => Host.silent_isReserved.staysOpen
  have hsound : couple.Sound := ⟨fun _ => rfl, by decide +kernel⟩
  have hjoined : couple.Joined := fun _ => ⟨rfl, rfl, rfl, rfl⟩
  have hschedule : couple.Admits h schedule := by decide +kernel
  have horder : couple.Admits h order := by decide +kernel
  have hdue : couple.due = {received, pong} := by decide +kernel
  obtain ⟨_, _, ⟨hbound, _⟩, hsame⟩ := no_amplification hsends hsound hschedule
  obtain ⟨hsent, hothers⟩ := hsame hopen hjoined (by decide +kernel)
  have hsent' := hothers order horder (by decide +kernel)
  exact ⟨hsends, hopen, hsound, hjoined, hschedule, horder, hbound, hsent.trans hdue,
    hsent'.trans (hsent.trans hdue)⟩

end Couple
end Courier
