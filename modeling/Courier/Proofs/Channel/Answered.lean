/-
Peers that answer.

A peer whose answer to every ping comes within the time that the disconnection interval leaves over
the ping interval is never cut off (`answering_peer_kept`), however late its answers are and however
out of step.  Own pings do not count as activity, so the argument goes by the answers: at any tick,
the last ping that is old enough to have been answered was sent less than the disconnection interval
ago, and its answer came after it.  Before there is such a ping, the channel is too young to be
silent.
-/
import Courier.Proofs.Channel.Vigil

namespace Courier

variable {σ : Type} {h : Host σ} {w w₀ : World σ}

/-- Whether something is received at a moment. -/
def Moment.isReception (m : Moment) (w : World σ) : Bool :=
  (m.received? w).isSome

/-- Whether a moment is a tick that hands something to the link. -/
def Moment.isPing (h : Host σ) (m : Moment) (w : World σ) : Bool :=
  m.isTick && decide (w.link.attempts < (w.happen h m).link.attempts)

namespace World

/-- A moment of a session that goes on: it is established, no module of the program stands in the
way of commands, and nobody closes anything, except perhaps a tick. -/
def Undisturbed (h : Host σ) (m : Moment) (w : World σ) : Prop :=
  w.alive = true ∧ w.channel.standing.state = .established ∧ w.commandModules = [] ∧
    (m.isTick = false → (w.happen h m).link.closeCalls = w.link.closeCalls)

/-- Whether something is received within a time after each ping, unless the run ends before. -/
def Answered (h : Host σ) (patience : Nat) (moments : List Moment) (w : World σ) : Prop :=
  ∀ sent ∈ w.timesOf h (Moment.isPing h) moments, sent + patience ≤ (w.live h moments).now →
    ∃ heard ∈ w.timesOf h Moment.isReception moments, sent ≤ heard ∧ heard < sent + patience

instance (m : Moment) (w : World σ) : Decidable (Undisturbed h m w) :=
  inferInstanceAs (Decidable (_ ∧ _ ∧ _ ∧ _))

instance (patience : Nat) (moments : List Moment) (w : World σ) :
    Decidable (w.Answered h patience moments) :=
  inferInstanceAs (Decidable (∀ sent ∈ w.timesOf h (Moment.isPing h) moments, _ → ∃ heard ∈ _, _))

/-- A ping has been handed to the link, and nothing else has happened. -/
def PingHanded (v w : World σ) : Prop :=
  let ping := Envelope.command (.ping v.drawId.1)
  w = { v with
    drawn := v.drawn + 1
    link := (v.link.send ping).2
    trace := v.trace ++ [handing v.link ping] }

theorem Answered.of_append (hs : Spans h (@Onward σ)) {patience : Nat} {first second : List Moment}
    (hanswered : w.Answered h patience (first ++ second)) : w.Answered h patience first := by
  intro sent hsent hold
  have hlater : (w.live h first).now ≤ (w.live h (first ++ second)).now := by
    rw [live_append, now_live hs second]
    exact Nat.le_add_right _ _
  obtain ⟨heard, hheard, hafter, hbefore⟩ := hanswered sent
    (by rw [timesOf_append]; exact List.mem_append_left _ hsent) (Nat.le_trans hold hlater)
  rw [timesOf_append] at hheard
  rcases List.mem_append.mp hheard with hheard | hheard
  · exact ⟨heard, hheard, hafter, hbefore⟩
  · have hle := now_le_of_mem_timesOf hs hheard
    omega

/-! ## Pings without modules -/

theorem through_unnamed (kind : Traffic) {stages : List Stage}
    (hstages : stages.filterMap Stage.name? = []) (item : kind.Item) (w : World σ) :
    Pipeline.through (sendingStep h kind) stages item w = (some item, w) := by
  induction stages with
  | nil => rfl
  | cons stage stages ih =>
    cases stage with
    | named name => cases hstages
    | receipt => exact ih hstages

theorem pinged_handed (hmodules : w.commandModules = []) : w.PingHanded (w.pinged h) := by
  have hthrough := through_unnamed (h := h) .command hmodules (.ping w.drawId.1) w.drawId.2
  have hpipeline : (w.drawId.2.channel.pipelines.get .command).modules =
      w.channel.pipelines.command.modules := rfl
  unfold pinged sendUnchecked
  rw [hpipeline, hthrough]
  exact transmit_unnoted _ _

theorem PingHanded.counts {v w : World σ} (hhanded : v.PingHanded w) :
    w.link.attempts = v.link.attempts + 1 ∧ w.link.closeCalls = v.link.closeCalls := by
  rw [hhanded]
  show (v.link.send _).2.attempts = _ ∧ (v.link.send _).2.closeCalls = _
  unfold Link.send
  dsimp only
  split <;> exact ⟨rfl, rfl⟩

/-! ## One moment after the other -/

/-- How it stands with a channel after a part of a run in which every ping was answered in time: all
ticks were pings, and none of them closed anything. -/
structure Attended (h : Host σ) (interval : Nat) (moments : List Moment) (w₀ : World σ) : Prop where
  pings : w₀.timesOf h (Moment.isPing h) moments =
    (List.range (ticksIn moments)).map fun k => (k + 1) * interval
  heard : ∀ t ∈ w₀.timesOf h Moment.isReception moments,
    t ≤ (w₀.live h moments).channel.lastActivity
  activity : (w₀.live h moments).channel.lastActivity ≤ (w₀.live h moments).now
  running : (w₀.live h moments).channel.keepAlive = .running
  connected : (w₀.live h moments).link.connected = true
  closeCalls : (w₀.live h moments).link.closeCalls = w₀.link.closeCalls

theorem lastActivity_of_reception (hs : Spans h (@Onward σ)) {m : Moment}
    (hreception : m.isReception w = true) : (w.happen h m).channel.lastActivity = w.now := by
  cases m with
  | request request =>
    have hopened := opened_begun request w
    have honward := perform_spans hs request w
    have hnow : (w.begun request).now = w.now := hopened.now
    have hlast : (w.begun request).channel.lastActivity = w.now :=
      hopened.activity.trans (if_pos hreception)
    rcases honward.activity with hsame | hlater
    · exact hsame.trans hlast
    · exact hlater.trans hnow
  | await | settle | pass | tick => cases hreception

/-- What a moment changes, apart from the time. -/
theorem happen_onward (hs : Spans h (@Onward σ)) {m : Moment} (halive : w.alive = true) :
    ((w.happen h m).channel.lastActivity = w.channel.lastActivity ∨
        (w.happen h m).channel.lastActivity = w.now) ∧
      ((w.happen h m).link.closeCalls = w.link.closeCalls →
        (w.happen h m).channel.keepAlive = w.channel.keepAlive ∧
          (w.happen h m).link.connected = w.link.connected) := by
  have hticked : m.isTick = true → w.alive = true := fun _ => halive
  cases m with
  | pass duration => exact ⟨.inl rfl, fun _ => ⟨rfl, rfl⟩⟩
  | request | await | settle | tick =>
    have honward := onward_happen hs rfl hticked
    refine ⟨honward.activity, fun hsame => ?_⟩
    exact honward.line.resolve_left (by rw [hsame]; exact Nat.lt_irrefl _)

theorem mem_timesOf_singleton {kind : Moment → World σ → Bool} {m : Moment} {t : Nat} :
    t ∈ w.timesOf h kind [m] ↔ kind m w = true ∧ t = w.now := by
  show t ∈ (if kind m w then [w.now] else []) ↔ _
  split <;> simp_all

section Step

variable {interval limit : Nat} {moments : List Moment} {m : Moment}
  (hattended : Attended h interval moments w₀)
include hattended

/-- A tick comes less than the disconnection interval after the last activity. -/
theorem not_silent_of_answered (hpos : 0 < interval) (hlt : interval < limit)
    (hanswered : w₀.Answered h (limit - interval) moments)
    (hdue : (w₀.live h moments).now = (ticksIn moments + 1) * interval) :
    (w₀.live h moments).now < (w₀.live h moments).channel.lastActivity + limit := by
  generalize hnow : (w₀.live h moments).now = now at hdue
  by_cases hyoung : now < limit
  · exact Nat.lt_of_lt_of_le hyoung (Nat.le_add_left _ _)
  -- The last ping that is old enough to have been answered.
  · generalize hnumber : (now - (limit - interval)) / interval = number
    have hold : number * interval ≤ now - (limit - interval) :=
      hnumber ▸ Nat.div_mul_le_self _ _
    have hlast : now - (limit - interval) < (number + 1) * interval :=
      Nat.lt_mul_of_div_lt (hnumber ▸ Nat.lt_succ_self _) hpos
    have hfirst : 0 < number := hnumber ▸ Nat.div_pos (by omega) hpos
    have hticked : number < ticksIn moments + 1 := by
      refine Nat.lt_of_mul_lt_mul_right (a := interval) ?_
      omega
    have hsent : number * interval ∈ w₀.timesOf h (Moment.isPing h) moments := by
      rw [hattended.pings, List.mem_map]
      exact ⟨number - 1, List.mem_range.mpr (by omega), by rw [Nat.sub_add_cancel hfirst]⟩
    obtain ⟨heard, hheard, hafter, _⟩ := hanswered _ hsent (by omega)
    have hactivity := hattended.heard heard hheard
    rw [Nat.succ_mul] at hlast
    omega

theorem attended_next (hs : Spans h (@Onward σ)) (halive : (w₀.live h moments).alive = true)
    (hcalls : ((w₀.live h moments).happen h m).link.closeCalls =
      (w₀.live h moments).link.closeCalls)
    (hping : ((w₀.live h moments).timesOf h (Moment.isPing h) [m]) =
      (List.range (ticksIn [m])).map fun k => (ticksIn moments + k + 1) * interval) :
    Attended h interval (moments ++ [m]) w₀ := by
  have hnext : w₀.live h (moments ++ [m]) = (w₀.live h moments).happen h m := live_append _ _ _
  have hclock := (clock_happen hs m (w₀.live h moments)).1
  obtain ⟨hactivity, hline⟩ := happen_onward (m := m) hs halive
  obtain ⟨hkeep, hconnected⟩ := hline hcalls
  have hpast := hattended.activity
  refine ⟨?_, ?_, ?_, ?_, ?_, ?_⟩
  · rw [timesOf_append, hattended.pings, hping, ticksIn_append, List.range_add, List.map_append,
      List.map_map]
    rfl
  · intro t ht
    rw [hnext]
    rw [timesOf_append] at ht
    rcases List.mem_append.mp ht with ht | ht
    · have hle := hattended.heard t ht
      rcases hactivity with hsame | hnow <;> omega
    · obtain ⟨hreception, rfl⟩ := mem_timesOf_singleton.mp ht
      exact Nat.le_of_eq (lastActivity_of_reception hs hreception).symm
  · rw [hnext]
    rcases hactivity with hsame | hnow <;> omega
  · rw [hnext, hkeep, hattended.running]
  · rw [hnext, hconnected, hattended.connected]
  · rw [hnext, hcalls, hattended.closeCalls]

theorem tick_handed (hpos : 0 < limit) (halive : (w₀.live h moments).alive = true)
    (hestablished : (w₀.live h moments).channel.standing.state = .established)
    (hmodules : (w₀.live h moments).commandModules = [])
    (hlimit : (w₀.live h moments).channel.settings.disconnectionInterval.toNat = limit)
    (hactive : (w₀.live h moments).now < (w₀.live h moments).channel.lastActivity + limit)
    (ahead : Bool) :
    (w₀.live h moments).PingHanded ((w₀.live h moments).happen h (.tick ahead)) := by
  have hsilent : (w₀.live h moments).isSilent = false := by
    unfold isSilent
    rw [hlimit]
    exact Bool.and_eq_false_iff.mpr (.inr (decide_eq_false (by omega)))
  have htick : (w₀.live h moments).happen h (.tick ahead) = (w₀.live h moments).tick h :=
    if_pos (heeds_of_running hattended.running ahead)
  rw [htick, tick_of_not_silent halive hsilent, if_pos hestablished]
  exact pinged_handed hmodules

/-- A run goes on as it began: every tick is a ping, and nothing is closed. -/
theorem attended_run (hs : Spans h (@Onward σ)) (hpos : 0 < interval) (hlt : interval < limit)
    (hlimit : w₀.channel.settings.disconnectionInterval.toNat = limit) (hstart : w₀.now = 0)
    (more : List Moment) (htimely : Timely interval 0 0 (moments ++ more))
    (hundisturbed : (w₀.live h moments).Throughout h (Undisturbed h) more)
    (hanswered : w₀.Answered h (limit - interval) (moments ++ more)) :
    Attended h interval (moments ++ more) w₀ ∧
      (w₀.live h moments).Throughout h (fun m w => m.isTick = true → w.PingHanded (w.happen h m))
        more := by
  induction more generalizing moments with
  | nil => exact ⟨by rwa [List.append_nil], trivial⟩
  | cons m more ih =>
    obtain ⟨⟨halive, hestablished, hmodules, hcalls⟩, hrest⟩ := hundisturbed
    obtain ⟨_, hm, _⟩ := timely_append.mp htimely
    rw [Nat.zero_add, Nat.zero_add] at hm
    have hnow : (w₀.live h moments).now = elapsed moments := by
      rw [now_live hs, hstart, Nat.zero_add]
    rw [← hnow] at hm
    -- The pings so far and their answers tell that a tick comes soon enough to be a ping.
    have hhanded : m.isTick = true →
        (w₀.live h moments).PingHanded ((w₀.live h moments).happen h m) := by
      intro htick
      cases m with
      | tick ahead =>
        have hactive := not_silent_of_answered hattended hpos hlt (hanswered.of_append hs) hm
        exact tick_handed hattended (Nat.zero_lt_of_lt hlt) halive hestablished hmodules
          (by rw [settings_live hs, hlimit]) hactive ahead
      | request | await | settle | pass => cases htick
    have hkept : ((w₀.live h moments).happen h m).link.closeCalls =
        (w₀.live h moments).link.closeCalls := by
      cases htick : m.isTick with
      | false => exact hcalls htick
      | true => exact (hhanded htick).counts.2
    have hpings : (w₀.live h moments).timesOf h (Moment.isPing h) [m] =
        (List.range (ticksIn [m])).map fun k => (ticksIn moments + k + 1) * interval := by
      show (if m.isPing h (w₀.live h moments) then [(w₀.live h moments).now] else []) = _
      cases m with
      | tick ahead =>
        have hattempts := (hhanded rfl).counts.1
        have hping : (Moment.tick ahead).isPing h (w₀.live h moments) = true := by
          unfold Moment.isPing
          rw [hattempts]
          simp [Moment.isTick]
        rw [if_pos hping, show (w₀.live h moments).now = (ticksIn moments + 1) * interval from hm]
        rfl
      | request | await | settle | pass => rfl
    have hnext := attended_next hattended hs halive hkept hpings
    have happend : moments ++ m :: more = moments ++ [m] ++ more := by simp
    rw [happend] at htimely hanswered ⊢
    have hlater : w₀.live h (moments ++ [m]) = (w₀.live h moments).happen h m :=
      live_append _ _ _
    obtain ⟨hattended', hthroughout⟩ := ih hnext htimely (hlater ▸ hrest) hanswered
    exact ⟨hattended', hhanded, hlater ▸ hthroughout⟩

end Step

theorem attended_create {interval : Nat} {vigil : Vigil} (hagrees : Agrees vigil w₀)
    (hgoing : vigil.ended = none) (hconnected : w₀.link.connected = true) :
    Attended h interval [] w₀ where
  pings := rfl
  heard := nofun
  activity := hagrees.activity ▸ hagrees.heard
  running := (hagrees.going_iff.mp hgoing).2
  connected := hconnected
  closeCalls := rfl

/-- Intervals that are both wanted leave time for an answer. -/
theorem interval_lt_of_validate {settings : ChannelSettings} (hvalid : settings.validate = .ok ())
    (hinterval : settings.pingInterval ≠ 0) (hlimit : settings.disconnectionInterval ≠ 0) :
    0 < settings.pingInterval.toNat ∧
      settings.pingInterval.toNat < settings.disconnectionInterval.toNat := by
  unfold ChannelSettings.validate at hvalid
  split at hvalid
  · cases hvalid
  · rename_i hok
    have hpos : ∀ n : UInt64, n ≠ 0 → 0 < n := fun n hn => UInt64.pos_iff_ne_zero.mpr hn
    refine ⟨UInt64.lt_iff_toNat_lt.mp (hpos _ hinterval), ?_⟩
    refine UInt64.lt_iff_toNat_lt.mp (UInt64.not_le.mp fun hle => ?_)
    exact hok ⟨hpos _ hinterval, hpos _ hlimit, hle⟩

/-- A peer that answers every ping in time is never cut off: in a session that is established all
along, without modules for commands, and that nobody else closes, every tick hands a ping to the
link, the first one an interval after the creation and then one every interval, and the link is
never asked to close.  An answer is in time if it comes less than the disconnection interval, less
the ping interval, after its ping. -/
theorem answering_peer_kept (hh : h.IsLawful) {settings : ChannelSettings} {standing : Standing}
    {link : Link} {user : σ} (hcreate : create settings standing link true user = .ok w₀)
    (hinterval : settings.pingInterval ≠ 0) (hlimit : settings.disconnectionInterval ≠ 0)
    (hopen : link.connected = true) {moments : List Moment}
    (htimely : Timely settings.pingInterval.toNat 0 0 moments)
    (hundisturbed : w₀.Throughout h (Undisturbed h) moments)
    (hanswered : w₀.Answered h
      (settings.disconnectionInterval.toNat - settings.pingInterval.toNat) moments) :
    let w := w₀.live h moments
    w₀.Throughout h (fun m w => m.isTick = true → w.PingHanded (w.happen h m)) moments ∧
      w₀.timesOf h (Moment.isPing h) moments =
        (List.range (ticksIn moments)).map (fun k => (k + 1) * settings.pingInterval.toNat) ∧
      w.link.closeCalls = link.closeCalls ∧ w.link.connected = true ∧
        w.channel.keepAlive = .running := by
  obtain ⟨hvalid, hnow₀, hsettings₀, hlink₀⟩ := created hcreate
  obtain ⟨hpos, hlt⟩ := interval_lt_of_validate hvalid hinterval hlimit
  have hattended₀ : Attended h settings.pingInterval.toNat [] w₀ :=
    attended_create (agrees_create hcreate hinterval) rfl (hlink₀ ▸ hopen)
  obtain ⟨hattended, hhanded⟩ := attended_run hattended₀ hh.spans_onward hpos hlt
    (by rw [hsettings₀]) hnow₀ moments htimely hundisturbed hanswered
  exact ⟨hhanded, hattended.pings, hlink₀ ▸ hattended.closeCalls, hattended.connected,
    hattended.running⟩

/-- A peer whose answers to the first pings arrive at 240, 340 and 430 milliseconds. -/
def tardyMoments : List Moment :=
  let answer (n : Nat) := Moment.request (.raise (.command (.pong (.ping (freshId n)))))
  [.pass 100, .tick false, .pass 100, .tick true, .pass 40, answer 0, .pass 60, .tick false,
    .pass 40, answer 1, .pass 60, .tick false, .pass 30, answer 2]

theorem answering_peer_kept_tardy :
    ∃ w₀ : World Unit,
      create watchfulSettings { state := .established } {} true () = .ok w₀ ∧
        Timely 100 0 0 tardyMoments ∧
        w₀.Throughout Host.silent (Undisturbed Host.silent) tardyMoments ∧
        w₀.Answered Host.silent 150 tardyMoments ∧
        w₀.timesOf Host.silent Moment.isReception tardyMoments = [240, 340, 430] ∧
        w₀.timesOf Host.silent (Moment.isPing Host.silent) tardyMoments = [100, 200, 300, 400] ∧
        (w₀.live Host.silent tardyMoments).link.closeCalls = 0 := by
  refine ⟨_, rfl, by decide, by decide, by decide, by decide, ?_⟩
  obtain ⟨_, hpings, hcalls, _⟩ := answering_peer_kept Host.silent_isLawful
    (show create watchfulSettings { state := .established } {} true () = .ok _ from rfl)
    (by decide) (by decide) rfl (show Timely 100 0 0 tardyMoments by decide) (by decide)
    (by decide)
  exact ⟨hpings, hcalls⟩

end World
end Courier
