/-
Runs on an exact clock.

A run is a list of moments: a request, the passing of time, a tick of the clock.  In a timely run
the ticks come at the multiples of the ping interval, and none is left out; whatever else happens
may happen at any time, also at that of a tick, before it or after it.  If the pings are stopped at
the very time of a tick, it is open which of the two is noticed first, so the tick that comes next
may still be taken up (`World.Heeds`).  The runs of steps, in which the ticks that are due come as
time is let pass, are timely runs (`after_eq_live`).
-/
import Courier.Proofs.Channel.Pulse

namespace Courier

/-- A moment of a run. -/
inductive Moment where
  | request (request : Request)
  /-- Somebody starts a handshake to wait for its outcome. -/
  | await (establishment : Establishment) (name : Name)
  /-- Those who wait see the outcomes that have arrived. -/
  | settle
  /-- Time passes, in milliseconds. -/
  | pass (duration : Nat)
  /-- The clock of the pings ticks; `ahead` if it is noticed before a stop at the same time. -/
  | tick (ahead : Bool)

namespace Moment

def isTick : Moment → Bool
  | tick _ => true
  | _ => false

/-- How long a moment lasts. -/
def duration : Moment → Nat
  | pass duration => duration
  | _ => 0

/-- Whether a moment may come at a time, after a number of ticks: time does not pass the next tick,
and the next tick does not come early. -/
def InTime (interval ticked now : Nat) : Moment → Prop
  | pass duration => now + duration ≤ (ticked + 1) * interval
  | tick _ => now = (ticked + 1) * interval
  | _ => True

instance (interval ticked now : Nat) : (m : Moment) → Decidable (m.InTime interval ticked now)
  | pass duration => inferInstanceAs (Decidable (now + duration ≤ (ticked + 1) * interval))
  | tick _ => inferInstanceAs (Decidable (now = (ticked + 1) * interval))
  | request _ => .isTrue trivial
  | await _ _ => .isTrue trivial
  | settle => .isTrue trivial

end Moment

/-- How many ticks there are in a run. -/
def ticksIn (moments : List Moment) : Nat :=
  moments.countP Moment.isTick

/-- How long a run lasts. -/
def elapsed : List Moment → Nat
  | [] => 0
  | m :: moments => m.duration + elapsed moments

/-- Whether every moment comes in time, from a time on before which there was a number of ticks. -/
def Timely (interval : Nat) : Nat → Nat → List Moment → Prop
  | _, _, [] => True
  | ticked, now, m :: moments =>
    m.InTime interval ticked now ∧
      Timely interval (ticked + ticksIn [m]) (now + m.duration) moments

instance Timely.decide (interval : Nat) :
    (ticked now : Nat) → (moments : List Moment) → Decidable (Timely interval ticked now moments)
  | _, _, [] => .isTrue trivial
  | ticked, now, m :: moments =>
    have := Timely.decide interval (ticked + ticksIn [m]) (now + m.duration) moments
    inferInstanceAs (Decidable (_ ∧ _))

theorem ticksIn_cons (m : Moment) (moments : List Moment) :
    ticksIn (m :: moments) = ticksIn [m] + ticksIn moments := by
  show ticksIn ([m] ++ moments) = _
  exact List.countP_append

theorem ticksIn_append (first second : List Moment) :
    ticksIn (first ++ second) = ticksIn first + ticksIn second :=
  List.countP_append

theorem elapsed_cons (m : Moment) (moments : List Moment) :
    elapsed (m :: moments) = m.duration + elapsed moments := rfl

theorem elapsed_append (first second : List Moment) :
    elapsed (first ++ second) = elapsed first + elapsed second := by
  induction first with
  | nil => simp [elapsed]
  | cons m first ih => rw [List.cons_append, elapsed_cons, elapsed_cons, ih, Nat.add_assoc]

theorem timely_append {interval ticked now : Nat} {first second : List Moment} :
    Timely interval ticked now (first ++ second) ↔
      Timely interval ticked now first ∧
        Timely interval (ticked + ticksIn first) (now + elapsed first) second := by
  induction first generalizing ticked now with
  | nil => simp [Timely, ticksIn, elapsed]
  | cons m first ih =>
    simp only [List.cons_append, Timely, ih, ticksIn_cons m first, elapsed_cons, and_assoc,
      Nat.add_assoc]

namespace World

variable {σ : Type} {h : Host σ} {w : World σ}

/-- Whether a tick is taken up.  It is if the pings go on; and it may be if they have been stopped
at this very time, since a stop takes effect only when it is noticed. -/
def Heeds (ahead : Bool) (w : World σ) : Prop :=
  w.channel.keepAlive = .running ∨ ahead = true ∧ w.channel.keepAlive = .stopped w.now

instance (ahead : Bool) (w : World σ) : Decidable (w.Heeds ahead) :=
  inferInstanceAs (Decidable (_ ∨ _))

theorem heeds_of_running (hrunning : w.channel.keepAlive = .running) (ahead : Bool) :
    w.Heeds ahead :=
  .inl hrunning

/-- A tick that comes after the stop has been noticed is taken up only if the pings go on. -/
theorem heeds_false_iff : w.Heeds false ↔ w.channel.keepAlive = .running := by
  simp [Heeds]

/-- What a moment makes of a world. -/
def happen (h : Host σ) (m : Moment) (w : World σ) : World σ :=
  match m with
  | .request request => (w.perform h request).2
  | .await establishment name => if w.held then w.await establishment name else w
  | .settle => w.settle
  | .pass duration => { w with now := w.now + duration }
  | .tick ahead => if w.Heeds ahead then w.tick h else w

/-- The world after a run. -/
def live (h : Host σ) (moments : List Moment) (w : World σ) : World σ :=
  moments.foldl (fun w m => w.happen h m) w

/-- The times of the moments of a run that are of some kind. -/
def timesOf (h : Host σ) (kind : Moment → World σ → Bool) : List Moment → World σ → List Nat
  | [], _ => []
  | m :: moments, w =>
    if kind m w then w.now :: timesOf h kind moments (w.happen h m)
    else timesOf h kind moments (w.happen h m)

/-- Whether every moment of a run is such, in the world in which it comes. -/
def Throughout (h : Host σ) (P : Moment → World σ → Prop) : List Moment → World σ → Prop
  | [], _ => True
  | m :: moments, w => P m w ∧ Throughout h P moments (w.happen h m)

theorem live_cons (m : Moment) (moments : List Moment) (w : World σ) :
    w.live h (m :: moments) = (w.happen h m).live h moments :=
  rfl

theorem live_append (first second : List Moment) (w : World σ) :
    w.live h (first ++ second) = (w.live h first).live h second :=
  List.foldl_append

theorem timesOf_append (kind : Moment → World σ → Bool) (first second : List Moment)
    (w : World σ) :
    w.timesOf h kind (first ++ second) =
      w.timesOf h kind first ++ (w.live h first).timesOf h kind second := by
  induction first generalizing w with
  | nil => rfl
  | cons m first ih =>
    show (if kind m w then w.now :: timesOf h kind (first ++ second) (w.happen h m)
      else timesOf h kind (first ++ second) (w.happen h m)) = _
    rw [ih, live_cons, timesOf]
    split <;> rfl

instance Throughout.decide {P : Moment → World σ → Prop} [∀ m w, Decidable (P m w)] :
    (moments : List Moment) → (w : World σ) → Decidable (w.Throughout h P moments)
  | [], _ => .isTrue trivial
  | m :: moments, w =>
    have : Decidable ((w.happen h m).Throughout h P moments) := Throughout.decide moments _
    inferInstanceAs (Decidable (_ ∧ _))

/-! ## Time -/

/-- Once it has been noticed that the pings have been stopped, there is nothing to tick. -/
theorem happen_tick_of_stopped (hstopped : w.channel.keepAlive ≠ .running) :
    w.happen h (.tick false) = w :=
  if_neg (mt heeds_false_iff.mp hstopped)

/-- A channel that is gone stops its pings at the next tick. -/
theorem happen_tick_of_gone (hgone : w.alive = false) (ahead : Bool) :
    w.happen h (.tick ahead) = if w.Heeds ahead then w.stopKeepAlive else w := by
  show (if w.Heeds ahead then w.tick h else w) = _
  unfold tick
  rw [hgone]
  rfl

section

variable (hs : Spans h (@Onward σ))
include hs

/-- What a moment makes of a world, as long as it takes no time and the channel is there to be
pinged. -/
theorem onward_happen {m : Moment} (hduration : m.duration = 0)
    (halive : m.isTick = true → w.alive = true) : Onward w (w.happen h m) := by
  cases m with
  | request request => exact onward_perform hs request w
  | await establishment name =>
    show Onward w (if w.held then w.await establishment name else w)
    split
    · have hawaited := await_carries hs.carries establishment name w
      exact ⟨hawaited.now, hawaited.settings, hawaited.activity, hawaited.closeCalls,
        hawaited.line⟩
    · exact .still rfl
  | settle =>
    show Onward w w.settle
    rw [settle_eq]
    exact ⟨rfl, rfl, .inl rfl, Nat.le_refl _, .inr ⟨rfl, rfl⟩⟩
  | pass duration =>
    cases (show duration = 0 from hduration)
    exact .still rfl
  | tick ahead =>
    show Onward w (if w.Heeds ahead then w.tick h else w)
    split
    · exact onward_tick hs (halive rfl)
    · exact .still rfl

theorem clock_happen (m : Moment) (w : World σ) :
    (w.happen h m).now = w.now + m.duration ∧
      (w.happen h m).channel.settings = w.channel.settings := by
  by_cases halive : m.isTick = true → w.alive = true
  · cases m with
    | pass duration => exact ⟨rfl, rfl⟩
    | request | await | settle | tick =>
      have honward := onward_happen hs rfl halive
      exact ⟨honward.now, honward.settings⟩
  · obtain ⟨htick, hgone⟩ := Classical.not_imp.mp halive
    cases m with
    | tick =>
      rw [happen_tick_of_gone (Bool.eq_false_iff.mpr hgone)]
      split <;> exact ⟨rfl, rfl⟩
    | request | await | settle | pass => cases htick

theorem now_live (moments : List Moment) (w : World σ) :
    (w.live h moments).now = w.now + elapsed moments := by
  induction moments generalizing w with
  | nil => rfl
  | cons m moments ih =>
    rw [live_cons, ih, (clock_happen hs m w).1, elapsed_cons, Nat.add_assoc]

theorem settings_live (moments : List Moment) (w : World σ) :
    (w.live h moments).channel.settings = w.channel.settings := by
  induction moments generalizing w with
  | nil => rfl
  | cons m moments ih => rw [live_cons, ih, (clock_happen hs m w).2]

theorem now_le_of_mem_timesOf {kind : Moment → World σ → Bool} {moments : List Moment} {t : Nat}
    (ht : t ∈ w.timesOf h kind moments) : w.now ≤ t := by
  induction moments generalizing w with
  | nil => cases ht
  | cons m moments ih =>
    have hlater : t ∈ timesOf h kind moments (w.happen h m) → w.now ≤ t := by
      intro ht
      have hle := ih ht
      rw [(clock_happen hs m w).1] at hle
      exact Nat.le_of_add_right_le hle
    unfold timesOf at ht
    split at ht
    · rcases List.mem_cons.mp ht with rfl | ht
      · exact Nat.le_refl _
      · exact hlater ht
    · exact hlater ht

end

/-! ## Runs of steps -/

/-- A number of ticks, the first of them at a given time, each after the time that passes before
it. -/
def ticking (interval : Nat) : Nat → Nat → Nat → List Moment
  | 0, _, _ => []
  | count + 1, now, time =>
    .pass (time - now) :: .tick false :: ticking interval count time (time + interval)

/-- The moments of a step that is taken at a time. -/
def momentsOf (interval now : Nat) : Step → List Moment
  | .request request => [.request request, .settle]
  | .await establishment name => [.await establishment name, .settle]
  | .advance duration =>
    let count := (now + duration) / interval - now / interval
    let ticks := ticking interval count now ((now / interval + 1) * interval)
    ticks ++ [.pass (duration - elapsed ticks), .settle]

theorem timely_ticking {interval : Nat} (count ticked now : Nat)
    (hnow : now ≤ (ticked + 1) * interval) :
    Timely interval ticked now (ticking interval count now ((ticked + 1) * interval)) := by
  induction count generalizing ticked now with
  | zero => trivial
  | succ count ih =>
    have htime : now + ((ticked + 1) * interval - now) = (ticked + 1) * interval := by omega
    have hrest := ih (ticked + 1) ((ticked + 1) * interval)
      (Nat.mul_le_mul_right interval (Nat.le_succ _))
    rw [Nat.succ_mul (ticked + 1)] at hrest
    refine ⟨Nat.le_of_eq htime, ?_⟩
    show Timely interval ticked (now + ((ticked + 1) * interval - now)) _
    rw [htime]
    exact ⟨rfl, hrest⟩

theorem elapsed_ticking (interval : Nat) {now time : Nat} (hnow : now ≤ time) (count : Nat) :
    now + elapsed (ticking interval (count + 1) now time) = time + count * interval := by
  induction count generalizing now time with
  | zero => simp [ticking, elapsed, Moment.duration, hnow]
  | succ count ih =>
    have hrest := ih (Nat.le_add_right time interval)
    rw [ticking, elapsed_cons, elapsed_cons]
    simp only [Moment.duration]
    rw [Nat.succ_mul]
    omega

theorem ticksIn_ticking (interval count now time : Nat) :
    ticksIn (ticking interval count now time) = count := by
  induction count generalizing now time with
  | zero => rfl
  | succ count ih =>
    have hrest := ih time (time + interval)
    simp only [ticking, ticksIn, List.countP_cons, Moment.isTick] at hrest ⊢
    simp [hrest]

/-- Where the pings have been stopped, only time passes. -/
theorem live_ticking_of_stopped {interval target : Nat} (count now time : Nat) (w : World σ)
    (hstopped : w.channel.keepAlive ≠ .running) :
    { w.live h (ticking interval count now time) with now := target } =
      { w with now := target } := by
  induction count generalizing now time w with
  | zero => rfl
  | succ count ih =>
    have htick : ({ w with now := w.now + (time - now) } : World σ).happen h (.tick false) =
        { w with now := w.now + (time - now) } := happen_tick_of_stopped hstopped
    rw [ticking, live_cons, live_cons]
    show { (happen h (.tick false) { w with now := w.now + (time - now) }).live h _ with
      now := target } = _
    rw [htick]
    exact ih time (time + interval) _ hstopped

theorem live_ticking (hs : Spans h (@Onward σ)) {interval target : Nat} (count time : Nat)
    (w : World σ) (hnow : w.now ≤ time) :
    { w.live h (ticking interval count w.now time) with now := target } =
      { w.ticks h interval count time with now := target } := by
  induction count generalizing time w with
  | zero => rfl
  | succ count ih =>
    have hpassed : w.happen h (.pass (time - w.now)) = { w with now := time } := by
      show { w with now := w.now + (time - w.now) } = _
      rw [Nat.add_sub_cancel' hnow]
    rw [ticking, live_cons, live_cons, hpassed]
    unfold ticks
    by_cases hrunning : w.channel.keepAlive = .running
    · have hticked : ({ w with now := time } : World σ).happen h (.tick false) =
          ({ w with now := time } : World σ).tick h := if_pos (.inl hrunning)
      have htime : (({ w with now := time } : World σ).tick h).now = time := by
        rw [← hticked, (clock_happen hs _ _).1]
        rfl
      rw [if_pos hrunning, hticked]
      have hrest := ih (time + interval) (({ w with now := time } : World σ).tick h)
        (by rw [htime]; exact Nat.le_add_right _ _)
      rwa [htime] at hrest
    -- The channel lets no more ticks come, and those of the run find nothing to do.
    · have hticked : ({ w with now := time } : World σ).happen h (.tick false) =
          { w with now := time } := happen_tick_of_stopped hrunning
      rw [if_neg hrunning, hticked]
      exact live_ticking_of_stopped count time (time + interval) _ hrunning

section

variable {interval : Nat} (hpos : 0 < interval)
include hpos

theorem elapsed_due_le (now duration : Nat) :
    elapsed (ticking interval ((now + duration) / interval - now / interval) now
      ((now / interval + 1) * interval)) ≤ duration := by
  have hnext : now ≤ (now / interval + 1) * interval :=
    Nat.le_of_lt (Nat.lt_mul_of_div_lt (Nat.lt_succ_self _) hpos)
  cases hcount : (now + duration) / interval - now / interval with
  | zero => exact Nat.zero_le _
  | succ count =>
    have helapsed := elapsed_ticking interval hnext count
    rw [← Nat.add_mul] at helapsed
    have hlast : (now / interval + 1 + count) * interval ≤ now + duration := by
      rw [show now / interval + 1 + count = (now + duration) / interval by omega]
      exact Nat.div_mul_le_self _ _
    omega

theorem elapsed_momentsOf (now : Nat) (step : Step) :
    elapsed (momentsOf interval now step) =
      match step with
      | .advance duration => duration
      | _ => 0 := by
  cases step with
  | request | await => rfl
  | advance duration =>
    have hdue := elapsed_due_le hpos now duration
    rw [momentsOf, elapsed_append, elapsed_cons, elapsed_cons]
    simp only [Moment.duration, elapsed]
    omega

theorem timely_momentsOf (now : Nat) (step : Step) :
    Timely interval (now / interval) now (momentsOf interval now step) ∧
      now / interval + ticksIn (momentsOf interval now step) =
        (now + elapsed (momentsOf interval now step)) / interval := by
  rw [elapsed_momentsOf hpos]
  cases step with
  | request | await => exact ⟨⟨trivial, trivial, trivial⟩, rfl⟩
  | advance duration =>
    have hnext : now ≤ (now / interval + 1) * interval :=
      Nat.le_of_lt (Nat.lt_mul_of_div_lt (Nat.lt_succ_self _) hpos)
    have hdue := elapsed_due_le hpos now duration
    have hmono : now / interval ≤ (now + duration) / interval :=
      Nat.div_le_div_right (Nat.le_add_right _ _)
    have hcount : now / interval + ((now + duration) / interval - now / interval) =
        (now + duration) / interval := by omega
    simp only [momentsOf]
    refine ⟨timely_append.mpr ⟨timely_ticking _ _ _ hnext, ?_, trivial, trivial⟩, ?_⟩
    · show now + elapsed _ + (duration - elapsed _) ≤ (now / interval + ticksIn _ + 1) * interval
      rw [ticksIn_ticking, hcount]
      have hlt : now + duration < ((now + duration) / interval + 1) * interval :=
        Nat.lt_mul_of_div_lt (Nat.lt_succ_self _) hpos
      omega
    · rw [ticksIn_append, ticksIn_ticking]
      exact hcount

omit hpos in
theorem step_eq_live (hs : Spans h (@Onward σ)) (step : Step) (w : World σ)
    (hinterval : w.channel.settings.pingInterval.toNat = interval) (hpos : interval ≠ 0) :
    (w.step h step).2 = w.live h (momentsOf interval w.now step) := by
  cases step with
  | request request => rfl
  | await establishment name =>
    show settle (Prod.snd (ite _ _ _)) = settle (ite _ _ _)
    split <;> rfl
  | advance duration =>
    have hnext : w.now ≤ (w.now / interval + 1) * interval :=
      Nat.le_of_lt (Nat.lt_mul_of_div_lt (Nat.lt_succ_self _) (Nat.pos_of_ne_zero hpos))
    have hdue := elapsed_due_le (Nat.pos_of_ne_zero hpos) w.now duration
    show (w.advance h duration).settle = _
    unfold advance
    dsimp only [momentsOf]
    rw [hinterval, if_neg hpos, ← live_ticking hs _ _ w hnext, live_append]
    generalize ticking interval _ w.now _ = due at hdue ⊢
    show settle { w.live h due with now := w.now + duration } =
      settle { w.live h due with now := (w.live h due).now + (duration - elapsed due) }
    have hend : (w.live h due).now + (duration - elapsed due) = w.now + duration := by
      rw [now_live hs]
      omega
    rw [hend]

end

/-- A run of steps is a timely run. -/
theorem after_eq_live (hs : Spans h (@Onward σ)) {interval : Nat} (hpos : interval ≠ 0)
    (steps : List Step) (w : World σ)
    (hinterval : w.channel.settings.pingInterval.toNat = interval) :
    ∃ moments, w.after h steps = w.live h moments ∧
      Timely interval (w.now / interval) w.now moments := by
  induction steps generalizing w with
  | nil => exact ⟨[], rfl, trivial⟩
  | cons step steps ih =>
    have hstep := step_eq_live hs step w hinterval hpos
    obtain ⟨htimely, hticks⟩ := timely_momentsOf (Nat.pos_of_ne_zero hpos) w.now step
    have hkept : (w.step h step).2.channel.settings.pingInterval.toNat = interval := by
      rw [hstep, settings_live hs, hinterval]
    obtain ⟨moments, hmoments, hrest⟩ := ih (w.step h step).2 hkept
    refine ⟨momentsOf interval w.now step ++ moments, ?_, timely_append.mpr ⟨htimely, ?_⟩⟩
    · rw [live_append, ← hstep]
      exact hmoments
    · rw [hticks, ← now_live hs, ← hstep]
      exact hrest

end World
end Courier
