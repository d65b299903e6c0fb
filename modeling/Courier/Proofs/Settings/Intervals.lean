/-
Intervals are kept in whole milliseconds.

A duration that is set as an interval is read back rounded down to milliseconds, as far as 64 bits
hold them.  So an interval is on exactly if it is a millisecond or longer, and the check, which asks
for a silence longer than the time between two pings, tells two durations apart only by their
milliseconds: it refuses two that are rounded down to one, though one of them is longer
(`intervals_exact`).
-/
import Courier.Settings.Basic

namespace Courier

namespace Duration

variable {d e : Duration}

/-- A duration less what it has beyond whole milliseconds. -/
def roundedDown (d : Duration) : Duration :=
  ⟨d.nanoseconds - d.nanoseconds % nanosecondsPerMillisecond⟩

/-- Whether 64 bits hold the milliseconds of a duration. -/
def FitsWord (d : Duration) : Prop :=
  d.nanoseconds < UInt64.size * nanosecondsPerMillisecond

theorem FitsWord.of_le (h : e.FitsWord) (hle : d.nanoseconds ≤ e.nanoseconds) : d.FitsWord :=
  Nat.lt_of_le_of_lt hle h

theorem milliseconds_lt_of_fitsWord (h : d.FitsWord) : d.milliseconds < UInt64.size :=
  Nat.div_lt_of_lt_mul (Nat.mul_comm _ _ ▸ h)

theorem ofMilliseconds_milliseconds (d : Duration) :
    ofMilliseconds d.milliseconds = d.roundedDown :=
  congrArg mk Nat.div_mul_self_eq_mod_sub_self

theorem milliseconds_pos_iff : 0 < d.milliseconds ↔ nanosecondsPerMillisecond ≤ d.nanoseconds :=
  Nat.div_pos_iff.trans (and_iff_right (by decide))

theorem roundedDown_eq_iff :
    d.roundedDown = e.roundedDown ↔ d.milliseconds = e.milliseconds := by
  rw [← ofMilliseconds_milliseconds, ← ofMilliseconds_milliseconds]
  constructor
  · intro h
    rw [← milliseconds_ofMilliseconds d.milliseconds, h, milliseconds_ofMilliseconds]
  · exact congrArg ofMilliseconds

theorem roundedDown_ne_zero_iff :
    d.roundedDown.nanoseconds ≠ 0 ↔ nanosecondsPerMillisecond ≤ d.nanoseconds := by
  have hunit : 0 < nanosecondsPerMillisecond := by decide
  rw [← milliseconds_pos_iff, ← ofMilliseconds_milliseconds, ← Nat.pos_iff_ne_zero]
  exact Nat.mul_pos_iff_of_pos_right hunit

end Duration

namespace ChannelSettings

open Duration

variable {period silence : Duration}

/-! ## What is set is read back -/

theorem toNat_pingInterval (settings : ChannelSettings) (h : period.FitsWord) :
    (settings.withPingInterval period).pingInterval.toNat = period.milliseconds :=
  UInt64.toNat_ofNat_of_lt' (milliseconds_lt_of_fitsWord h)

theorem toNat_disconnectionInterval (settings : ChannelSettings) (h : silence.FitsWord) :
    (settings.withDisconnectionInterval silence).disconnectionInterval.toNat =
      silence.milliseconds :=
  UInt64.toNat_ofNat_of_lt' (milliseconds_lt_of_fitsWord h)

theorem pingPeriod_withPingInterval (settings : ChannelSettings) (h : period.FitsWord) :
    (settings.withPingInterval period).pingPeriod = period.roundedDown := by
  rw [pingPeriod, toNat_pingInterval settings h, ofMilliseconds_milliseconds]

theorem allowedSilence_withDisconnectionInterval (settings : ChannelSettings)
    (h : silence.FitsWord) :
    (settings.withDisconnectionInterval silence).allowedSilence = silence.roundedDown := by
  rw [allowedSilence, toNat_disconnectionInterval settings h, ofMilliseconds_milliseconds]

/-! ## What the check tells apart -/

theorem validate_eq (settings : ChannelSettings) :
    settings.validate =
      if 0 < settings.pingInterval.toNat ∧ 0 < settings.disconnectionInterval.toNat ∧
          settings.disconnectionInterval.toNat ≤ settings.pingInterval.toNat then
        .error (.invalidPingIntervals settings.pingInterval settings.disconnectionInterval)
      else .ok () := by
  simp only [validate, UInt64.lt_iff_toNat_lt, UInt64.le_iff_toNat_le, UInt64.toNat_zero]

/-- Settings with a time between two pings and a silence that closes the transport. -/
def withIntervals (settings : ChannelSettings) (period silence : Duration) : ChannelSettings :=
  (settings.withPingInterval period).withDisconnectionInterval silence

/-- Of a time between two pings and a longer silence, each is read back rounded down to whole
milliseconds, as far as 64 bits hold them, and is on exactly if it is a millisecond or longer.  The
check refuses the two exactly if pings are on and both are rounded down to the same. -/
theorem intervals_exact (settings : ChannelSettings)
    (hlt : period.nanoseconds < silence.nanoseconds) :
    let chosen := settings.withIntervals period silence
    (period.FitsWord → chosen.pingPeriod = period.roundedDown ∧
      (chosen.pingPeriod.nanoseconds ≠ 0 ↔ nanosecondsPerMillisecond ≤ period.nanoseconds)) ∧
    (silence.FitsWord → chosen.allowedSilence = silence.roundedDown ∧
      (chosen.allowedSilence.nanoseconds ≠ 0 ↔ nanosecondsPerMillisecond ≤ silence.nanoseconds) ∧
      chosen.validate =
        if nanosecondsPerMillisecond ≤ period.nanoseconds ∧
            period.roundedDown = silence.roundedDown then
          .error (.invalidPingIntervals chosen.pingInterval chosen.disconnectionInterval)
        else .ok ()) := by
  intro chosen
  have hperiod : period.FitsWord → chosen.pingPeriod = period.roundedDown :=
    pingPeriod_withPingInterval settings
  have hsilence : silence.FitsWord → chosen.allowedSilence = silence.roundedDown :=
    allowedSilence_withDisconnectionInterval _
  refine ⟨fun hfits => ⟨hperiod hfits, ?_⟩, fun hfits => ⟨hsilence hfits, ?_, ?_⟩⟩
  · rw [hperiod hfits, roundedDown_ne_zero_iff]
  · rw [hsilence hfits, roundedDown_ne_zero_iff]
  · have hping : chosen.pingInterval.toNat = period.milliseconds :=
      toNat_pingInterval settings (hfits.of_le (Nat.le_of_lt hlt))
    have hclose : chosen.disconnectionInterval.toNat = silence.milliseconds :=
      toNat_disconnectionInterval _ hfits
    have hle : period.milliseconds ≤ silence.milliseconds :=
      Nat.div_le_div_right (Nat.le_of_lt hlt)
    -- The longer one is never rounded down to less, so what is left of `≤` is equality.
    have hrefused : 0 < period.milliseconds ∧ 0 < silence.milliseconds ∧
        silence.milliseconds ≤ period.milliseconds ↔
          nanosecondsPerMillisecond ≤ period.nanoseconds ∧
            period.roundedDown = silence.roundedDown := by
      rw [← milliseconds_pos_iff, roundedDown_eq_iff]
      omega
    simp only [validate_eq, hping, hclose, hrefused]

/-- A millisecond, and the longest silence whose milliseconds 64 bits hold. -/
theorem intervals_exact_longest :
    let period := ofParts 0 1000000
    let silence := ofParts 18446744073709551 615999999
    let chosen := ({} : ChannelSettings).withIntervals period silence
    period.nanoseconds < silence.nanoseconds ∧ period.FitsWord ∧ silence.FitsWord ∧
      chosen.pingPeriod = .ofMilliseconds 1 ∧
      chosen.allowedSilence = .ofMilliseconds 18446744073709551615 ∧
      chosen.validate = .ok () := by
  intro period silence chosen
  have hlt : period.nanoseconds < silence.nanoseconds := by decide
  have hperiod : period.FitsWord := by unfold FitsWord; decide
  have hsilence : silence.FitsWord := by unfold FitsWord; decide
  obtain ⟨hping, hclose⟩ := intervals_exact {} hlt
  obtain ⟨hallowed, -, hvalid⟩ := hclose hsilence
  have hapart : period.roundedDown ≠ silence.roundedDown := by decide
  have hone : period.roundedDown = .ofMilliseconds 1 := by decide
  have hall : silence.roundedDown = .ofMilliseconds 18446744073709551615 := by decide
  exact ⟨hlt, hperiod, hsilence, (hping hperiod).1.trans hone, hallowed.trans hall,
    hvalid.trans (if_neg fun h => hapart h.2)⟩

/-- A longer silence is not enough.  Two durations that are rounded down to the same are refused, a
duration below a millisecond is none, and so is one of 2 ^ 64 milliseconds. -/
theorem close_intervals_refused :
    (let period := ofParts 0 1000000
      let silence := ofParts 0 1500000
      0 < period.nanoseconds ∧ period.nanoseconds < silence.nanoseconds ∧
        (({} : ChannelSettings).withIntervals period silence).validate =
          .error (.invalidPingIntervals 1 1)) ∧
    (let period := ofParts 0 500000
      let silence := ofParts 0 2000000
      0 < period.nanoseconds ∧ period.nanoseconds < silence.nanoseconds ∧
        (({} : ChannelSettings).withIntervals period silence).pingPeriod.nanoseconds = 0) ∧
    (let period := ofParts 0 1000000
      let silence := ofParts 18446744073709551 616000000
      0 < period.nanoseconds ∧ period.nanoseconds < silence.nanoseconds ∧
        (({} : ChannelSettings).withIntervals period silence).allowedSilence.nanoseconds = 0) :=
  ⟨⟨by decide, by decide, rfl⟩, ⟨by decide, by decide, rfl⟩, by decide, by decide, rfl⟩

end ChannelSettings
end Courier
