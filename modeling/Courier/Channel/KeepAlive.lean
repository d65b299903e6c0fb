/-
Keeping a session alive.

The pings of a channel are driven by a clock that ticks once per ping interval, starting at the
creation of the channel.  A tick closes the link if nothing but pings of our own has happened for the
disconnection interval, and pings otherwise, as long as the session is established.
-/
import Courier.Channel.Receiving

namespace Courier
namespace World

variable {σ : Type}

/-- Whether nothing has happened for the disconnection interval. -/
def isSilent (w : World σ) : Bool :=
  let limit := w.channel.settings.disconnectionInterval.toNat
  limit != 0 && decide (limit ≤ w.now - w.channel.lastActivity)

/-- What happens at a tick. -/
def tick (h : Host σ) (w : World σ) : World σ :=
  if !w.alive then w.stopKeepAlive
  else if w.isSilent then (w.closeLink h).2.stopKeepAlive
  else if w.channel.standing.state = .established then
    let (id, w) := w.drawId
    (w.sendUnchecked h .command (.ping id) false).2
  else w

/-- Lets a number of ticks come, the first of them at a given time, as long as there are any. -/
def ticks (h : Host σ) (interval : Nat) : Nat → Nat → World σ → World σ
  | 0, _, w => w
  | count + 1, time, w =>
    if w.channel.keepAlive = .running then
      ticks h interval count (time + interval) ({ w with now := time }.tick h)
    else w

/-- Lets time pass. -/
def advance (h : Host σ) (duration : Nat) (w : World σ) : World σ :=
  let target := w.now + duration
  let interval := w.channel.settings.pingInterval.toNat
  let w :=
    if interval = 0 then w
    else
      ticks h interval (target / interval - w.now / interval) ((w.now / interval + 1) * interval) w
  { w with now := target }

end World
end Courier
