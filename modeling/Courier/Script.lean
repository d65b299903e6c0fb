/-
Callbacks that call back.

A callback is given as a script: it stops, or makes a request of the engine that called it and goes on
with the reply.  The engine in turn may run callbacks while it answers.  `reenter` ties the two
together for callbacks that are nested a given number of levels deep; below that they do nothing.
Every finite tree of calls has some depth, so what holds for all depths holds for all finite trees.
-/

namespace Courier

/-- What a callback does: it stops, or makes a request and goes on with the reply. -/
inductive Script (ρ α : Type) where
  | done
  | ask (request : ρ) (next : α → Script ρ α)

namespace Script

variable {ρ α ω : Type}

/-- The script that makes requests one after the other, whatever the replies. -/
def ofList : List ρ → Script ρ α
  | [] => done
  | request :: requests => ask request fun _ => ofList requests

/-- Runs a script: `perform` answers its requests, `note` leaves a trace of each answer. -/
def run (perform : ρ → ω → α × ω) (note : ρ → α → ω → ω) : Script ρ α → ω → ω
  | done, w => w
  | ask request next, w =>
    let (reply, w) := perform request w
    run perform note (next reply) (note request reply w)

/-- The script of a callback whose requests are laid down beforehand, call by call: a call past the
end of the plan makes none.  The state is the callbacks that have been called so far. -/
def planned {κ : Type} [DecidableEq κ] (plan : κ → List (List ρ)) (callee : κ) (called : List κ) :
    Script ρ α × List κ :=
  (ofList ((plan callee)[called.count callee]?.getD []), callee :: called)

end Script

variable {κ ρ α ω : Type}

/-- A callback of an engine, where callbacks are nested `n` levels deep at most.  It runs the script
that `script` starts; the engine answers the requests by `perform`, which is told how to run the
callbacks of the next level. -/
def callback (perform : (κ → ω → ω) → ρ → ω → α × ω) (script : κ → ω → Script ρ α × ω)
    (note : κ → ρ → α → ω → ω) : Nat → κ → ω → ω
  | 0, _, w => w
  | n + 1, call, w =>
    let (steps, w) := script call w
    steps.run (perform (callback perform script note n)) (note call) w

/-- An engine with callbacks nested `n` levels deep. -/
def reenter (perform : (κ → ω → ω) → ρ → ω → α × ω) (script : κ → ω → Script ρ α × ω)
    (note : κ → ρ → α → ω → ω) (n : Nat) : ρ → ω → α × ω :=
  perform (callback perform script note n)

end Courier
