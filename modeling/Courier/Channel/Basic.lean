/-
Channels: an endpoint of a session over a link, and the world around it.

A channel has a pipeline and a registry for each kind of traffic, and registries for sessions and for
the close of the link.  The listeners and modules belong to the program around the channel and are
known by name; a channel adds handshakes, which listen like any other listener, and a module that
notifies receipt.

The program is given by a `Host`, which runs its callbacks.  A callback may use the channel again
while it runs, so it is a function on the whole `World`: the channel, the link, the clock, the state
of the program, and a trace of what has happened so far.
-/
import Courier.Channel.Handshake
import Courier.Channel.Link
import Courier.Channel.Standing
import Courier.Pipeline
import Courier.Registry

namespace Courier

/-- What the listeners and modules of a program are known by. -/
abbrev Name := String

/-- Something for each kind of traffic. -/
structure PerKind (α : Type) where
  message : α
  notification : α
  command : α
  deriving DecidableEq, Repr, Inhabited

namespace PerKind

variable {α : Type}

def get (each : PerKind α) : Traffic → α
  | .message => each.message
  | .notification => each.notification
  | .command => each.command

def set (each : PerKind α) (kind : Traffic) (a : α) : PerKind α :=
  match kind with
  | .message => { each with message := a }
  | .notification => { each with notification := a }
  | .command => { each with command := a }

end PerKind

/-- A module of a channel: one of the program, or the one that notifies receipt. -/
inductive Stage where
  | named (name : Name)
  | receipt
  deriving DecidableEq, Repr, Inhabited

/-- Who listens for sessions and for the close: a listener of the program, or a handshake. -/
inductive Subscriber where
  | named (name : Name)
  | handshake (number : Nat)
  deriving DecidableEq, Repr, Inhabited

/-- How a handshake ends: with the session that ended it, or with an error. -/
abbrev Outcome := Except ChannelError Session

/-- Who is told of the outcome of a handshake: a listener of the program, or whoever waits for it. -/
inductive Reporter where
  | callback (name : Name)
  | waiting (name : Name)
  deriving DecidableEq, Repr, Inhabited

/-- A handshake that has been started. -/
structure Handshake where
  establishment : Establishment
  reporter : Reporter
  /-- Whether its outcome has been reported. -/
  finished : Bool := false
  deriving DecidableEq, Inhabited

/-- The pings of a channel: not wanted, going on, or stopped for good at some time. -/
inductive KeepAlive where
  | off
  | running
  | stopped (time : Nat)
  deriving DecidableEq, Repr, Inhabited

namespace KeepAlive

/-- Stops the pings, if they go on. -/
def stop (now : Nat) : KeepAlive → KeepAlive
  | running => stopped now
  | other => other

/-- Only the first stop counts. -/
@[simp] theorem stop_stop (first second : Nat) (keepAlive : KeepAlive) :
    (keepAlive.stop first).stop second = keepAlive.stop first := by
  cases keepAlive <;> rfl

end KeepAlive

structure Channel where
  settings : ChannelSettings := {}
  standing : Standing := {}
  pipelines : PerKind (Pipeline Stage) := ⟨{}, {}, {}⟩
  listeners : PerKind (Registry Name) := ⟨{}, {}, {}⟩
  sessionListeners : Registry Subscriber := {}
  closeListeners : Registry Subscriber := {}
  /-- The handshakes that have been started, in order. -/
  handshakes : List Handshake := []
  /-- When something was last sent or received, in milliseconds. -/
  lastActivity : Nat := 0
  keepAlive : KeepAlive := .off
  deriving Inhabited

/-- What a listener is told. -/
inductive Notice where
  | envelope (envelope : Envelope)
  /-- The link was closed while the session was in a state. -/
  | closed (state : SessionState)
  deriving DecidableEq, Inhabited

/-- A callback of the program. -/
inductive Call where
  | stage (name : Name) (direction : Direction) (envelope : Envelope)
  | listener (name : Name) (notice : Notice)
  | outcome (name : Name) (outcome : Outcome)

/-- The listener or module that is called. -/
def Call.name : Call → Name
  | stage name .. => name
  | listener name _ => name
  | outcome name _ => name

/-- Which of the registries of a channel. -/
inductive Audience where
  | traffic (kind : Traffic)
  | session
  | close
  deriving DecidableEq, Repr, Inhabited

/-- What a program may ask of a channel and its link. -/
inductive Request where
  | send (envelope : Envelope)
  | receive (envelope : Envelope)
  /-- Let the link deliver an envelope. -/
  | raise (envelope : Envelope)
  /-- An operation on an envelope that could not be read. -/
  | unreadable (operation : String) (fault : Fault)
  | addListener (audience : Audience) (name : Name) (once : Bool)
  | removeListener (audience : Audience) (name : Name)
  /-- Register a listener for the next session only. -/
  | nextSession (name : Name)
  | addModule (kind : Traffic) (name : Name)
  | removeModule (kind : Traffic) (name : Name)
  | moduleCounts
  | startSession (name : Name)
  | negotiate (compression : Compression) (encryption : Encryption)
  | authenticate (identity : Identity) (authentication : Authentication) (place : Option String)
  | finish
  | notifyReceived (id : String) (recipient : Node)
  | establish (establishment : Establishment) (name : Name)
  | close
  | closeLink
  | failToClose (fail : Bool)
  | setLink (compression : Option Compression) (encryption : Option Encryption)
  | sentCounts
  | takeSent
  | settings
  | drop
  | alive

/-- The answer to a request. -/
inductive Reply where
  | flag (b : Bool)
  | count (n : Nat)
  | counts (ns : List Nat)
  | settings (settings : ChannelSettings)
  | failed (error : ChannelError)
  | linkFailed (fault : Fault)
  /-- The program has dropped the channel. -/
  | dropped

/-- What happens in a world. -/
inductive World.Event where
  | sent (envelope : Envelope)
  | unsent (envelope : Envelope) (fault : Fault)
  | closing
  | compressionSet (compression : Compression)
  | encryptionSet (encryption : Encryption)
  | entered (name : Name) (direction : Direction)
  | notified (name : Name) (notice : Notice)
  | concluded (handshake : Nat) (name : Name) (outcome : Outcome)
  | resolved (name : Name) (outcome : Outcome)
  | answered (name : Name) (request : Request) (reply : Reply)

/-- A channel and what is around it. -/
structure World (σ : Type) where
  /-- The time, in milliseconds. -/
  now : Nat := 0
  channel : Channel := {}
  link : Link := {}
  /-- Whether the program holds the channel. -/
  held : Bool := true
  /-- How many wait for the outcome of a handshake; they hold the channel too. -/
  waiting : Nat := 0
  /-- Outcomes that those who wait for them have not seen yet. -/
  arrived : List (Name × Outcome) := []
  /-- How many callbacks are running; the channel is there as long as one is. -/
  depth : Nat := 0
  /-- How many ids have been drawn. -/
  drawn : Nat := 0
  trace : List World.Event := []
  user : σ

/-- The program around a channel: it runs a callback, and makes something of what enters one of its
modules. -/
structure Host (σ : Type) where
  call : Call → World σ → World σ
  transform : (kind : Traffic) → Name → Direction → kind.Item → World σ →
    Option kind.Item × World σ

namespace World

variable {σ : Type}

def record (event : Event) (w : World σ) : World σ :=
  { w with trace := w.trace ++ [event] }

/-- Whether the channel is still there. -/
def alive (w : World σ) : Bool :=
  w.held || w.waiting != 0 || w.depth != 0

/-- Runs a callback of the program. -/
def callOut (h : Host σ) (call : Call) (w : World σ) : World σ :=
  let w := h.call call { w with depth := w.depth + 1 }
  { w with depth := w.depth - 1 }

/-- The `n`-th id that is drawn.  Ids look like random ones. -/
def freshId (n : Nat) : String :=
  let digits := Nat.toDigits 16 n
  "00000000-0000-4000-8000-" ++ String.ofList (List.replicate (12 - digits.length) '0' ++ digits)

/-- Draws an id. -/
def drawId (w : World σ) : String × World σ :=
  (freshId w.drawn, { w with drawn := w.drawn + 1 })

/-- Changes the channel. -/
def modify (f : Channel → Channel) (w : World σ) : World σ :=
  { w with channel := f w.channel }

def stopKeepAlive (w : World σ) : World σ :=
  w.modify fun channel => { channel with keepAlive := channel.keepAlive.stop w.now }

/-- Notes that something was sent or received. -/
def touch (w : World σ) : World σ :=
  w.modify fun channel => { channel with lastActivity := w.now }

end World
end Courier
