/-
Requests: what a program does with a channel.

A `Program` says what its listeners and modules do when they are called.  It makes a `Host`, whose
callbacks are scripts of requests, and drives the channel by steps: a request, the start of a
handshake whose outcome somebody waits for, or the passing of time.
-/
import Courier.Channel.KeepAlive

namespace Courier

/-- The reply to an operation on the channel. -/
def Reply.ofChannel : Except ChannelError Unit → Reply
  | .ok () => flag true
  | .error error => failed error

/-- The reply to an operation on the link. -/
def Reply.ofLink : Except Fault Unit → Reply
  | .ok () => flag true
  | .error fault => linkFailed fault

/-- Whether a request is for the channel, so that it needs a program that holds it.  The others are
for the link, or for the hold itself. -/
def Request.isForChannel : Request → Bool
  | raise _ | unreadable .. | closeLink | failToClose _ | setLink .. | sentCounts | takeSent | drop
  | alive => false
  | _ => true

namespace World

variable {σ : Type}

/-! ## Creation -/

/-- A new channel over a link.  The clock runs only where there is something to drive it. -/
def create (settings : ChannelSettings) (standing : Standing) (link : Link) (driven : Bool)
    (user : σ) : Except ChannelError (World σ) :=
  match settings.validate with
  | .error error => .error (.settings error)
  | .ok () =>
    let messages : Pipeline Stage := if settings.notifiesReceipt then ⟨[.receipt]⟩ else {}
    .ok {
      channel := {
        settings
        standing
        pipelines := ⟨messages, {}, {}⟩
        keepAlive := if driven && settings.pingInterval != 0 then .running else .off }
      link
      user }

/-! ## Answers -/

def addListener (audience : Audience) (name : Name) (once : Bool) (w : World σ) : Bool × World σ :=
  match audience with
  | .traffic kind =>
    let (added, registry) := (w.channel.listeners.get kind).add name once
    (added, w.modify fun channel =>
      { channel with listeners := channel.listeners.set kind registry })
  | .session => w.addSessionListener (.named name) once
  | .close => w.addCloseListener (.named name) once

def removeListener (audience : Audience) (name : Name) (w : World σ) : Bool × World σ :=
  match audience with
  | .traffic kind =>
    let (removed, registry) := (w.channel.listeners.get kind).remove name
    (removed, w.modify fun channel =>
      { channel with listeners := channel.listeners.set kind registry })
  | .session => w.removeSessionListener (.named name)
  | .close => w.removeCloseListener (.named name)

def addModule (kind : Traffic) (name : Name) (w : World σ) : World σ :=
  w.modify fun channel => { channel with
    pipelines := channel.pipelines.set kind ((channel.pipelines.get kind).add (.named name)) }

def removeModule (kind : Traffic) (name : Name) (w : World σ) : Bool × World σ :=
  let (removed, pipeline) := (w.channel.pipelines.get kind).remove (.named name)
  (removed, w.modify fun channel =>
    { channel with pipelines := channel.pipelines.set kind pipeline })

/-- The link delivers an envelope; nothing comes of it when the channel is gone, and nobody hears of
an error. -/
def raise (h : Host σ) (envelope : Envelope) (w : World σ) : World σ :=
  if w.alive then (w.receive h envelope).2 else w

/-- How many envelopes of each kind the link has kept: messages, notifications, commands, and
sessions. -/
def sentCounts (w : World σ) : List Nat :=
  let count (p : Envelope → Bool) := w.link.sent.countP p
  [count fun | .message _ => true | _ => false, count fun | .notification _ => true | _ => false,
    count fun | .command _ => true | _ => false, count fun | .session _ => true | _ => false]

/-- Answers a request, where the program holds the channel if the request is for it. -/
def answer (h : Host σ) (request : Request) (w : World σ) : Reply × World σ :=
  let channel (answer : Except ChannelError Unit × World σ) := (Reply.ofChannel answer.1, answer.2)
  let flag (answer : Bool × World σ) := (Reply.flag answer.1, answer.2)
  match request with
  | .send envelope => channel (w.send h envelope)
  | .receive envelope => channel (w.receive h envelope)
  | .raise envelope => (.flag true, w.raise h envelope)
  | .unreadable _ fault => (.linkFailed fault, w)
  | .addListener audience name once => flag (w.addListener audience name once)
  | .removeListener audience name => flag (w.removeListener audience name)
  | .nextSession name => flag (w.addSessionListener (.named name) true)
  | .addModule kind name => (.flag true, w.addModule kind name)
  | .removeModule kind name => flag (w.removeModule kind name)
  | .moduleCounts =>
    let count (kind : Traffic) := (w.channel.pipelines.get kind).size
    (.counts [count .message, count .notification, count .command], w)
  | .startSession name => channel (w.startSession (.named name))
  | .negotiate compression encryption => channel (w.negotiate compression encryption)
  | .authenticate identity authentication place =>
    channel (w.authenticate identity authentication place)
  | .finish => channel w.finishSession
  | .notifyReceived id recipient => channel (w.notifyReceived h id recipient)
  | .establish establishment name => channel (w.establish establishment (.callback name))
  | .close => channel (w.close h)
  | .closeLink =>
    let (result, w) := w.closeLink h
    (.ofLink result, w)
  | .failToClose fail => (.flag true, { w with link := { w.link with failsToClose := fail } })
  | .setLink compression encryption =>
    (.flag true, { w with link := { w.link with
      compression := compression.getD w.link.compression
      encryption := encryption.getD w.link.encryption } })
  | .sentCounts => (.counts w.sentCounts, w)
  | .takeSent => (.count w.link.sent.length, { w with link := { w.link with sent := [] } })
  | .settings => (.settings w.channel.settings, w)
  | .drop => (.flag w.held, { w with held := false })
  | .alive => (.flag w.alive, w)

/-- Answers a request. -/
def perform (h : Host σ) (request : Request) (w : World σ) : Reply × World σ :=
  if request.isForChannel && !w.held then (.dropped, w) else w.answer h request

end World

/-! ## Programs -/

/-- A program: the scripts of its callbacks, and what its modules make of what enters them. -/
structure Program (σ : Type) where
  script : Call → σ → Script Request Reply × σ
  transform : (kind : Traffic) → Name → Direction → kind.Item → σ → Option kind.Item × σ

namespace Program

variable {σ : Type}

/-- The host of a program that runs its callbacks by `call`. -/
def hostOf (program : Program σ) (call : Call → World σ → World σ) : Host σ where
  call := call
  transform kind name direction item w :=
    let (item, user) := program.transform kind name direction item w.user
    (item, { w with user })

/-- The host of a program whose callbacks are nested `depth` levels deep at most. -/
def host (program : Program σ) (depth : Nat) : Host σ :=
  program.hostOf <| callback (fun call => World.perform (program.hostOf call))
    (fun call w =>
      let (steps, user) := program.script call w.user
      (steps, { w with user }))
    (fun call request reply w => w.record (.answered call.name request reply)) depth

end Program

/-! ## Steps -/

/-- One step of the world outside. -/
inductive Step where
  | request (request : Request)
  /-- Start a handshake and wait for its outcome. -/
  | await (establishment : Establishment) (name : Name)
  /-- Let time pass, in milliseconds. -/
  | advance (duration : Nat)

namespace World

variable {σ : Type}

/-- Starts a handshake whose outcome somebody waits for.  An error at the start is an outcome,
too. -/
def await (establishment : Establishment) (name : Name) (w : World σ) : World σ :=
  let w := { w with waiting := w.waiting + 1 }
  match w.establish establishment (.waiting name) with
  | (.ok (), w) => w
  | (.error error, w) => { w with arrived := w.arrived ++ [(name, .error error)] }

/-- Those who wait see the outcomes that have arrived. -/
def settle (w : World σ) : World σ :=
  let seen := w.arrived.foldl (fun w (name, outcome) => w.record (.resolved name outcome)) w
  { seen with arrived := [], waiting := w.waiting - w.arrived.length }

/-- Takes a step. -/
def step (h : Host σ) (step : Step) (w : World σ) : Reply × World σ :=
  let (reply, w) : Reply × World σ :=
    match step with
    | .request request => w.perform h request
    | .await establishment name =>
      if w.held then (.flag true, w.await establishment name) else (.dropped, w)
    | .advance duration => (.flag true, w.advance h duration)
  (reply, w.settle)

end World
end Courier
