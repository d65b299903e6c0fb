/-
Receiving, and the close of the link.

What is received counts as activity, whatever comes of it.  Messages, notifications and commands are
taken while the session is established: they go through the pipeline of their kind and then to the
listeners, but for pings, which the channel may answer itself.  A session changes the standing of the
channel first; if it is over, the link is closed; and then, whether or not that succeeded, the
session goes to its listeners.
-/
import Courier.Channel.Establishing

namespace Courier
namespace World

variable {σ : Type}

/-! ## Delivery -/

/-- Delivers an item to the listeners that are registered now. -/
def deliver (h : Host σ) (kind : Traffic) (item : kind.Item) (w : World σ) : World σ :=
  let called := (w.channel.listeners.get kind).listeners
  let start := w.modify fun channel => { channel with
    listeners := channel.listeners.set kind (channel.listeners.get kind).withoutOnce }
  let notice := Notice.envelope (kind.envelope item)
  called.foldl
    (fun w name => (w.record (.notified name notice)).callOut h (.listener name notice)) start

/-- Tells a subscriber of a session. -/
def tellSession (h : Host σ) (session : Session) (subscriber : Subscriber) (w : World σ) :
    World σ :=
  match subscriber with
  | .named name =>
    let notice := Notice.envelope (.session session)
    (w.record (.notified name notice)).callOut h (.listener name notice)
  | .handshake number => w.handshakeReceives h number session

/-- Delivers a session to the listeners that are registered now. -/
def deliverSession (h : Host σ) (session : Session) (w : World σ) : World σ :=
  let called := w.channel.sessionListeners.listeners
  let start := w.modify fun channel =>
    { channel with sessionListeners := channel.sessionListeners.withoutOnce }
  called.foldl (fun w subscriber => w.tellSession h session subscriber) start

/-- Tells a subscriber that the link was closed. -/
def tellClose (h : Host σ) (state : SessionState) (subscriber : Subscriber) (w : World σ) :
    World σ :=
  match subscriber with
  | .named name =>
    (w.record (.notified name (.closed state))).callOut h (.listener name (.closed state))
  | .handshake number => w.handshakeCloses h number state

/-- Tells the listeners that are registered now that the link was closed. -/
def deliverClose (h : Host σ) (w : World σ) : World σ :=
  let state := w.channel.standing.state
  let called := w.channel.closeListeners.listeners
  let start := w.modify fun channel =>
    { channel with closeListeners := channel.closeListeners.withoutOnce }
  called.foldl (fun w subscriber => w.tellClose h state subscriber) start

/-! ## Closing -/

/-- The link tells the channel that it was closed, if the channel is still there. -/
def linkClosed (h : Host σ) (w : World σ) : World σ :=
  if w.alive then w.stopKeepAlive.deliverClose h else w

/-- The link is closed, if it was open, and the channel is told. -/
def disconnect (h : Host σ) (w : World σ) : World σ :=
  if w.link.connected then
    { w with link := { w.link with connected := false } }.linkClosed h
  else w

/-- Closes the link.  Only the first close that does not fail is told to the channel. -/
def closeLink (h : Host σ) (w : World σ) : Except Fault Unit × World σ :=
  let w := w.record .closing
  let w := { w with link := { w.link with closeCalls := w.link.closeCalls + 1 } }
  if w.link.failsToClose then (.error (.inputOutput "close failed"), w)
  else (.ok (), w.disconnect h)

/-- Closes the channel: no more pings, and the link closed. -/
def close (h : Host σ) (w : World σ) : Except ChannelError Unit × World σ :=
  match w.stopKeepAlive.closeLink h with
  | (.ok (), w) => (.ok (), w)
  | (.error fault, w) => (.error (.transport fault), w)

/-! ## Receiving -/

/-- Takes an item through a module on its way in. -/
def receivingStep (h : Host σ) (kind : Traffic) (stage : Stage) (item : kind.Item) (w : World σ) :
    Option kind.Item × World σ :=
  match stage with
  | .receipt =>
    match (kind.envelope item).header.id, (kind.envelope item).header.sender with
    | some id, some sender => (some item, (w.notifyReceived h id sender).2)
    | _, _ => (some item, w)
  | .named name =>
    let w := w.record (.entered name .receiving)
    h.transform kind name .receiving item
      (w.callOut h (.stage name .receiving (kind.envelope item)))

/-- Completes an address from that of one end of the session. -/
def completed (node source : Option Node) : Option Node :=
  match node, source with
  | node, none => node
  | none, some source => some source
  | some node, some source => some (node.fill source)

/-- Completes the addresses of a message from those of the session, unless both are complete. -/
def filled (standing : Standing) (message : Message) : Message :=
  let header := message.header
  if header.sender.any Node.isComplete && header.recipient.any Node.isComplete then message
  else
    { message with
      header := { header with
        sender := completed header.sender standing.remoteNode
        recipient := completed header.recipient standing.localNode
        hop := none } }

/-- What becomes of an item that has come through the pipeline. -/
def arrive (h : Host σ) (kind : Traffic) (item : kind.Item) (w : World σ) :
    Except ChannelError Unit × World σ :=
  match kind, item with
  | .message, message =>
    let message :=
      if w.channel.settings.fillsAddresses then filled w.channel.standing message else message
    (.ok (), w.deliver h .message message)
  | .notification, notification => (.ok (), w.deliver h .notification notification)
  | .command, command =>
    if w.channel.settings.answersPings && command.isPing then
      w.sendUnchecked h .command (.pong command) true
    else (.ok (), w.deliver h .command command)

/-- Receives an item while the session is established. -/
def receiveItem (h : Host σ) (kind : Traffic) (item : kind.Item) (w : World σ) :
    Except ChannelError Unit × World σ :=
  match w.channel.standing.ensure .established ("receive a " ++ kind.word) with
  | .error error => (.error error, w)
  | .ok () =>
    match
      Pipeline.through (receivingStep h kind) (w.channel.pipelines.get kind).modules item w with
    | (some item, w) => w.arrive h kind item
    | (none, w) => (.ok (), w)

/-- Receives a session. -/
def receiveSession (h : Host σ) (session : Session) (w : World σ) : World σ :=
  let w := w.modify fun channel => { channel with standing := channel.standing.after session }
  let w := if session.state.isTerminal then (w.stopKeepAlive.closeLink h).2 else w
  w.deliverSession h session

def receive (h : Host σ) (envelope : Envelope) (w : World σ) :
    Except ChannelError Unit × World σ :=
  let w := w.touch
  match envelope with
  | .message m => w.receiveItem h .message m
  | .notification n => w.receiveItem h .notification n
  | .command c => w.receiveItem h .command c
  | .session s => (.ok (), w.receiveSession h s)

end World
end Courier
