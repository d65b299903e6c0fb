/-
Establishing a session, as the client.

The single operations send one session each and check that the session is in the state they belong
to.  `establish` starts a handshake, which performs them as the server's sessions call for them.  The
handshake is registered for one session at a time, and once for the close of the link; it reports one
outcome, and is registered nowhere from then on.
-/
import Courier.Channel.Sending

namespace Courier
namespace World

variable {σ : Type}

/-! ## Registering -/

def addSessionListener (listener : Subscriber) (once : Bool) (w : World σ) : Bool × World σ :=
  let (added, sessionListeners) := w.channel.sessionListeners.add listener once
  (added, w.modify fun channel => { channel with sessionListeners })

def removeSessionListener (listener : Subscriber) (w : World σ) : Bool × World σ :=
  let (removed, sessionListeners) := w.channel.sessionListeners.remove listener
  (removed, w.modify fun channel => { channel with sessionListeners })

def addCloseListener (listener : Subscriber) (once : Bool) (w : World σ) : Bool × World σ :=
  let (added, closeListeners) := w.channel.closeListeners.add listener once
  (added, w.modify fun channel => { channel with closeListeners })

def removeCloseListener (listener : Subscriber) (w : World σ) : Bool × World σ :=
  let (removed, closeListeners) := w.channel.closeListeners.remove listener
  (removed, w.modify fun channel => { channel with closeListeners })

/-! ## Single operations -/

/-- An identity that shows itself needs a name and a domain. -/
def checkIdentity (identity : Identity) : Except ChannelError Unit :=
  if identity.name.isNone then .error (.missingArgument .identityName)
  else if identity.domain.isNone then .error (.missingArgument .identityDomain)
  else .ok ()

/-- Starts a session, with a listener for the answer; if nothing can be sent, the listener is
unregistered. -/
def startSession (listener : Subscriber) (w : World σ) : Except ChannelError Unit × World σ :=
  match w.channel.standing.ensure .new "start a session" with
  | .error error => (.error error, w)
  | .ok () =>
    match (w.addSessionListener listener true).2.sendSession { state := .new } with
    | (.ok (), w) => (.ok (), w)
    | (.error error, w) => (.error error, (w.removeSessionListener listener).2)

/-- Answers the offer of the server. -/
def negotiate (compression : Compression) (encryption : Encryption) (w : World σ) :
    Except ChannelError Unit × World σ :=
  match w.channel.standing.ensure .negotiating "negotiate a session" with
  | .error error => (.error error, w)
  | .ok () =>
    w.sendSession {
      header := { id := w.channel.standing.id }
      state := .negotiating
      compression := some compression
      encryption := some encryption }

/-- Shows who we are. -/
def authenticate (identity : Identity) (authentication : Authentication)
    (place : Option String) (w : World σ) : Except ChannelError Unit × World σ :=
  match w.channel.standing.ensure .authenticating "authenticate a session" with
  | .error error => (.error error, w)
  | .ok () =>
    match checkIdentity identity with
    | .error error => (.error error, w)
    | .ok () =>
      let session : Session := {
        header := { id := w.channel.standing.id, sender := some (identity.at? place) }
        state := .authenticating }
      w.sendSession (session.withAuthentication authentication)

/-- Asks the server to finish the session. -/
def finishSession (w : World σ) : Except ChannelError Unit × World σ :=
  match w.channel.standing.ensure .established "finish a session" with
  | .error error => (.error error, w)
  | .ok () =>
    w.sendSession { header := { id := w.channel.standing.id }, state := .finishing }

/-! ## Handshakes -/

/-- Tells of the outcome of a handshake. -/
def report (h : Host σ) (number : Nat) (reporter : Reporter) (outcome : Outcome) (w : World σ) :
    World σ :=
  match reporter with
  | .callback name =>
    (w.record (.concluded number name outcome)).callOut h (.outcome name outcome)
  | .waiting name => { w with arrived := w.arrived ++ [(name, outcome)] }

/-- Takes a handshake out of both registries and marks it finished. -/
def retire (number : Nat) (handshake : Handshake) (w : World σ) : World σ :=
  w.modify fun channel => { channel with
    sessionListeners := (channel.sessionListeners.remove (.handshake number)).2
    closeListeners := (channel.closeListeners.remove (.handshake number)).2
    handshakes := channel.handshakes.set number { handshake with finished := true } }

/-- Ends a handshake with an outcome, unless it has ended before. -/
def conclude (h : Host σ) (number : Nat) (outcome : Outcome) (w : World σ) : World σ :=
  match w.channel.handshakes[number]? with
  | none => w
  | some handshake =>
    if handshake.finished then w
    else (w.retire number handshake).report h number handshake.reporter outcome

/-- Sets the link to what the server has confirmed, where that is something else than it is. -/
def configure (compression : Option Compression) (encryption : Option Encryption) (w : World σ) :
    Except ChannelError Unit × World σ :=
  let (result, w) : Except Fault Unit × World σ :=
    match compression with
    | none => (.ok (), w)
    | some compression =>
      if w.link.compression = compression then (.ok (), w)
      else
        let (result, link) := w.link.setCompression compression
        (result, { w with link }.record (.compressionSet compression))
  match result with
  | .error fault => (.error (.transport fault), w)
  | .ok () =>
    match encryption with
    | none => (.ok (), w)
    | some encryption =>
      if w.link.encryption = encryption then (.ok (), w)
      else
        let (result, link) := w.link.setEncryption encryption
        let w := { w with link }.record (.encryptionSet encryption)
        match result with
        | .error fault => (.error (.transport fault), w)
        | .ok () => (.ok (), w)

def performStep (establishment : Establishment) (step : HandshakeStep) (w : World σ) :
    Except ChannelError Unit × World σ :=
  match step with
  | .negotiate compression encryption => w.negotiate compression encryption
  | .configure compression encryption => w.configure compression encryption
  | .authenticate =>
    w.authenticate establishment.identity establishment.authentication establishment.place
  | .complete => (.ok (), w)

/-- A handshake is told of a session.  If the step that it calls for expects another session, the
handshake registers for that before it performs the step. -/
def handshakeReceives (h : Host σ) (number : Nat) (session : Session) (w : World σ) : World σ :=
  match w.channel.handshakes[number]? with
  | none => w
  | some handshake =>
    if handshake.finished then w
    else
      match handshake.establishment.next session with
      | .error error => w.conclude h number (.error error)
      | .ok step =>
        if step.continues then
          let w := (w.addSessionListener (.handshake number) true).2
          match w.performStep handshake.establishment step with
          | (.ok (), w) => w
          | (.error error, w) =>
            (w.removeSessionListener (.handshake number)).2.conclude h number (.error error)
        else
          match w.performStep handshake.establishment step with
          | (.ok (), w) => w.conclude h number (.ok session)
          | (.error error, w) => w.conclude h number (.error error)

/-- A handshake is told that the link was closed.  When that was because the session is over, the
session itself is still to come, and is what the handshake reports. -/
def handshakeCloses (h : Host σ) (number : Nat) (state : SessionState) (w : World σ) : World σ :=
  if state.isTerminal then w
  else
    w.conclude h number (.error (.transport
      (.connectionClosed ("transport closed in the '" ++ state.text ++ "' state"))))

/-- Starts a handshake. -/
def establish (establishment : Establishment) (reporter : Reporter) (w : World σ) :
    Except ChannelError Unit × World σ :=
  match w.channel.standing.ensure .new "establish a session" with
  | .error error => (.error error, w)
  | .ok () =>
    match checkIdentity establishment.identity with
    | .error error => (.error error, w)
    | .ok () =>
      let number := w.channel.handshakes.length
      let handshakes := w.channel.handshakes
      let w := w.modify fun channel =>
        { channel with handshakes := handshakes ++ [{ establishment, reporter }] }
      match (w.addCloseListener (.handshake number) true).2.startSession (.handshake number) with
      | (.ok (), w) => (.ok (), w)
      | (.error error, w) =>
        (.error error,
          (w.removeCloseListener (.handshake number)).2.modify fun channel =>
            { channel with handshakes })

end World
end Courier
