/-
Handshakes: how a client gets its session established.

Every session that the server sends calls for one step, and which one it is depends on nothing but
that session and what the client is after.
-/
import Courier.Channel.Error
import Courier.Authentication

namespace Courier

/-- What a client is after: whom to be, how to show it, and what to agree on.  Where it prefers
nothing, it takes the first of what the server offers. -/
structure Establishment where
  identity : Identity
  authentication : Authentication
  place : Option String := none
  compression : Option Compression := none
  encryption : Option Encryption := none
  deriving DecidableEq, Inhabited

/-- The answer to a session that the server sends. -/
inductive HandshakeStep where
  /-- Choose from what the server offers. -/
  | negotiate (compression : Compression) (encryption : Encryption)
  /-- Set the transport to what the server confirms, and wait. -/
  | configure (compression : Option Compression) (encryption : Option Encryption)
  /-- Show who we are. -/
  | authenticate
  /-- The handshake is over. -/
  | complete
  deriving DecidableEq, Repr

/-- Whether another session is expected after a step. -/
def HandshakeStep.continues : HandshakeStep → Bool
  | complete => false
  | _ => true

/-- The preferred option, or the first of those offered. -/
def choose {α : Type} (preferred : Option α) (offered : Option (List α)) (what : String) :
    Except ChannelError α :=
  match preferred, offered with
  | some a, _ => .ok a
  | none, some (a :: _) => .ok a
  | none, _ => .error (.handshake ("server offered no " ++ what ++ " options"))

/-- The step that a session calls for.  A negotiating session with options is an offer, one without
a confirmation. -/
def Establishment.next (establishment : Establishment) (session : Session) :
    Except ChannelError HandshakeStep :=
  match session.state with
  | .negotiating =>
    if session.compressionOptions.isNone && session.encryptionOptions.isNone then
      .ok (.configure session.compression session.encryption)
    else do
      let compression ← choose establishment.compression session.compressionOptions "compression"
      let encryption ← choose establishment.encryption session.encryptionOptions "encryption"
      return .negotiate compression encryption
  | .authenticating => .ok .authenticate
  | _ => .ok .complete

end Courier
