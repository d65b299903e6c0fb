/-
Links: what carries the envelopes of a channel.

A link keeps what was sent over it.  It counts every attempt to close it, and may be told to fail
some of the sends, to fail to close, or to refuse options, so that what a channel does then can be
seen.  A link over a stream takes no options at all.
-/
import Courier.Envelope.Basic
import Courier.Fault

namespace Courier

structure Link where
  /-- What kind of transport this is, as messages say it. -/
  kind : String := "memory"
  connected : Bool := true
  sent : List Envelope := []
  closeCalls : Nat := 0
  compression : Compression := .off
  encryption : Encryption := .off
  /-- How many sends there have been, those included that failed. -/
  attempts : Nat := 0
  /-- Which sends fail, counted from zero. -/
  failingSends : List Nat := []
  failsToClose : Bool := false
  /-- Why a compression cannot be set, if it cannot. -/
  compressionFault? : Compression → Option Fault := fun _ => none
  /-- Why an encryption cannot be set, if it cannot. -/
  encryptionFault? : Encryption → Option Fault := fun _ => none
  deriving Inhabited

namespace Link

/-- A link over a stream of lines: it neither compresses nor encrypts. -/
def overStream : Link where
  kind := "tcp"
  compressionFault?
    | .off => none
    | .gzip => some (.unsupported "Gzip compression over tcp")
  encryptionFault?
    | .off => none
    | .tls => some (.unsupported "Tls encryption over tcp")

/-- Why a send would fail now. -/
def sendFault? (link : Link) : Option Fault :=
  if link.attempts ∈ link.failingSends then some (.timeout "send refused")
  else if link.connected then none
  else some (.connectionClosed (link.kind ++ " transport is closed"))

/-- Counts a send, and keeps the envelope unless the send fails. -/
def send (link : Link) (envelope : Envelope) : Except Fault Unit × Link :=
  let counted := { link with attempts := link.attempts + 1 }
  match link.sendFault? with
  | some fault => (.error fault, counted)
  | none => (.ok (), { counted with sent := link.sent ++ [envelope] })

def setCompression (link : Link) (compression : Compression) : Except Fault Unit × Link :=
  match link.compressionFault? compression with
  | some fault => (.error fault, link)
  | none => (.ok (), { link with compression })

def setEncryption (link : Link) (encryption : Encryption) : Except Fault Unit × Link :=
  match link.encryptionFault? encryption with
  | some fault => (.error fault, link)
  | none => (.ok (), { link with encryption })

end Link
end Courier
