/-
Sending into a stream.

What is sent is queued as a line.  A writer takes the lines from the queue one by one; when the stream
is closed it writes what is left, and ends.  The first close, whoever makes it, is told to the
listener, if there is one; what is sent after it fails.
-/
import Courier.Envelope.Text

namespace Courier
namespace Stream

structure Outbox where
  connected : Bool := true
  /-- Whether the writer has been told to end. -/
  stopping : Bool := false
  /-- Whether somebody listens for the close. -/
  listening : Bool := false
  queued : List String := []
  written : List String := []
  writerEnded : Bool := false
  /-- How often the listener was told of the close. -/
  closings : Nat := 0
  deriving DecidableEq, Inhabited

namespace Outbox

/-- Closes the stream, unless it is closed. -/
def close (outbox : Outbox) : Outbox :=
  if outbox.connected then
    { outbox with
      connected := false
      stopping := true
      closings := if outbox.listening then outbox.closings + 1 else outbox.closings }
  else outbox

/-- Queues an envelope. -/
def send (envelope : Envelope) (listing : envelope.Listing) (outbox : Outbox) :
    Except Fault Unit × Outbox :=
  if !outbox.connected then (.error (.connectionClosed "tcp transport is closed"), outbox)
  else if outbox.writerEnded then (.error (.connectionClosed "writer task stopped"), outbox)
  else (.ok (), { outbox with queued := outbox.queued ++ [envelope.text listing] })

/-- Writes the next line, if there is one. -/
def writeNext (outbox : Outbox) : Outbox :=
  match outbox.writerEnded, outbox.queued with
  | false, line :: queued => { outbox with queued, written := outbox.written ++ [line] }
  | _, _ => outbox

/-- Ends the writer, if it has been told to: it writes what is left, and closes the stream. -/
def flush (outbox : Outbox) : Outbox :=
  if outbox.stopping && !outbox.writerEnded then
    { outbox with
      queued := []
      written := outbox.written ++ outbox.queued
      writerEnded := true }.close
  else outbox

/-- Something that happens to a stream. -/
inductive Step where
  | listen
  | send (envelope : Envelope) (listing : envelope.Listing)
  | close
  /-- The owner lets go of the stream. -/
  | drop
  /-- The peer has closed its end. -/
  | peerClosed
  | writeNext
  | flush
  deriving DecidableEq

/-- What comes of a step, and whether a send was accepted. -/
def step (outbox : Outbox) : Step → Except Fault Unit × Outbox
  | .listen => (.ok (), { outbox with listening := true })
  | .send envelope listing => outbox.send envelope listing
  | .close | .peerClosed => (.ok (), outbox.close)
  | .drop => (.ok (), { outbox with stopping := true })
  | .writeNext => (.ok (), outbox.writeNext)
  | .flush => (.ok (), outbox.flush)

def run (steps : List Step) (outbox : Outbox) : Outbox :=
  steps.foldl (fun outbox step => (outbox.step step).2) outbox

end Outbox
end Stream
end Courier
