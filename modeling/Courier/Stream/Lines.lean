/-
Envelopes in a stream: one to a line.

A line ends with a line feed, before which a carriage return is dropped; what stands after the last
line feed is a line when the stream ends there.  Blank lines and lines that hold no envelope are
passed over.  A line that is not UTF-8 closes the stream.
-/
import Courier.Envelope.Text

namespace Courier
namespace Stream

/-! ## Lines -/

def lineFeed : UInt8 := 0x0A

def carriageReturn : UInt8 := 0x0D

/-- The lines of a piece of a stream that are complete, without their line feeds, and what follows
the last of them. -/
def cutLines : List UInt8 → List (List UInt8) × List UInt8
  | [] => ([], [])
  | b :: bytes =>
    match cutLines bytes with
    | (lines, rest) =>
      if b = lineFeed then ([] :: lines, rest)
      else
        match lines with
        | [] => ([], b :: rest)
        | line :: lines => ((b :: line) :: lines, rest)

/-- A line without the carriage return at its end, if there is one. -/
def dropReturn (line : List UInt8) : List UInt8 :=
  if line.getLast? = some carriageReturn then line.dropLast else line

/-- The envelope as a line. -/
def line (envelope : Envelope) (listing : envelope.Listing) : List UInt8 :=
  (envelope.text listing).toUTF8.data.toList

/-! ## Arrivals -/

/-- What a listener to a stream is told. -/
inductive Arrival where
  | received (envelope : Envelope)
  | closed
  deriving DecidableEq

/-- What a line brings: nothing, an envelope, or, if it is not a text, the end. -/
def Arrival.ofLine? (line : List UInt8) : Option Arrival :=
  match String.fromUTF8? ⟨line.toArray⟩ with
  | none => some .closed
  | some text =>
    if (Text.trimChars text.toList).isEmpty then none
    else
      match Envelope.ofText text with
      | .ok envelope => some (.received envelope)
      | .error _ => none

/-- What lines bring, up to one that closes the stream. -/
def arrivals : List (List UInt8) → List Arrival
  | [] => []
  | line :: lines =>
    match Arrival.ofLine? line with
    | none => arrivals lines
    | some .closed => [.closed]
    | some (.received envelope) => .received envelope :: arrivals lines

/-! ## Reading piece by piece -/

/-- A reader of a stream: what it has read of a line that is not complete, and whether it goes on. -/
structure Reader where
  pending : List UInt8 := []
  isOpen : Bool := true
  deriving DecidableEq, Inhabited

namespace Reader

/-- Reads another piece. -/
def feed (reader : Reader) (bytes : List UInt8) : List Arrival × Reader :=
  if reader.isOpen then
    let (lines, pending) := cutLines (reader.pending ++ bytes)
    let told := arrivals (lines.map dropReturn)
    (told, { pending, isOpen := .closed ∉ told })
  else ([], reader)

/-- The stream ends: the last line is read, and the stream is closed if it was not before. -/
def finish (reader : Reader) : List Arrival × Reader :=
  if reader.isOpen then
    let told := if reader.pending.isEmpty then [] else arrivals [reader.pending]
    (if .closed ∈ told then told else told ++ [.closed], { isOpen := false })
  else ([], reader)

end Reader

/-- What a whole stream brings. -/
def readAll (bytes : List UInt8) : List Arrival :=
  let (told, reader) := ({} : Reader).feed bytes
  told ++ reader.finish.1

end Stream
end Courier
