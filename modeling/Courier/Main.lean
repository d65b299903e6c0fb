/-
The client as a program.

What comes from the server, the terminal and the clock is put into one queue.  The conversation takes
it from there, piece by piece; after each piece what it has to say is written.
-/
import Courier.Client.Conversation
import Courier.Stream.Lines
import Std.Async.DNS
import Std.Async.Signal
import Std.Async.TCP
import Std.Sync.Channel

namespace Courier
namespace Terminal

open Std.Async

abbrev Inputs := Std.Channel Conversation.Input

/-! ## Surroundings -/

/-- The variables that settings depend on. -/
def knownVariables : List String :=
  [Settings.configHomeVariable, Settings.addressVariable, Settings.levelVariable]

/-- The file at a path, alone in its folder, if there is something at the path. -/
def fileAt (path : Path) : IO Files := do
  let empty : Files := .folder []
  try
    let bytes ← IO.FS.readBinFile path
    let folder := (empty.makeWay [] ((path.parent?.map Path.names).getD [])).2
    return ((folder.locate? path).bind fun steps => folder.write bytes steps).getD empty
  catch
    | .noFileOrDirectory .. => return empty
    | _ => return (empty.makeWay [] path.names).2

def surroundings (arguments : Arguments) : IO Surroundings := do
  let known ← knownVariables.filterMapM fun name => do
    return (← IO.getEnv name).map fun value => (name, value)
  let home := (← IO.getEnv "HOME").getD "/"
  let around : Surroundings := { environment := known, home }
  return { around with
    files := ← fileAt (arguments.settingsPath.getD around.defaultPath) }

/-! ## The connection -/

/-- The numbers behind the name of a host. -/
def resolve (host : String) : Async (Option Std.Net.IPAddr) := do
  match Std.Net.IPv4Addr.ofString host with
  | some number => return some (.v4 number)
  | none =>
    let bare := String.ofList ((host.toList.dropWhile (· = '[')).takeWhile (· ≠ ']'))
    match Std.Net.IPv6Addr.ofString bare with
    | some number => return some (.v6 number)
    | none => return (← DNS.getAddrInfo host "")[0]?

/-- Connects to a server. -/
def connect (address : Address) : Async TCP.Socket.Client := do
  match ← resolve address.host with
  | none => throw (.userError "no address for the host")
  | some (.v4 number) =>
    let client ← TCP.Socket.Client.mk
    client.connect (.v4 ⟨number, address.service⟩)
    client.noDelay
    return client
  | some (.v6 number) =>
    let client ← TCP.Socket.Client.mk
    client.connect (.v6 ⟨number, address.service⟩)
    client.noDelay
    return client

/-! ## What comes in -/

def put (inputs : Inputs) (input : Conversation.Input) : BaseIO Unit :=
  discard (inputs.send input)

/-- Puts what the server sends into the queue. -/
partial def readStream (client : TCP.Socket.Client) (inputs : Inputs) (reader : Stream.Reader) :
    Async Unit := do
  let piece ← try client.recv? 4096 catch _ => pure none
  let (arrivals, reader) :=
    match piece with
    | some bytes => reader.feed bytes.data.toList
    | none => reader.finish
  for arrival in arrivals do
    put inputs (match arrival with
      | .received envelope => .received envelope
      | .closed => .disconnected)
  if reader.isOpen then readStream client inputs reader

/-- Puts the lines from the terminal into the queue. -/
partial def readLines (input : IO.FS.Stream) (inputs : Inputs) : IO Unit := do
  match ← (some <$> input.getLine) <|> pure none with
  | none => put inputs .unreadableLine
  | some line =>
    if line.isEmpty then put inputs .endOfLines
    else
      put inputs (.line line)
      readLines input inputs

/-- How often the clock is looked at, in milliseconds. -/
def clockInterval : Nat := 50

/-- Puts the time that passes into the queue, until the conversation is over. -/
partial def readClock (inputs : Inputs) (isOver : IO.Ref Bool) (last : Nat) : IO Unit := do
  IO.sleep clockInterval.toUInt32
  unless ← isOver.get do
    let now ← IO.monoMsNow
    put inputs (.advance (now - last))
    readClock inputs isOver now

/-! ## The conversation -/

/-- How long each phase may take, in milliseconds. -/
def patience : Conversation.Phase → Option Nat
  | .establishing => some 30000
  | .finishing => some 5000
  | _ => none

/-- Which phase it is, as a number. -/
def stage : Conversation.Phase → Nat
  | .establishing => 0
  | .talking => 1
  | .finishing => 2
  | .ended _ => 3

/-- Writes what a conversation has to say. -/
def write (client : TCP.Socket.Client) (output : Conversation.Output) : IO Unit := do
  for envelope in output.sent do
    let line := ⟨(Stream.line envelope envelope.sorted ++ [Stream.lineFeed]).toArray⟩
    try (client.send line).block catch _ => pure ()
  for line in output.shown do IO.println line
  (← IO.getStdout).flush
  for line in output.complaints do IO.eprintln line

/-- Goes on until the conversation is over.  The terminal is read from the time on when the session is
established. -/
partial def converse (client : TCP.Socket.Client) (inputs : Inputs) (since : Nat)
    (conversation : Conversation) : IO Conversation := do
  let (output, conversation) := conversation.takeOutput
  write client output
  if conversation.phase matches .ended _ then return conversation
  let before := stage conversation.phase
  let now ← IO.monoMsNow
  let next ←
    if conversation.hasSession then pure (conversation.step .session)
    else if (patience conversation.phase).any fun limit => limit ≤ now - since then
      pure (conversation.step .timeout)
    else do
      let input ← inputs.sync.recv
      pure (conversation.step input)
  let after := stage next.phase
  if before = 0 ∧ after = 1 then
    discard (IO.asTask (readLines (← IO.getStdin) inputs) .dedicated)
    let waiter ← Signal.Waiter.mk .sigint false
    let interrupted ← waiter.wait
    discard (IO.mapTask (fun _ => put inputs .endOfLines) interrupted)
  converse client inputs (if before = after then since else now) next

/-- Prints a report. -/
def fail (report : Report) : IO UInt32 := do
  IO.eprintln report.text
  return 1

/-- Talks to the server that the settings name. -/
def talk (settings : Settings) (identity : Identity) : IO UInt32 := do
  let address := settings.client.serverAddress
  match Address.parse address with
  | .error fault => fail (.unreachable address fault)
  | .ok place =>
    match ← ((connect place).block.toBaseIO) with
    | .error error => fail (.unreachable address (.inputOutput (toString error)))
    | .ok client =>
      let inputs : Inputs ← Std.Channel.new
      let isOver ← IO.mkRef false
      let start ← IO.monoMsNow
      discard (readStream client inputs {}).toIO
      discard (IO.asTask (readClock inputs isOver start) .dedicated)
      let drawn ← IO.rand 0 0xFFFFFFFFFFFF
      let ended ← converse client inputs start (.start settings identity .overStream drawn)
      isOver.set true
      try client.shutdown.block catch _ => pure ()
      match ended.phase with
      | .ended (.error report) => fail report
      | _ => return 0

/-- How the program is used. -/
def usage : String :=
  "Usage: courier [-v | --verbose] [-c FILE | --config FILE] [--server ADDRESS] " ++
    "[--identity NAME@DOMAIN] [--instance NAME] [--password PASSWORD]"

end Terminal
end Courier

open Courier in
def main (words : List String) : IO UInt32 := do
  match Arguments.ofWords? words with
  | none =>
    IO.eprintln Terminal.usage
    return 2
  | some arguments =>
    match Settings.gather arguments (← Terminal.surroundings arguments) with
    | .error report => Terminal.fail report
    | .ok settings =>
      match settings.identity with
      | .error error => Terminal.fail (.ofSettings error)
      | .ok identity => Terminal.talk settings identity
