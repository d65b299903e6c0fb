/-
Conversations: what the client does once it is connected.

The client establishes a session, then sends the lines that the user types and shows what comes in,
until the user or the server ends the session.  All of this is one machine: an input comes, from the
server, from the user or from the clock, and the client goes on.  What it sends is what its link
keeps; what it shows is on its console.
-/
import Courier.Channel.Requests
import Courier.Client.Startup
import Courier.Json.Printer

namespace Courier

/-! ## The console -/

/-- What the client shows, and the sessions that it has not looked at yet. -/
structure Console where
  shown : List String := []
  complaints : List String := []
  sessions : List Session := []
  deriving Inhabited

namespace Console

def print (console : Console) (line : String) : Console :=
  { console with shown := console.shown ++ [line] }

def complain (console : Console) (line : String) : Console :=
  { console with complaints := console.complaints ++ [line] }

end Console

/-- A message as the user sees it. -/
def Message.shown (message : Message) : String :=
  let sender := (message.header.sender.map Node.text).getD "?"
  match message.content with
  | .string text => "[" ++ sender ++ "] " ++ text
  | content => "[" ++ sender ++ "] (" ++ message.mediaType ++ ") " ++ content.toTree.text

/-- A notification as the user sees it. -/
def Notification.shown (notification : Notification) : String :=
  "* " ++ notification.header.id.getD "?" ++ " " ++ (Choice.name notification.event).capitalize

/-! ## The program of the client -/

namespace Conversation

/-- The names of the listeners of the client. -/
def messages : Name := "messages"

def notifications : Name := "notifications"

def sessions : Name := "sessions"

/-- Whoever waits for the session to be established. -/
def establishing : Name := "establishing"

/-- The listeners show messages and notifications and keep sessions for later. -/
def program : Program Console where
  script call console :=
    match call with
    | .listener _ (.envelope (.message message)) => (.done, console.print message.shown)
    | .listener _ (.envelope (.notification notification)) =>
      (.done, console.print notification.shown)
    | .listener _ (.envelope (.session session)) =>
      (.done, { console with sessions := console.sessions ++ [session] })
    | _ => (.done, console)
  transform _ _ _ item console := (some item, console)

def host : Host Console :=
  program.host 1

end Conversation

/-! ## The machine -/

/-- Where a conversation is. -/
inductive Conversation.Phase where
  | establishing
  | talking
  /-- The user has ended the session, and the server has not confirmed it yet. -/
  | finishing
  | ended (result : Except Report Unit)

/-- What comes to the client. -/
inductive Conversation.Input where
  | received (envelope : Envelope)
  /-- The server has closed the connection. -/
  | disconnected
  /-- Look at the next session that has come in. -/
  | session
  | line (text : String)
  /-- A line that is not a text. -/
  | unreadableLine
  | endOfLines
  /-- The server takes too long to establish or to finish the session. -/
  | timeout
  | advance (duration : Nat)
  deriving Inhabited

structure Conversation where
  world : World Console
  phase : Conversation.Phase := .establishing

namespace Conversation

def modifyConsole (f : Console → Console) (c : Conversation) : Conversation :=
  { c with world := { c.world with user := f c.world.user } }

def finishWith (result : Except Report Unit) (c : Conversation) : Conversation :=
  { c with phase := .ended result }

/-- Closes the channel and ends. -/
def hangUp (c : Conversation) : Conversation :=
  match c.world.close host with
  | (.ok (), world) => { world, phase := .ended (.ok ()) }
  | (.error error, world) => { world, phase := .ended (.error (.ofChannel error)) }

/-! ### Establishing -/

/-- The report of a session that ended instead of being established. -/
def endedReport (session : Session) : Report :=
  ⟨"Session ended in the '" ++ session.state.text ++ "' state: " ++
    (session.reason.bind (·.description)).getD "no reason given", []⟩

/-- The line that greets the user. -/
def greeting (node : Option Node) : String :=
  "Session established as " ++ (node.map Node.text).getD "" ++
    ". Type '<to> <text>' to send, Ctrl-C to quit."

/-- Sees the outcome of the handshake, if there is one. -/
def seeOutcome (c : Conversation) : Conversation :=
  match c.phase, c.world.arrived with
  | .establishing, (_, outcome) :: _ =>
    let c := { c with world := c.world.settle }
    match outcome with
    | .error error => c.finishWith (.error (.ofChannel error))
    | .ok session =>
      if session.state = .established then
        { c.modifyConsole (·.print (greeting c.world.channel.standing.localNode)) with
          phase := .talking }
      else c.finishWith (.error (endedReport session))
  | _, _ => c

/-- Starts a conversation over a link, with the ids that are drawn after some others. -/
def start (settings : Settings) (identity : Identity) (link : Link) (drawn : Nat) : Conversation :=
  match World.create settings.channel {} link true ({} : Console) with
  | .error error => { world := { user := {} }, phase := .ended (.error (.ofChannel error)) }
  | .ok world =>
    let world := { world with drawn }
    let world := (world.addListener (.traffic .message) messages false).2
    let world := (world.addListener (.traffic .notification) notifications false).2
    let world := (world.addListener .session sessions false).2
    seeOutcome { world := world.await (settings.establishment identity) establishing }

/-! ### Talking -/

/-- The receiver and the text of a line: they are separated by the first blank. -/
def cutLine (line : List Char) : Option (List Char × List Char) :=
  match Text.cut ' ' line with
  | (receiver, some text) => some (receiver, Text.trimChars text)
  | (_, none) => none

/-- Sends a line to whom it is for. -/
def sendLine (line : String) (c : Conversation) : Conversation :=
  let complain (message : String) (c : Conversation) : Conversation :=
    c.modifyConsole (·.complain ("Error: " ++ message))
  let line := Text.trimChars line.toList
  if line.isEmpty then c
  else
    match cutLine line with
    | none => complain "expected '<to> <text>'" c
    | some (receiver, text) =>
      match Node.parse (String.ofList receiver) with
      | .error fault => complain fault.message c
      | .ok node =>
        let (id, world) := c.world.drawId
        match world.sendItem host .message (.ofText id node (String.ofList text)) with
        | (.ok (), world) => { c with world }
        | (.error error, world) => complain error.message { c with world }

/-- Asks the server to finish the session. -/
def finish (c : Conversation) : Conversation :=
  match c.world.finishSession with
  | (.ok (), world) => { world, phase := .finishing }
  | (.error error, world) => { world, phase := .ended (.error (.ofChannel error)) }

/-- Looks at the next session that has come in. -/
def takeSession (c : Conversation) : Conversation :=
  match c.world.user.sessions with
  | [] => c
  | session :: rest =>
    let c := c.modifyConsole ({ · with sessions := rest })
    if session.state.isTerminal then
      match c.phase with
      | .talking =>
        (c.modifyConsole (·.print ("Session " ++ session.state.text ++ " by the server"))).hangUp
      | .finishing => c.hangUp
      | _ => c
    else c

/-! ### All of it -/

/-- The server takes too long. -/
def giveUp (c : Conversation) : Conversation :=
  match c.phase with
  | .establishing =>
    c.finishWith (.error ⟨"Timed out establishing the session", ["deadline has elapsed"]⟩)
  | .finishing => c.hangUp
  | _ => c

/-- Goes on with an input. -/
def step (input : Input) (c : Conversation) : Conversation :=
  match c.phase with
  | .ended _ => c
  | phase =>
    match input, phase with
    | .received envelope, _ =>
      { c with world := c.world.raise host envelope }.seeOutcome
    | .disconnected, _ => { c with world := c.world.disconnect host }.seeOutcome
    | .advance duration, _ => { c with world := c.world.advance host duration }.seeOutcome
    | .timeout, _ => c.giveUp
    | .session, .talking | .session, .finishing => c.takeSession
    | .line text, .talking => c.sendLine text
    | .unreadableLine, .talking =>
      c.finishWith (.error ⟨ReadFailure.notText.message, []⟩)
    | .endOfLines, .talking => c.finish
    | _, _ => c

def run (inputs : List Input) (c : Conversation) : Conversation :=
  inputs.foldl (fun c input => c.step input) c

/-! ### What comes out -/

/-- What a conversation has to say since it was last asked. -/
structure Output where
  sent : List Envelope
  shown : List String
  complaints : List String

/-- Takes what a conversation has to say. -/
def takeOutput (c : Conversation) : Output × Conversation :=
  let world := c.world
  let output : Output :=
    { sent := world.link.sent, shown := world.user.shown, complaints := world.user.complaints }
  (output,
    { c with
      world :=
        { world with
          link := { world.link with sent := [] }
          trace := []
          user := { world.user with shown := [], complaints := [] } } })

/-- Whether a session waits to be looked at, and it is time to look at it. -/
def hasSession (c : Conversation) : Bool :=
  match c.phase with
  | .talking | .finishing => !c.world.user.sessions.isEmpty
  | _ => false

/-- The code with which the client ends: zero unless it failed. -/
def exitCode (c : Conversation) : Nat :=
  match c.phase with
  | .ended (.error _) => 1
  | _ => 0

end Conversation
end Courier
