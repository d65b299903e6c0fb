/-
Envelopes: what two endpoints send each other.

Messages carry documents, notifications report on their delivery, commands act on resources, and
sessions open, negotiate and end the conversation itself.  All four share a header.
-/
import Courier.Wire

namespace Courier

/-- Fields that every envelope may have. -/
structure Header where
  id : Option String := none
  sender : Option Node := none
  recipient : Option Node := none
  /-- The sender of this hop, where envelopes pass through others. -/
  hop : Option Node := none
  metadata : Metadata := .empty
  deriving DecidableEq, Inhabited

/-- Why something failed. -/
structure Reason where
  code : Int32
  description : Option String := none
  deriving DecidableEq, Inhabited

/-! ## Messages and notifications -/

/-- A document for a recipient. -/
structure Message where
  header : Header := {}
  mediaType : String
  content : Json
  deriving DecidableEq, Inhabited

/-- The media type of plain text. -/
def Message.plainText : String := "text/plain"

/-- A document of a type. -/
def Message.of (id : String) (mediaType : String) (content : Json) : Message where
  header := { id := some id }
  mediaType := mediaType
  content := content

/-- A plain text for a recipient. -/
def Message.ofText (id : String) (recipient : Node) (text : String) : Message where
  header := { id := some id, recipient := some recipient }
  mediaType := plainText
  content := .string text

/-- What may happen to a message on its way. -/
inductive Event where
  | accepted
  | validated
  | authorized
  | dispatched
  | received
  | consumed
  | failed
  deriving DecidableEq, Repr, Inhabited

instance : Choice Event where
  all := [.accepted, .validated, .authorized, .dispatched, .received, .consumed, .failed]
  name
    | .accepted => "accepted"
    | .validated => "validated"
    | .authorized => "authorized"
    | .dispatched => "dispatched"
    | .received => "received"
    | .consumed => "consumed"
    | .failed => "failed"

/-- A report on the message whose id it has. -/
structure Notification where
  header : Header := {}
  event : Event
  reason : Option Reason := none
  deriving DecidableEq, Inhabited

/-- The report of an event on the message with an id. -/
def Notification.of (id : String) (event : Event) : Notification where
  header := { id := some id }
  event := event

/-! ## Commands -/

/-- What a command does to a resource. -/
inductive Method where
  | get
  | set
  | delete
  | observe
  | subscribe
  | unsubscribe
  | merge
  deriving DecidableEq, Repr, Inhabited

instance : Choice Method where
  all := [.get, .set, .delete, .observe, .subscribe, .unsubscribe, .merge]
  name
    | .get => "get"
    | .set => "set"
    | .delete => "delete"
    | .observe => "observe"
    | .subscribe => "subscribe"
    | .unsubscribe => "unsubscribe"
    | .merge => "merge"

/-- How a command ended. -/
inductive Status where
  | success
  | failure
  | pending
  deriving DecidableEq, Repr, Inhabited

instance : Choice Status where
  all := [.success, .failure, .pending]
  name
    | .success => "success"
    | .failure => "failure"
    | .pending => "pending"

/-- A request about a resource, or, with a status, the response to one. -/
structure Command where
  header : Header := {}
  method : Method
  uri : Option String := none
  mediaType : Option String := none
  resource : Option Json := none
  status : Option Status := none
  reason : Option Reason := none
  deriving DecidableEq, Inhabited

namespace Command

/-- The resource that every endpoint answers for. -/
def pingUri : String := "/ping"

def pingMediaType : String := "application/vnd.lime.ping+json"

/-- A request for a resource. -/
def request (id : String) (method : Method) (uri : String) : Command where
  header := { id := some id }
  method := method
  uri := some uri

def ping (id : String) : Command :=
  request id .get pingUri

/-- Whether a command asks whether we are there. -/
def isPing (command : Command) : Bool :=
  command.method = .get && command.status = none && command.uri = some pingUri

/-- The answer to a ping: it keeps the id and goes to the sender. -/
def pong (ping : Command) : Command where
  header := { id := ping.header.id, recipient := ping.header.sender }
  method := .get
  mediaType := some pingMediaType
  resource := some (.object [])
  status := some .success

/-- An answer is no ping, so it is not answered. -/
theorem isPing_pong (ping : Command) : isPing (pong ping) = false := by
  simp [isPing, pong]

end Command

/-! ## Sessions -/

/-- The states of a session, in the order in which it goes through them.  It ends finished or
failed. -/
inductive SessionState where
  | new
  | negotiating
  | authenticating
  | established
  | finishing
  | finished
  | failed
  deriving DecidableEq, Repr, Inhabited

namespace SessionState

instance : Choice SessionState where
  all := [.new, .negotiating, .authenticating, .established, .finishing, .finished, .failed]
  name
    | .new => "new"
    | .negotiating => "negotiating"
    | .authenticating => "authenticating"
    | .established => "established"
    | .finishing => "finishing"
    | .finished => "finished"
    | .failed => "failed"

def text (state : SessionState) : String :=
  Choice.name state

/-- Whether a session in this state is over. -/
def isTerminal : SessionState → Bool
  | finished | failed => true
  | _ => false

end SessionState

/-- How a transport may compress. -/
inductive Compression where
  | off
  | gzip
  deriving DecidableEq, Repr, Inhabited

instance : Choice Compression where
  all := [.off, .gzip]
  name
    | .off => "none"
    | .gzip => "gzip"

/-- How a transport may encrypt. -/
inductive Encryption where
  | off
  | tls
  deriving DecidableEq, Repr, Inhabited

instance : Choice Encryption where
  all := [.off, .tls]
  name
    | .off => "none"
    | .tls => "tls"

/-- How an endpoint shows who it is. -/
inductive Scheme where
  | guest
  | plain
  | transport
  | key
  | external
  deriving DecidableEq, Repr, Inhabited

instance : Choice Scheme where
  all := [.guest, .plain, .transport, .key, .external]
  name
    | .guest => "guest"
    | .plain => "plain"
    | .transport => "transport"
    | .key => "key"
    | .external => "external"

/-- A step in the life of a session. -/
structure Session where
  header : Header := {}
  state : SessionState
  encryptionOptions : Option (List Encryption) := none
  encryption : Option Encryption := none
  compressionOptions : Option (List Compression) := none
  compression : Option Compression := none
  scheme : Option Scheme := none
  authentication : Option Json := none
  reason : Option Reason := none
  deriving DecidableEq, Inhabited

/-! ## Envelopes -/

/-- Anything that two endpoints send each other. -/
inductive Envelope where
  | message (message : Message)
  | notification (notification : Notification)
  | command (command : Command)
  | session (session : Session)
  deriving DecidableEq, Inhabited

namespace Envelope

def header : Envelope → Header
  | message m => m.header
  | notification n => n.header
  | command c => c.header
  | session s => s.header

end Envelope

/-! ## Traffic

Messages, notifications and commands flow while a session is established, and are handled alike. -/

/-- The kinds of envelope that flow while a session is established. -/
inductive Traffic where
  | message
  | notification
  | command
  deriving DecidableEq, Repr, Inhabited

namespace Traffic

/-- The envelopes of a kind. -/
abbrev Item : Traffic → Type
  | message => Message
  | notification => Notification
  | command => Command

def envelope : (kind : Traffic) → kind.Item → Envelope
  | message, m => .message m
  | notification, n => .notification n
  | command, c => .command c

/-- An envelope as one of a kind. -/
def item? : (kind : Traffic) → Envelope → Option kind.Item
  | message, .message m => some m
  | notification, .notification n => some n
  | command, .command c => some c
  | _, _ => none

/-- Changes the header of an envelope. -/
def modifyHeader (f : Header → Header) : (kind : Traffic) → kind.Item → kind.Item
  | message, m => { m with header := f m.header }
  | notification, n => { n with header := f n.header }
  | command, c => { c with header := f c.header }

/-- The word for an envelope of the kind. -/
def word : Traffic → String
  | message => "message"
  | notification => "notification"
  | command => "command"

end Traffic
end Courier
