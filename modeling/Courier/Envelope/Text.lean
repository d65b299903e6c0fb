/-
The texts of envelopes.

An envelope is one JSON object: the fields of its header first, then its own.  Its kind is not
written; it shows in the fields.  Reading takes the first kind that fits, in the order session,
command, notification, message, and passes over fields that the kind does not have.

An envelope has several texts, since its metadata may be listed in any order: what is written
depends on the listing (`Metadata.Listing`), and the writer may take any.
-/
import Courier.Envelope.Basic

namespace Courier

open Wire

namespace Header

/-- The fields of a header, in order. -/
def fieldNames : List String :=
  ["id", "from", "to", "pp", "metadata"]

/-- The members of a header whose metadata is listed in some order.  No metadata is not listed. -/
def members (header : Header) (listing : header.metadata.Listing) : List (String × Tree) :=
  field "id" header.id ++ field "from" header.sender ++ field "to" header.recipient ++
    field "pp" header.hop ++
    member "metadata" (if header.metadata.isEmpty then none else some listing.tree)

def ofMembers? (members : List (String × Tree)) : Option Header := do
  some {
    id := ← optional "id" members
    sender := ← optional "from" members
    recipient := ← optional "to" members
    hop := ← optional "pp" members
    metadata := ← defaulted "metadata" .empty members }

instance : Wire Header where
  tree header := .object (header.members header.metadata.sorted)
  ofTree? t := members? fieldNames t >>= ofMembers?

end Header

namespace Reason

def fieldNames : List String :=
  ["code", "description"]

instance : Wire Reason where
  tree reason :=
    .object (field "code" (some reason.code) ++ field "description" reason.description)
  ofTree? t := do
    let members ← members? fieldNames t
    some {
      code := ← required "code" members
      description := ← optional "description" members }

end Reason

/-! ## The four kinds

An envelope is read from the members of an object without holes. -/

namespace Message

def members (message : Message) (listing : message.header.metadata.Listing) :
    List (String × Tree) :=
  message.header.members listing ++ field "type" (some message.mediaType) ++
    field "content" (some message.content)

def ofMembers? (members : List (String × Tree)) : Option Message := do
  some {
    header := ← Header.ofMembers? members
    mediaType := ← required "type" members
    content := ← required "content" members }

end Message

namespace Notification

def members (notification : Notification) (listing : notification.header.metadata.Listing) :
    List (String × Tree) :=
  notification.header.members listing ++ field "event" (some notification.event) ++
    field "reason" notification.reason

def ofMembers? (members : List (String × Tree)) : Option Notification := do
  some {
    header := ← Header.ofMembers? members
    event := ← required "event" members
    reason := ← optional "reason" members }

end Notification

namespace Command

def members (command : Command) (listing : command.header.metadata.Listing) :
    List (String × Tree) :=
  command.header.members listing ++ field "method" (some command.method) ++
    field "uri" command.uri ++ field "type" command.mediaType ++
    field "resource" command.resource ++ field "status" command.status ++
    field "reason" command.reason

def ofMembers? (members : List (String × Tree)) : Option Command := do
  some {
    header := ← Header.ofMembers? members
    method := ← required "method" members
    uri := ← optional "uri" members
    mediaType := ← optional "type" members
    resource := ← optional "resource" members
    status := ← optional "status" members
    reason := ← optional "reason" members }

end Command

namespace Session

def members (session : Session) (listing : session.header.metadata.Listing) :
    List (String × Tree) :=
  session.header.members listing ++ field "state" (some session.state) ++
    field "encryptionOptions" session.encryptionOptions ++
    field "encryption" session.encryption ++
    field "compressionOptions" session.compressionOptions ++
    field "compression" session.compression ++ field "scheme" session.scheme ++
    field "authentication" session.authentication ++ field "reason" session.reason

def ofMembers? (members : List (String × Tree)) : Option Session := do
  some {
    header := ← Header.ofMembers? members
    state := ← required "state" members
    encryptionOptions := ← optional "encryptionOptions" members
    encryption := ← optional "encryption" members
    compressionOptions := ← optional "compressionOptions" members
    compression := ← optional "compression" members
    scheme := ← optional "scheme" members
    authentication := ← optional "authentication" members
    reason := ← optional "reason" members }

end Session

namespace Wire

/-- Reads the members of an object that has no hole. -/
def ofObject? {α : Type} (read : List (String × Tree) → Option α) : Tree → Option α
  | .object members => if Tree.membersAreWhole members then read members else none
  | _ => none

instance : Wire Message where
  tree message := .object (message.members message.header.metadata.sorted)
  ofTree? := ofObject? Message.ofMembers?

instance : Wire Notification where
  tree notification := .object (notification.members notification.header.metadata.sorted)
  ofTree? := ofObject? Notification.ofMembers?

instance : Wire Command where
  tree command := .object (command.members command.header.metadata.sorted)
  ofTree? := ofObject? Command.ofMembers?

instance : Wire Session where
  tree session := .object (session.members session.header.metadata.sorted)
  ofTree? := ofObject? Session.ofMembers?

end Wire

/-! ## Envelopes -/

namespace Envelope

/-- An order in which the metadata of an envelope is listed. -/
abbrev Listing (envelope : Envelope) : Type :=
  envelope.header.metadata.Listing

/-- The listing in the order of the keys. -/
def sorted (envelope : Envelope) : envelope.Listing :=
  envelope.header.metadata.sorted

def members : (envelope : Envelope) → envelope.Listing → List (String × Tree)
  | message m, listing => m.members listing
  | notification n, listing => n.members listing
  | command c, listing => c.members listing
  | session s, listing => s.members listing

/-- The first kind that fits the members of an object. -/
def ofMembers? (members : List (String × Tree)) : Option Envelope :=
  (Session.ofMembers? members).map session <|> (Command.ofMembers? members).map command <|>
    (Notification.ofMembers? members).map notification <|>
    (Message.ofMembers? members).map message

def tree (envelope : Envelope) (listing : envelope.Listing) : Tree :=
  .object (envelope.members listing)

/-- The text of an envelope whose metadata is listed in some order. -/
def text (envelope : Envelope) (listing : envelope.Listing) : String :=
  (envelope.tree listing).text

/-- The envelope that a tree without holes lists. -/
def ofTree? : Tree → Option Envelope
  | .object members => ofMembers? members
  | _ => none

/-- Reads an envelope.  A value that fits no kind is reported before anything that may stand after
it. -/
def ofText (s : String) : Except Fault Envelope :=
  match Tree.read? s.toList with
  | none => .error .malformed
  | some (t, rest) =>
    if t.isWhole then
      match ofTree? t with
      | none => .error .noKind
      | some envelope => if (skipSpace rest).isEmpty then .ok envelope else .error .malformed
    else .error .malformed

end Envelope
end Courier
