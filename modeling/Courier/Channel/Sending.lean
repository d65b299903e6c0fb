/-
Sending.

Messages, notifications and commands are sent while the session is established, after they have gone
through the pipeline of their kind.  Sessions are sent at any time and as they are.
-/
import Courier.Channel.Basic

namespace Courier
namespace World

variable {σ : Type}

/-- Hands an envelope to the link.  The pings of the channel itself are not counted as activity. -/
def transmit (envelope : Envelope) (isActivity : Bool) (w : World σ) :
    Except ChannelError Unit × World σ :=
  let w := if isActivity then w.touch else w
  match w.link.send envelope with
  | (.ok (), link) => (.ok (), { w with link }.record (.sent envelope))
  | (.error fault, link) =>
    (.error (.transport fault), { w with link }.record (.unsent envelope fault))

/-- Takes an item through a module on its way out. -/
def sendingStep (h : Host σ) (kind : Traffic) (stage : Stage) (item : kind.Item) (w : World σ) :
    Option kind.Item × World σ :=
  match stage with
  | .receipt => (some item, w)
  | .named name =>
    let w := w.record (.entered name .sending)
    h.transform kind name .sending item
      (w.callOut h (.stage name .sending (kind.envelope item)))

/-- Sends an item, in whatever state the session is. -/
def sendUnchecked (h : Host σ) (kind : Traffic) (item : kind.Item) (isActivity : Bool)
    (w : World σ) : Except ChannelError Unit × World σ :=
  match Pipeline.through (sendingStep h kind) (w.channel.pipelines.get kind).modules item w with
  | (some item, w) => w.transmit (kind.envelope item) isActivity
  | (none, w) => (.ok (), w)

/-- Sends an item while the session is established. -/
def sendItem (h : Host σ) (kind : Traffic) (item : kind.Item) (w : World σ) :
    Except ChannelError Unit × World σ :=
  match w.channel.standing.ensure .established ("send a " ++ kind.word) with
  | .ok () => w.sendUnchecked h kind item true
  | .error error => (.error error, w)

def sendSession (session : Session) (w : World σ) : Except ChannelError Unit × World σ :=
  w.transmit (.session session) true

def send (h : Host σ) (envelope : Envelope) (w : World σ) : Except ChannelError Unit × World σ :=
  match envelope with
  | .message m => w.sendItem h .message m
  | .notification n => w.sendItem h .notification n
  | .command c => w.sendItem h .command c
  | .session s => w.sendSession s

/-- Tells the sender of a message that it was received. -/
def notifyReceived (h : Host σ) (id : String) (recipient : Node) (w : World σ) :
    Except ChannelError Unit × World σ :=
  w.sendItem h .notification
    { header := { id := some id, recipient := some recipient }, event := .received }

end World
end Courier
