import Courier.Document.Presence
import Courier.Document.Contact
import Courier.Document.Delegation
import Courier.Envelope.Text
import Courier.Channel.Playbook
import Courier.Settings.Store
import Courier.Client.Conversation
import Courier.Main
import Courier.Stream.Lines
import Courier.Stream.Outbox
import Courier.Proofs.Envelope.RoundTrip
import Courier.Proofs.Envelope.Credentials
import Courier.Proofs.Document.RoundTrip
import Courier.Proofs.Passwords
import Courier.Proofs.Registry.Deliveries
import Courier.Proofs.Registry.Reentrance
import Courier.Proofs.Channel.Handshakes
import Courier.Proofs.Channel.Invariants
import Courier.Proofs.Channel.Hosts
import Courier.Proofs.Channel.Outcome
import Courier.Proofs.Channel.Completion
import Courier.Proofs.Channel.Course
import Courier.Proofs.Channel.Following
import Courier.Proofs.Channel.Moments
import Courier.Proofs.Channel.Answered
import Courier.Proofs.Channel.Reception
import Courier.Proofs.Channel.Addressing
import Courier.Proofs.Channel.Modules
import Courier.Proofs.Channel.Receipts
import Courier.Proofs.Channel.Pongs
import Courier.Proofs.Channel.FailedStarts
import Courier.Proofs.Channel.Errands
import Courier.Proofs.Channel.Preconditions
import Courier.Proofs.Json.Printable
import Courier.Proofs.Json.Trailing
import Courier.Proofs.Stream.Framing
import Courier.Proofs.Stream.Outbox
import Courier.Proofs.Registry.Nesting
import Courier.Proofs.Channel.Arrival
import Courier.Proofs.Channel.Parting
import Courier.Proofs.Channel.Progress
import Courier.Proofs.Channel.Standings
import Courier.Proofs.Channel.Secrecy
import Courier.Proofs.Channel.Coupling
import Courier.Proofs.Node.Grammar
import Courier.Proofs.Node.Reading
import Courier.Proofs.Envelope.Order
import Courier.Proofs.Pipeline
import Courier.Proofs.Settings.RoundTrip
import Courier.Proofs.Settings.Validation
import Courier.Proofs.Settings.Intervals
import Courier.Proofs.Settings.Defaults
import Courier.Proofs.Files
import Courier.Proofs.Settings.Store
import Courier.Proofs.Client.Lines
import Courier.Proofs.Client.Passing
import Courier.Proofs.Client.Conversations
