/-
What can go wrong below the channel: with the text of an envelope, with an address, with the
connection.
-/

namespace Courier

/-- A failure of the protocol layer. -/
inductive Fault where
  /-- An envelope or document could not be written. -/
  | serialization (detail : String)
  /-- An envelope or document could not be read. -/
  | deserialization (detail : String)
  /-- A text is no address. -/
  | invalidNode (detail : String)
  /-- The transport is closed, or was closed while the operation was pending. -/
  | connectionClosed (detail : String)
  /-- The operation took too long. -/
  | timeout (detail : String)
  /-- The transport does not offer the requested option. -/
  | unsupported (detail : String)
  /-- Any other failure of input or output. -/
  | inputOutput (detail : String)
  deriving DecidableEq, Repr

namespace Fault

/-- The text shown to people. -/
def message : Fault → String
  | serialization detail => "serialization failed: " ++ detail
  | deserialization detail => "deserialization failed: " ++ detail
  | invalidNode detail => "invalid node: " ++ detail
  | connectionClosed detail => "connection closed: " ++ detail
  | timeout detail => "operation timed out: " ++ detail
  | unsupported detail => "unsupported: " ++ detail
  | inputOutput detail => "i/o error: " ++ detail

/-- The text of a well-formed JSON value that fits no kind of envelope. -/
def noKind : Fault :=
  .deserialization "data did not match any variant of untagged enum Envelope"

/-- A text that is not JSON. -/
def malformed : Fault :=
  .deserialization "the text is not well-formed"

end Fault

/-- How an operation on a stream fails, as far as the protocol layer tells failures apart. -/
inductive StreamFailure where
  | timedOut
  | connectionReset
  | connectionAborted
  | brokenPipe
  | notConnected
  | unexpectedEnd
  | other
  deriving DecidableEq, Repr

/-- A failed stream operation as a failure of the protocol layer: a peer that is gone, whichever way
it went, closes the connection. -/
def Fault.ofStream (failure : StreamFailure) (detail : String) : Fault :=
  match failure with
  | .timedOut => .timeout detail
  | .connectionReset | .connectionAborted | .brokenPipe | .notConnected | .unexpectedEnd =>
    .connectionClosed detail
  | .other => .inputOutput detail

end Courier
