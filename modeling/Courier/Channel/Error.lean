/-
Why an operation on a channel fails.
-/
import Courier.Settings.Basic

namespace Courier

/-- Something that an operation needs to be told. -/
inductive Argument where
  | identityName
  | identityDomain
  deriving DecidableEq, Repr

def Argument.text : Argument → String
  | identityName => "identity name"
  | identityDomain => "identity domain"

/-- Why an operation on a channel fails. -/
inductive ChannelError where
  /-- The operation is not for the state that the session is in. -/
  | invalidState (operation : String) (state : SessionState)
  /-- The operation was not told something that it needs. -/
  | missingArgument (argument : Argument)
  /-- The transport failed. -/
  | transport (fault : Fault)
  /-- The other end offers nothing to agree on. -/
  | handshake (detail : String)
  /-- The channel cannot be set up as asked. -/
  | settings (error : SettingsError)
  deriving DecidableEq, Repr

namespace ChannelError

/-- The text shown to people. -/
def message : ChannelError → String
  | invalidState operation state => "cannot " ++ operation ++ " in the '" ++ state.text ++ "' state"
  | missingArgument argument => "missing required argument: " ++ argument.text
  | transport fault => "transport error: " ++ fault.message
  | handshake detail => "handshake failed: " ++ detail
  | settings error => "invalid configuration: " ++ error.message

/-- What the error comes from, where it comes from another one. -/
def causes : ChannelError → List String
  | transport fault => [fault.message]
  | settings error => [error.message]
  | _ => []

/-- Whether the operation was asked for at the wrong moment or with too little, so that nothing was
tried. -/
def isPrecondition : ChannelError → Bool
  | invalidState .. | missingArgument _ => true
  | _ => false

end ChannelError
end Courier
