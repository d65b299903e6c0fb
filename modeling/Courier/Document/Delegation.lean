/-
Delegations: what a node may do on behalf of another.
-/
import Courier.Envelope.Basic

namespace Courier

open Wire

/-- The methods that may be used on resources of a type. -/
structure LinkedCommand where
  mediaType : String
  methods : List Method
  deriving DecidableEq, Inhabited

namespace LinkedCommand

def fieldNames : List String :=
  ["type", "methods"]

def members (command : LinkedCommand) : List (String × Tree) :=
  field "type" (some command.mediaType) ++ field "methods" (some command.methods)

def ofMembers? (members : List (String × Tree)) : Option LinkedCommand := do
  some {
    mediaType := ← required "type" members
    methods := ← required "methods" members }

instance : Wire LinkedCommand where
  tree command := .object command.members
  ofTree? t := members? fieldNames t >>= ofMembers?

end LinkedCommand

/-- What a node may do on behalf of another: whom it may address, which commands and which types of
message it may send. -/
structure Delegation where
  target : Option Node := none
  destinations : Option (List Identity) := none
  commands : Option (List LinkedCommand) := none
  messages : Option (List String) := none
  deriving DecidableEq, Inhabited

namespace Delegation

def fieldNames : List String :=
  ["target", "destinations", "commands", "messages"]

def members (delegation : Delegation) : List (String × Tree) :=
  field "target" delegation.target ++ field "destinations" delegation.destinations ++
    field "commands" delegation.commands ++ field "messages" delegation.messages

def ofMembers? (members : List (String × Tree)) : Option Delegation := do
  some {
    target := ← optional "target" members
    destinations := ← optional "destinations" members
    commands := ← optional "commands" members
    messages := ← optional "messages" members }

instance : Wire Delegation where
  tree delegation := .object delegation.members
  ofTree? t := members? fieldNames t >>= ofMembers?

end Delegation
end Courier
