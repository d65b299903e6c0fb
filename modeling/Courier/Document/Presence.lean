/-
Presence: whether and how an identity can be reached.
-/
import Courier.Wire

namespace Courier

open Wire

/-- Whether somebody is there. -/
inductive Availability where
  | unavailable
  | available
  | busy
  | away
  deriving DecidableEq, Repr, Inhabited

instance : Choice Availability where
  all := [.unavailable, .available, .busy, .away]
  name
    | .unavailable => "unavailable"
    | .available => "available"
    | .busy => "busy"
    | .away => "away"

/-- Which of the places of an identity gets what is addressed to the identity alone. -/
inductive Routing where
  | place
  | identity
  | identityByDistance
  | identityByPriority
  | promiscuous
  | domainByDistance
  deriving DecidableEq, Repr, Inhabited

instance : Choice Routing where
  all := [.place, .identity, .identityByDistance, .identityByPriority, .promiscuous,
    .domainByDistance]
  name
    | .place => "instance"
    | .identity => "identity"
    | .identityByDistance => "identityByDistance"
    | .identityByPriority => "identityByPriority"
    | .promiscuous => "promiscuous"
    | .domainByDistance => "domainByDistance"

/-- How an identity can be reached. -/
structure Presence where
  availability : Option Availability := none
  message : Option String := none
  routing : Option Routing := none
  /-- When somebody was last there, as RFC 3339 writes times. -/
  lastSeen : Option String := none
  priority : Option Int32 := none
  /-- The places somebody is at. -/
  places : Option (List String) := none
  deriving DecidableEq, Inhabited

namespace Presence

def fieldNames : List String :=
  ["status", "message", "routingRule", "lastSeen", "priority", "instances"]

def members (presence : Presence) : List (String × Tree) :=
  field "status" presence.availability ++ field "message" presence.message ++
    field "routingRule" presence.routing ++ field "lastSeen" presence.lastSeen ++
    field "priority" presence.priority ++ field "instances" presence.places

def ofMembers? (members : List (String × Tree)) : Option Presence := do
  some {
    availability := ← optional "status" members
    message := ← optional "message" members
    routing := ← optional "routingRule" members
    lastSeen := ← optional "lastSeen" members
    priority := ← optional "priority" members
    places := ← optional "instances" members }

instance : Wire Presence where
  tree presence := .object presence.members
  ofTree? t := members? fieldNames t >>= ofMembers?

end Presence
end Courier
