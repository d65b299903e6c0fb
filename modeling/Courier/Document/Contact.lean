/-
Contacts: the entries of a roster.
-/
import Courier.Wire

namespace Courier

open Wire

/-- An identity that one knows. -/
structure Contact where
  identity : Option Identity := none
  name : Option String := none
  isPending : Option Bool := none
  sharePresence : Option Bool := none
  shareAccount : Option Bool := none
  deriving DecidableEq, Inhabited

namespace Contact

def fieldNames : List String :=
  ["identity", "name", "isPending", "sharePresence", "shareAccountInfo"]

def members (contact : Contact) : List (String × Tree) :=
  field "identity" contact.identity ++ field "name" contact.name ++
    field "isPending" contact.isPending ++ field "sharePresence" contact.sharePresence ++
    field "shareAccountInfo" contact.shareAccount

def ofMembers? (members : List (String × Tree)) : Option Contact := do
  some {
    identity := ← optional "identity" members
    name := ← optional "name" members
    isPending := ← optional "isPending" members
    sharePresence := ← optional "sharePresence" members
    shareAccount := ← optional "shareAccountInfo" members }

instance : Wire Contact where
  tree contact := .object contact.members
  ofTree? t := members? fieldNames t >>= ofMembers?

end Contact
end Courier
