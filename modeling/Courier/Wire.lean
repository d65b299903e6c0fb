/-
Wire forms: how the values of a type are written as JSON and read back.

A record is written as an object with a member for each field that is present.  It is read by looking
its fields up, so the order of the members does not matter and members of other names are passed
over; a field that is listed twice makes the record unreadable.  Where a field is optional, null
stands for its absence.  A choice between names is written as the name; an object whose only member
has that name and the value null is read as the name too.

A text is read as a value if it holds one JSON value, with nothing but white space around it, and
that is the wire form of something.
-/
import Courier.Json.Printer
import Courier.Json.Reader
import Courier.Members
import Courier.Node

namespace Courier

/-- Types whose values have a wire form. -/
class Wire (α : Type) where
  tree : α → Tree
  ofTree? : Tree → Option α

/-- Types whose values are a choice between names. -/
class Choice (α : Type) where
  all : List α
  name : α → String

namespace Choice

/-- The choice with a given name. -/
def ofName? {α : Type} [Choice α] (s : String) : Option α :=
  all.find? fun a => name a = s

end Choice

/-- Metadata is written in the order in which it is listed, and read in any order. -/
def Metadata.Listing.tree {metadata : Metadata} (listing : metadata.Listing) : Tree :=
  .object (listing.entries.map fun entry => (entry.1, .string entry.2))

namespace Wire

variable {α : Type}

instance [Choice α] : Wire α where
  tree a := .string (Choice.name a)
  ofTree?
    | .string s => Choice.ofName? s
    | .object [(s, .null)] => Choice.ofName? s
    | _ => none

instance : Wire String where
  tree s := .string s
  ofTree?
    | .string s => some s
    | _ => none

instance : Wire Bool where
  tree b := .bool b
  ofTree?
    | .bool b => some b
    | _ => none

instance : Wire Json where
  tree := Json.toTree
  ofTree? := Tree.value?

instance : Wire Int32 where
  tree n := .number (.whole n.toInt)
  ofTree?
    | .number (.whole n) =>
      if Int32.minValue.toInt ≤ n ∧ n ≤ Int32.maxValue.toInt then some (Int32.ofInt n) else none
    | _ => none

instance : Wire UInt64 where
  tree n := .number (.whole n.toNat)
  ofTree?
    | .number (.whole n) =>
      if 0 ≤ n ∧ n.toNat < UInt64.size then some (UInt64.ofNat n.toNat) else none
    | _ => none

instance : Wire Node where
  tree node := .string node.text
  ofTree?
    | .string s => (Node.parse s).toOption
    | _ => none

instance : Wire Identity where
  tree identity := .string identity.text
  ofTree?
    | .string s => (Identity.parse s).toOption
    | _ => none

instance [Wire α] : Wire (List α) where
  tree xs := .array (xs.map tree)
  ofTree?
    | .array ts => ts.mapM ofTree?
    | _ => none

-- Metadata on its own is written in the order of its keys; an envelope may list it in any other.
instance : Wire Metadata where
  tree metadata := metadata.sorted.tree
  ofTree?
    | .object members =>
      (members.mapM fun member => (ofTree? member.2).map ((member.1, ·))).map Metadata.ofList
    | _ => none

/-! ## Records -/

/-- The member with a key, if there is a tree for it. -/
def member (key : String) : Option Tree → List (String × Tree)
  | none => []
  | some t => [(key, t)]

/-- The member for a field, if the field is present. -/
def field [Wire α] (key : String) (a : Option α) : List (String × Tree) :=
  member key (a.map tree)

/-- The only member with a key: `none` if there are several, `some none` if there is none. -/
def lookup (key : String) (members : List (String × Tree)) : Option (Option Tree) :=
  match members.filter (·.1 = key) with
  | [] => some none
  | [member] => some (some member.2)
  | _ => none

/-- Reads a field that has to be there. -/
def required [Wire α] (key : String) (members : List (String × Tree)) : Option α := do
  ofTree? (← ← lookup key members)

/-- Reads a field that has a default. -/
def defaulted [Wire α] (key : String) (default : α) (members : List (String × Tree)) :
    Option α := do
  match ← lookup key members with
  | none => some default
  | some t => ofTree? t

/-- Reads a field that may be absent. -/
def optional [Wire α] (key : String) (members : List (String × Tree)) : Option (Option α) := do
  match ← lookup key members with
  | none => some none
  | some .null => some none
  | some t => (ofTree? t).map some

/-- The members of a record: those of an object, or the items of an array under the names of the
fields.  An array may be shorter than the record, not longer. -/
def members? (names : List String) : Tree → Option (List (String × Tree))
  | .object members => some members
  | .array items => if items.length ≤ names.length then some (names.zip items) else none
  | _ => none

/-! ## Texts -/

/-- The JSON text of a value. -/
def text [Wire α] (a : α) : String :=
  (tree a).text

/-- Reads the JSON text of a value. -/
def ofText? [Wire α] (s : String) : Option α :=
  (Tree.ofText? s).bind ofTree?

end Wire
end Courier
