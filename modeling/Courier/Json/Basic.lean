/-
JSON values.

A `Json` is a value: the members of its objects are in order of their keys, each key once.  A `Tree`
is what one reads or writes: its members stand as the text lists them, repeated ones included, which
the reading of envelopes has to see.  Some well-formed pieces of text have no value here (a number
out of range, half of a surrogate pair, too deep a nesting); a tree holds a `hole` in their place,
so that a reader may pass over such a piece where nothing is read from it.
-/
import Courier.Members
import Courier.Number.Binary64

namespace Courier

/-- A number: a whole one of 64 bits, with or without a sign, or a binary64 one. -/
inductive Number where
  | whole (n : Int)
  | real (x : Binary64)
  deriving DecidableEq, Repr

/-- Whether a whole number is in the range that is kept exactly. -/
def Number.InRange : Number → Prop
  | whole n => Int64.minValue.toInt ≤ n ∧ n < UInt64.size
  | real _ => True

/-- A JSON value. -/
inductive Json where
  | null
  | bool (b : Bool)
  | number (n : Number)
  | string (s : String)
  | array (items : List Json)
  | object (members : List (String × Json))
  deriving Repr, Inhabited

/-- A JSON value as a text lists it. -/
inductive Tree where
  | null
  | bool (b : Bool)
  | number (n : Number)
  | string (s : String)
  | array (items : List Tree)
  | object (members : List (String × Tree))
  | hole
  deriving Repr, Inhabited

/-! ## Equality of values -/

namespace Json

mutual

def same : Json → Json → Bool
  | null, null => true
  | bool a, bool b => a == b
  | number a, number b => a == b
  | string a, string b => a == b
  | array xs, array ys => sameItems xs ys
  | object xs, object ys => sameMembers xs ys
  | _, _ => false

def sameItems : List Json → List Json → Bool
  | [], [] => true
  | x :: xs, y :: ys => same x y && sameItems xs ys
  | _, _ => false

def sameMembers : List (String × Json) → List (String × Json) → Bool
  | [], [] => true
  | (k, x) :: xs, (l, y) :: ys => k == l && same x y && sameMembers xs ys
  | _, _ => false

end

mutual

theorem same_iff : ∀ x y : Json, same x y = true ↔ x = y
  | null, y => by cases y <;> simp [same]
  | bool a, y => by cases y <;> simp [same]
  | number a, y => by cases y <;> simp [same]
  | string a, y => by cases y <;> simp [same]
  | array xs, y => by cases y <;> simp [same, sameItems_iff xs]
  | object xs, y => by cases y <;> simp [same, sameMembers_iff xs]

theorem sameItems_iff : ∀ xs ys : List Json, sameItems xs ys = true ↔ xs = ys
  | [], ys => by cases ys <;> simp [sameItems]
  | x :: xs, ys => by cases ys <;> simp [sameItems, same_iff x, sameItems_iff xs]

theorem sameMembers_iff : ∀ xs ys : List (String × Json), sameMembers xs ys = true ↔ xs = ys
  | [], ys => by cases ys <;> simp [sameMembers]
  | (k, x) :: xs, ys => by
    rcases ys with _ | ⟨⟨l, y⟩, ys⟩
    · simp [sameMembers]
    · simp [sameMembers, same_iff x, sameMembers_iff xs, Prod.ext_iff, and_assoc]

end

instance : DecidableEq Json := fun x y => decidable_of_iff _ (same_iff x y)

/-! ## Values and trees -/

/-- The text of a value, if it is a string. -/
def text? : Json → Option String
  | string s => some s
  | _ => none

/-- The value of a member, if the value is an object that has it. -/
def get? (key : String) : Json → Option Json
  | object members => Members.get? key members
  | _ => none

mutual

/-- The tree that lists a value. -/
def toTree : Json → Tree
  | null => .null
  | bool b => .bool b
  | number n => .number n
  | string s => .string s
  | array items => .array (toTrees items)
  | object members => .object (toMembers members)

def toTrees : List Json → List Tree
  | [] => []
  | x :: xs => toTree x :: toTrees xs

def toMembers : List (String × Json) → List (String × Tree)
  | [] => []
  | (k, x) :: xs => (k, toTree x) :: toMembers xs

end

end Json

namespace Tree

mutual

/-- Whether a tree has no hole. -/
def isWhole : Tree → Bool
  | hole => false
  | array items => areWhole items
  | object members => membersAreWhole members
  | _ => true

def areWhole : List Tree → Bool
  | [] => true
  | t :: ts => isWhole t && areWhole ts

def membersAreWhole : List (String × Tree) → Bool
  | [] => true
  | (_, t) :: ts => isWhole t && membersAreWhole ts

end

mutual

/-- The value that a tree lists, if it has no hole.  Of several members with one key the last one
stands. -/
def value? : Tree → Option Json
  | null => some .null
  | bool b => some (.bool b)
  | number n => some (.number n)
  | string s => some (.string s)
  | array items => (values? items).map .array
  | object members => (memberValues? members).map fun members => .object (Members.ofList members)
  | hole => none

def values? : List Tree → Option (List Json)
  | [] => some []
  | t :: ts => do some ((← value? t) :: (← values? ts))

def memberValues? : List (String × Tree) → Option (List (String × Json))
  | [] => some []
  | (k, t) :: ts => do some ((k, ← value? t) :: (← memberValues? ts))

end

end Tree
end Courier
