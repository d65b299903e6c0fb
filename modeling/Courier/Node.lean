/-
Addresses.  An identity is `name@domain`, a node an identity with an optional `/instance`.

Peers may leave parts out, so every part is optional, and a part that is present may hold any text:
the constructors do not check what `Node.parse` checks.
-/
import Courier.Text.Blank
import Courier.Fault

namespace Courier

/-- Who is addressed: a name in a domain. -/
structure Identity where
  name : Option String := none
  domain : Option String := none
  deriving DecidableEq, Repr, Inhabited

/-- Where an identity is addressed: one of the places it is connected from, or any of them. -/
structure Node where
  identity : Identity := {}
  place : Option String := none
  deriving DecidableEq, Repr, Inhabited

namespace Identity

/-- The node of an identity at a place. -/
def at? (identity : Identity) (place : Option String) : Node :=
  { identity, place }

/-- The name, then the domain after an `@`. -/
def chars (identity : Identity) : List Char :=
  (identity.name.map String.toList).getD [] ++
    (identity.domain.map fun domain => '@' :: domain.toList).getD []

def text (identity : Identity) : String :=
  String.ofList identity.chars

/-- Keeps the parts that are present and takes the others from another identity. -/
def fill (identity source : Identity) : Identity where
  name := identity.name <|> source.name
  domain := identity.domain <|> source.domain

end Identity

namespace Node

/-- The identity, then the place after a `/`. -/
def chars (node : Node) : List Char :=
  node.identity.chars ++ (node.place.map fun place => '/' :: place.toList).getD []

def text (node : Node) : String :=
  String.ofList node.chars

/-- Whether no part is left out. -/
def isComplete (node : Node) : Bool :=
  node.identity.name.isSome && node.identity.domain.isSome && node.place.isSome

/-- Keeps the parts that are present and takes the others from another node. -/
def fill (node source : Node) : Node where
  identity := node.identity.fill source.identity
  place := node.place <|> source.place

/-! ## Reading an address -/

/-- A part of an address: empty text stands for an absent part. -/
def part? : List Char → Option String
  | [] => none
  | c :: cs => some (String.ofList (c :: cs))

/-- The identity that a text without a place stands for.  The name ends at the first `@`; a second
`@` or no part at all makes it no identity. -/
def identity? (cs : List Char) : Option Identity :=
  match Text.cut '@' cs with
  | (name, none) =>
    match part? name with
    | none => none
    | some name => some { name := some name }
  | (name, some domain) =>
    if '@' ∈ domain then none
    else
      match part? name, part? domain with
      | none, none => none
      | name, domain => some { name, domain }

/-- The node that a trimmed text stands for.  The place starts after the first `/` and may hold
anything. -/
def ofTrimmed? (cs : List Char) : Option Node :=
  let (before, after) := Text.cut '/' cs
  (identity? before).map fun identity => { identity, place := after.bind part? }

/-- Reads an address, after trimming the text. -/
def parse (s : String) : Except Fault Node :=
  let cs := Text.trimChars s.toList
  if cs.isEmpty then .error (.invalidNode "empty node")
  else
    match ofTrimmed? cs with
    | some node => .ok node
    | none => .error (.invalidNode (String.ofList cs))

end Node

/-- Reads an identity: the address of a node, less its place. -/
def Identity.parse (s : String) : Except Fault Identity :=
  (Node.parse s).map (·.identity)

/-! ## Filling -/

theorem Identity.fill_fill (identity source : Identity) :
    (identity.fill source).fill source = identity.fill source := by
  cases identity with
  | mk name domain => cases name <;> cases domain <;> simp [Identity.fill]

theorem Node.fill_fill (node source : Node) :
    (node.fill source).fill source = node.fill source := by
  cases node with
  | mk identity place => cases place <;> simp [Node.fill, Identity.fill_fill]

/-- A complete source leaves no part out. -/
theorem Node.isComplete_fill {node source : Node} (h : source.isComplete = true) :
    (node.fill source).isComplete = true := by
  simp only [isComplete, Bool.and_eq_true] at h
  obtain ⟨⟨hn, hd⟩, hp⟩ := h
  cases node with
  | mk identity place =>
    cases identity with
    | mk name domain =>
      cases name <;> cases domain <;> cases place <;>
        simp [isComplete, fill, Identity.fill, hn, hd, hp]

end Courier
