/-
What a TOML text holds.

An `Item` is a scalar, an array or a table.  Items and keys know where they stand in the text, so
that what is wrong with them can be pointed at.  Tables know where they come from, since that decides
what may be added to them later on.
-/
import Courier.Number.Shortest

namespace Courier
namespace Toml

/-- How many bytes a text takes in UTF-8. -/
def byteCount (cs : List Char) : Nat :=
  cs.foldr (fun c size => c.utf8Size + size) 0

/-- A part of a text, by how many bytes are left where it begins and where it ends. -/
structure Span where
  before : Nat
  after : Nat
  deriving DecidableEq, Repr, Inhabited

/-- The part between the place where one text is left and the place where another is. -/
def Span.between (cs rest : List Char) : Span :=
  ⟨byteCount cs, byteCount rest⟩

/-- Where a part begins and ends in a text of some size, in bytes from the start. -/
def Span.positions (span : Span) (size : Nat) : Nat × Nat :=
  (size - span.before, size - span.after)

structure Key where
  text : String
  span : Span
  deriving DecidableEq, Repr, Inhabited

/-- A number with a fraction or an exponent, or one that is none. -/
inductive Float where
  | finite (x : Binary64)
  | infinite (negative : Bool)
  | notANumber
  deriving DecidableEq, Repr

inductive Scalar where
  | string (s : String)
  | integer (n : Int)
  | float (x : Float)
  | boolean (b : Bool)
  /-- A date, a time, or both. -/
  | moment
  deriving DecidableEq, Repr

/-- Where a table comes from. -/
inductive Origin where
  /-- A header names it. -/
  | header
  /-- It is on the path that a header names. -/
  | path
  /-- It is on the path of a dotted key. -/
  | dotted
  /-- It is written in braces. -/
  | braces
  deriving DecidableEq, Repr

inductive Item where
  | scalar (span : Span) (value : Scalar)
  /-- An array in brackets. -/
  | array (span : Span) (items : List Item)
  /-- The tables that headers of two brackets name, in order. -/
  | tables (items : List Item)
  | table (span : Option Span) (origin : Origin) (entries : List (Key × Item))
  deriving Repr, Inhabited

namespace Item

/-- Where a single item stands; a table that no header and no braces make stands nowhere. -/
def ownSpan? : Item → Option Span
  | scalar span _ => some span
  | array span _ => some span
  | tables _ => none
  | table span _ _ => span

/-- Where an item stands; several tables reach from the first to the last of them. -/
def span? : Item → Option Span
  | tables items => do
    let first ← (← items.head?).ownSpan?
    let last ← (← items.getLast?).ownSpan?
    some ⟨first.before, last.after⟩
  | item => item.ownSpan?

/-- The entry of a key. -/
def get? (key : String) (entries : List (Key × Item)) : Option Item :=
  (entries.find? (·.1.text = key)).map (·.2)

end Item

/-! ## Numbers -/

/-- The magnitude nearest to `n * 10 ^ power`, or nothing if that is too large.  Far below the
smallest magnitude it is zero. -/
def nearest? (n : Nat) (power : Int) : Option Magnitude :=
  let lead := power + digitCount n
  if n = 0 ∨ lead < -400 then some .zero
  else if 400 < lead then none
  else Magnitude.round (n * Nat.pow 10 power.toNat) (Nat.pow 10 (-power).toNat)

/-- The text of a number in decimal, with a point if it is finite. -/
def Float.chars : Float → List Char
  | finite x =>
    let size := x.magnitude.shortest.positional
    if x.negative then '-' :: size else size
  | infinite negative => if negative then ['-', 'i', 'n', 'f'] else ['i', 'n', 'f']
  | notANumber => ['N', 'a', 'N']

end Toml
end Courier
