/-
The text of a JSON value: no white space, members as they stand, whole numbers in decimal.

Strings escape the quote, the backslash and the characters below U+0020, which have a letter or four
hexadecimal digits; every other character stands for itself.  So no text holds a line break, whatever
its strings hold.
-/
import Courier.Json.Basic
import Courier.Number.Shortest
import Courier.Text.Hex

namespace Courier

/-! ## Strings -/

/-- A character inside quotes. -/
def escaped (c : Char) : List Char :=
  if c = '"' then ['\\', '"']
  else if c = '\\' then ['\\', '\\']
  else if c = '\n' then ['\\', 'n']
  else if c = '\r' then ['\\', 'r']
  else if c = '\t' then ['\\', 't']
  else if c = '\x08' then ['\\', 'b']
  else if c = '\x0c' then ['\\', 'f']
  else if c.toNat < 0x20 then
    ['\\', 'u', '0', '0', hexDigit (c.toNat / 16), hexDigit (c.toNat % 16)]
  else [c]

/-- A string in quotes. -/
def quoted (s : String) : List Char :=
  '"' :: (s.toList.flatMap escaped ++ ['"'])

/-! ## Numbers -/

/-- The places of a first digit that are written with a point alone; the others have an exponent. -/
def positionalPlaces : Int × Int := (-5, 15)

/-- A binary64 number: its shortest decimal, always with a point or an exponent. -/
def Binary64.chars (x : Binary64) : List Char :=
  let decimal := x.magnitude.shortest
  let size :=
    if positionalPlaces.1 ≤ decimal.lead ∧ decimal.lead ≤ positionalPlaces.2 then
      decimal.positional
    else decimal.scientific
  if x.negative then '-' :: size else size

/-- A whole number in decimal. -/
def intChars (n : Int) : List Char :=
  if n < 0 then '-' :: Nat.toDigits 10 n.natAbs else Nat.toDigits 10 n.natAbs

def Number.chars : Number → List Char
  | whole n => intChars n
  | real x => x.chars

/-! ## Values -/

namespace Tree

mutual

/-- The text of a tree.  A hole, which no tree of a value has, is written as null. -/
def chars : Tree → List Char
  | null => ['n', 'u', 'l', 'l']
  | bool true => ['t', 'r', 'u', 'e']
  | bool false => ['f', 'a', 'l', 's', 'e']
  | number n => n.chars
  | string s => quoted s
  | array [] => ['[', ']']
  | array (t :: ts) => '[' :: (chars t ++ moreItems ts)
  | object [] => ['{', '}']
  | object ((k, t) :: ts) => '{' :: (quoted k ++ ':' :: (chars t ++ moreMembers ts))
  | hole => ['n', 'u', 'l', 'l']

/-- The items after the first, and the closing bracket. -/
def moreItems : List Tree → List Char
  | [] => [']']
  | t :: ts => ',' :: (chars t ++ moreItems ts)

/-- The members after the first, and the closing brace. -/
def moreMembers : List (String × Tree) → List Char
  | [] => ['}']
  | (k, t) :: ts => ',' :: (quoted k ++ ':' :: (chars t ++ moreMembers ts))

end

def text (tree : Tree) : String :=
  String.ofList tree.chars

end Tree
end Courier
