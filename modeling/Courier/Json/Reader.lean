/-
Reading JSON texts.

The grammar is the usual one, without extensions.  `Tree.read?` reads the first value of a text and
gives what stands after it.  A value may nest `maxNesting` arrays and objects; what is deeper is read
and left as a hole, and so is a number out of range, a string with half of a surrogate pair, and an
object with such a key.
-/
import Courier.Json.Basic
import Courier.Text.Hex

namespace Courier

/-- How many arrays and objects may contain each other. -/
def maxNesting : Nat := 127

/-- Drops the white space that may stand between the pieces of a JSON text. -/
def skipSpace : List Char → List Char
  | [] => []
  | c :: cs => if c = ' ' ∨ c = '\t' ∨ c = '\n' ∨ c = '\r' then skipSpace cs else c :: cs

/-! ## Strings -/

/-- The character that a letter after a backslash stands for. -/
def escape? (c : Char) : Option Char :=
  if c = '"' ∨ c = '\\' ∨ c = '/' then some c
  else if c = 'n' then some '\n'
  else if c = 'r' then some '\r'
  else if c = 't' then some '\t'
  else if c = 'b' then some '\x08'
  else if c = 'f' then some '\x0c'
  else none

/-- Reads a string after its opening quote: the code points it lists, surrogates included, and what
stands after the closing quote. -/
def readQuoted : List Char → Option (List Nat × List Char)
  | [] => none
  | '"' :: rest => some ([], rest)
  | '\\' :: 'u' :: a :: b :: c :: d :: rest =>
    match hexValues? [a, b, c, d], readQuoted rest with
    | some n, some (ns, rest) => some (n :: ns, rest)
    | _, _ => none
  | '\\' :: c :: rest =>
    match escape? c, readQuoted rest with
    | some e, some (ns, rest) => some (e.toNat :: ns, rest)
    | _, _ => none
  | c :: rest =>
    if c.toNat < 0x20 ∨ c = '\\' then none
    else
      match readQuoted rest with
      | some (ns, rest) => some (c.toNat :: ns, rest)
      | none => none

def isLeading (n : Nat) : Bool := 0xD800 ≤ n && n < 0xDC00

def isTrailing (n : Nat) : Bool := 0xDC00 ≤ n && n < 0xE000

/-- The characters that code points stand for: a leading and a trailing surrogate are one character,
a surrogate that stands alone is none. -/
def joinSurrogates : List Nat → Option (List Char)
  | [] => some []
  | n :: ns =>
    if isLeading n then
      match ns with
      | [] => none
      | m :: ms =>
        if isTrailing m then
          (joinSurrogates ms).map (Char.ofNat (0x10000 + (n - 0xD800) * 0x400 + (m - 0xDC00)) :: ·)
        else none
    else if isTrailing n then none
    else (joinSurrogates ns).map (Char.ofNat n :: ·)

/-- Reads a string after its opening quote; a string that no text has is left out. -/
def readString (cs : List Char) : Option (Option String × List Char) :=
  (readQuoted cs).map fun (ns, rest) => ((joinSurrogates ns).map String.ofList, rest)

/-! ## Numbers -/

/-- Reads digits into a number while it fits 64 bits, and counts the digits left over. -/
def keepDigits (n : Nat) : List Char → Nat × Nat
  | [] => (n, 0)
  | digit :: digits =>
    let next := 10 * n + (digit.toNat - '0'.toNat)
    if next < UInt64.size then keepDigits next digits else (n, digits.length + 1)

/-- The number with a whole part, a fraction and a power of ten, if it is in range.

A whole number without fraction and power stays exact where 64 bits hold it.  Every other number is
a binary64 one: the digits that fit 64 bits, rounded, times a power of ten. -/
def Number.ofDigits? (negative : Bool) (whole fraction : List Char) (power : Option Int) :
    Option Number :=
  let n := Nat.ofDigitChars 10 whole 0
  if fraction.isEmpty ∧ power.isNone ∧ n < UInt64.size then
    if negative = false then some (.whole n)
    else if 0 < n ∧ Int64.minValue.toInt ≤ -n then some (.whole (-n))
    else (Binary64.ofNat? true n).map .real
  else
    let (kept, dropped) := keepDigits 0 whole
    let (kept, ignored) := keepDigits kept fraction
    let place : Int := dropped - (fraction.length - ignored : Nat)
    (do (← Magnitude.round kept 1).scale (place + power.getD 0)).map fun size =>
      .real ⟨negative, size⟩

/-- Splits off the digits at the start of a text. -/
def spanDigits (cs : List Char) : List Char × List Char :=
  (cs.takeWhile Char.isDigit, cs.dropWhile Char.isDigit)

/-- Reads the fraction of a number, if a point stands here. -/
def readFraction : List Char → Option (List Char × List Char)
  | '.' :: cs => if (spanDigits cs).1.isEmpty then none else some (spanDigits cs)
  | cs => some ([], cs)

/-- Reads the power of ten of a number, if there is one. -/
def readPower : List Char → Option (Option Int × List Char)
  | c :: cs =>
    if c = 'e' ∨ c = 'E' then
      let (negative, cs) : Bool × List Char :=
        match cs with
        | '+' :: cs => (false, cs)
        | '-' :: cs => (true, cs)
        | cs => (false, cs)
      let (digits, rest) := spanDigits cs
      if digits.isEmpty then none
      else
        let n : Int := Nat.ofDigitChars 10 digits 0
        some (some (if negative then -n else n), rest)
    else some (none, c :: cs)
  | [] => some (none, [])

/-- Reads a number after its sign.  A whole part of several digits does not start with a zero. -/
def readUnsigned (negative : Bool) (cs : List Char) : Option (Option Number × List Char) :=
  let (whole, rest) := spanDigits cs
  if whole.isEmpty ∨ (whole.head? = some '0' ∧ whole ≠ ['0']) then none
  else
    match readFraction rest with
    | none => none
    | some (fraction, rest) =>
      match readPower rest with
      | none => none
      | some (power, rest) => some (Number.ofDigits? negative whole fraction power, rest)

/-- Reads a number; one out of range is left out. -/
def readNumber : List Char → Option (Option Number × List Char)
  | '-' :: cs => readUnsigned true cs
  | cs => readUnsigned false cs

/-! ## Values -/

namespace Tree

/-- An array or object, unless it is nested too deeply. -/
def within (room : Nat) (tree : Tree) : Tree :=
  if room = 0 then hole else tree

mutual

/-- Reads a value that may nest `room` more arrays and objects. -/
def readValue : Nat → Nat → List Char → Option (Tree × List Char)
  | 0, _, _ => none
  | fuel + 1, room, cs =>
    match skipSpace cs with
    | 'n' :: 'u' :: 'l' :: 'l' :: rest => some (null, rest)
    | 't' :: 'r' :: 'u' :: 'e' :: rest => some (bool true, rest)
    | 'f' :: 'a' :: 'l' :: 's' :: 'e' :: rest => some (bool false, rest)
    | '"' :: rest =>
      match readString rest with
      | some (some s, rest) => some (string s, rest)
      | some (none, rest) => some (hole, rest)
      | none => none
    | '[' :: rest =>
      match skipSpace rest with
      | ']' :: rest => some (within room (array []), rest)
      | rest =>
        match readItems fuel (room - 1) rest with
        | some (items, rest) => some (within room (array items), rest)
        | none => none
    | '{' :: rest =>
      match skipSpace rest with
      | '}' :: rest => some (within room (object []), rest)
      | rest =>
        match readMembers fuel (room - 1) rest with
        | some (some members, rest) => some (within room (object members), rest)
        | some (none, rest) => some (hole, rest)
        | none => none
    | cs =>
      match readNumber cs with
      | some (some n, rest) => some (number n, rest)
      | some (none, rest) => some (hole, rest)
      | none => none

/-- Reads the items of an array, the first of which starts here, and its closing bracket. -/
def readItems : Nat → Nat → List Char → Option (List Tree × List Char)
  | 0, _, _ => none
  | fuel + 1, room, cs =>
    match readValue fuel room cs with
    | none => none
    | some (item, rest) =>
      match skipSpace rest with
      | ']' :: rest => some ([item], rest)
      | ',' :: rest =>
        match readItems fuel room rest with
        | some (items, rest) => some (item :: items, rest)
        | none => none
      | _ => none

/-- Reads the members of an object, the first of which starts here, and its closing brace.  If one
of the keys is no text, there are no members. -/
def readMembers : Nat → Nat → List Char → Option (Option (List (String × Tree)) × List Char)
  | 0, _, _ => none
  | fuel + 1, room, cs =>
    match skipSpace cs with
    | '"' :: rest =>
      match readString rest with
      | none => none
      | some (key, rest) =>
        match skipSpace rest with
        | ':' :: rest =>
          match readValue fuel room rest with
          | none => none
          | some (value, rest) =>
            match skipSpace rest with
            | '}' :: rest => some (key.map fun key => [(key, value)], rest)
            | ',' :: rest =>
              match readMembers fuel room rest with
              | none => none
              | some (members, rest) =>
                some ((do some ((← key, value) :: (← members))), rest)
            | _ => none
        | _ => none
    | _ => none

end

/-- Reads the first value of a text.  Every call but the first of two nested ones takes a character,
so twice the length is enough fuel. -/
def read? (cs : List Char) : Option (Tree × List Char) :=
  readValue (2 * cs.length + 2) maxNesting cs

/-- Reads a text that holds one value and nothing else. -/
def ofText? (s : String) : Option Tree :=
  match read? s.toList with
  | some (tree, rest) => if (skipSpace rest).isEmpty then some tree else none
  | none => none

end Tree
end Courier
