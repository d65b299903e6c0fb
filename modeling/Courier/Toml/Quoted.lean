/-
Strings in TOML.

A string stands in quotes or in apostrophes, one of them or three on each side.  Between quotes a
backslash escapes; between apostrophes everything stands for itself.  Three of either let the string
go over several lines, and a line break right after the opening is not part of it.

`quoted` writes a string in the first style, of those that need no escape, that can hold it, and
escapes only what none of them can hold.  `readString` reads all four styles.
-/
import Courier.Text.Hex

namespace Courier
namespace Toml

/-- Whether a character may stand in a line of text: tab, and everything from the space on but the
delete character. -/
def isText (c : Char) : Bool :=
  c = '\t' || (0x20 ≤ c.toNat && c.toNat != 0x7F)

/-! ## Writing -/

/-- The length of the longest run of a character in a text, `run` of them standing before it. -/
def longestRun (mark : Char) (run : Nat) : List Char → Nat
  | [] => run
  | c :: cs => if c = mark then longestRun mark (run + 1) cs else max run (longestRun mark 0 cs)

/-- How a string is written. -/
inductive Style where
  | basic
  | literal
  | longBasic
  | longLiteral
  deriving DecidableEq, Repr

/-- The marks around a string. -/
def Style.mark : Style → List Char
  | basic => ['"']
  | literal => ['\'']
  | longBasic => ['"', '"', '"']
  | longLiteral => ['\'', '\'', '\'']

def Style.isLong : Style → Bool
  | longBasic | longLiteral => true
  | _ => false

/-- The style for a string: the first that can hold it as it is, or else one with escapes. -/
def styleOf (cs : List Char) : Style :=
  let bare := cs.all fun c => isText c || c = '\n'
  let isLine := '\n' ∉ cs
  if bare ∧ isLine ∧ '\\' ∉ cs ∧ '"' ∉ cs then .basic
  else if bare ∧ isLine ∧ '\'' ∉ cs then .literal
  else if bare ∧ '\\' ∉ cs ∧ longestRun '"' 0 cs ≤ 2 then .longBasic
  else if bare ∧ longestRun '\'' 0 cs ≤ 2 then .longLiteral
  else if isLine then .basic
  else .longBasic

/-- A character between quotes, but for the quote itself. -/
def escaped (long : Bool) (c : Char) : List Char :=
  if c = '\\' then ['\\', '\\']
  else if c = '\x08' then ['\\', 'b']
  else if c = '\t' then ['\\', 't']
  else if c = '\n' then if long then ['\n'] else ['\\', 'n']
  else if c = '\x0c' then ['\\', 'f']
  else if c = '\r' then ['\\', 'r']
  else if c.toNat < 0x20 ∨ c.toNat = 0x7F then
    ['\\', 'u', '0', '0', upperHexDigit (c.toNat / 16), upperHexDigit (c.toNat % 16)]
  else [c]

/-- A text between quotes, `run` quotes standing right before it.  Between single quotes every quote
is escaped; between three, every third of a run. -/
def escapedText (long : Bool) (run : Nat) : List Char → List Char
  | [] => []
  | c :: cs =>
    if c = '"' then
      if long ∧ run < 2 then '"' :: escapedText long (run + 1) cs
      else '\\' :: '"' :: escapedText long 0 cs
    else escaped long c ++ escapedText long 0 cs

/-- A string with its marks.  A long one starts on a line of its own if it has several lines. -/
def quoted (s : String) : List Char :=
  let cs := s.toList
  let style := styleOf cs
  let opening := if style.isLong ∧ '\n' ∈ cs then style.mark ++ ['\n'] else style.mark
  let body :=
    match style with
    | .basic => escapedText false 0 cs
    | .longBasic => escapedText true 0 cs
    | .literal | .longLiteral => cs
  opening ++ body ++ style.mark

/-! ## Reading -/

/-- The character that a letter after a backslash stands for. -/
def escape? (c : Char) : Option Char :=
  if c = '"' ∨ c = '\\' then some c
  else if c = 'b' then some '\x08'
  else if c = 't' then some '\t'
  else if c = 'n' then some '\n'
  else if c = 'f' then some '\x0c'
  else if c = 'r' then some '\r'
  else none

/-- The character with the code point that hexadecimal digits stand for. -/
def ofHex? (digits : List Char) : Option Char :=
  match hexValues? digits with
  | none => none
  | some n => if h : n.isValidChar then some (Char.ofNatAux n h) else none

/-- Puts characters before what has been read. -/
def before {α : Type} (cs : List Char) : Option (List Char × α) → Option (List Char × α) :=
  Option.map fun (read, rest) => (cs ++ read, rest)

/-- Puts a character, if there is one, before what has been read. -/
def beforeChar? {α : Type} (c : Option Char) (read : Option (List Char × α)) :
    Option (List Char × α) :=
  match c with
  | none => none
  | some c => before [c] read

/-- Reads a string after its opening quote. -/
def readBasic : List Char → Option (List Char × List Char)
  | [] => none
  | '"' :: rest => some ([], rest)
  | '\\' :: 'u' :: a :: b :: c :: d :: rest => beforeChar? (ofHex? [a, b, c, d]) (readBasic rest)
  | '\\' :: 'U' :: a :: b :: c :: d :: e :: f :: g :: h :: rest =>
    beforeChar? (ofHex? [a, b, c, d, e, f, g, h]) (readBasic rest)
  | '\\' :: c :: rest => beforeChar? (escape? c) (readBasic rest)
  | c :: rest => if isText c ∧ c ≠ '\\' then before [c] (readBasic rest) else none

/-- Reads a string after its opening apostrophe. -/
def readLiteral : List Char → Option (List Char × List Char)
  | [] => none
  | '\'' :: rest => some ([], rest)
  | c :: rest => if isText c then before [c] (readLiteral rest) else none

/-- Ends a long string after three marks: of up to five marks, the first two belong to it. -/
def closeLong (mark : Char) : List Char → List Char × List Char
  | c :: d :: rest =>
    if c = mark then if d = mark then ([mark, mark], rest) else ([mark], d :: rest)
    else ([], c :: d :: rest)
  | [c] => if c = mark then ([mark], []) else ([], [c])
  | [] => ([], [])

/-- Whether a text begins with blanks and a line break, or with a line break. -/
def breaksLine : List Char → Bool
  | '\n' :: _ => true
  | '\r' :: '\n' :: _ => true
  | c :: rest => (c = ' ' || c = '\t') && breaksLine rest
  | [] => false

/-- Reads a long string after its three opening quotes.  A backslash at the end of a line takes the
line break with it, and, as long as `folding` goes on, the blanks and line breaks that follow. -/
def readLongBasic (folding : Bool) : List Char → Option (List Char × List Char)
  | [] => none
  | '"' :: '"' :: '"' :: rest => some (closeLong '"' rest)
  | '\r' :: '\n' :: rest =>
    if folding then readLongBasic true rest else before ['\n'] (readLongBasic false rest)
  | '\\' :: 'u' :: a :: b :: c :: d :: rest =>
    beforeChar? (ofHex? [a, b, c, d]) (readLongBasic false rest)
  | '\\' :: 'U' :: a :: b :: c :: d :: e :: f :: g :: h :: rest =>
    beforeChar? (ofHex? [a, b, c, d, e, f, g, h]) (readLongBasic false rest)
  | '\\' :: c :: rest =>
    if breaksLine (c :: rest) then readLongBasic true (c :: rest)
    else beforeChar? (escape? c) (readLongBasic false rest)
  | c :: rest =>
    if folding ∧ (c = ' ' ∨ c = '\t' ∨ c = '\n') then readLongBasic true rest
    else if (isText c ∨ c = '\n') ∧ c ≠ '\\' then before [c] (readLongBasic false rest)
    else none

/-- Reads a long string after its three opening apostrophes. -/
def readLongLiteral : List Char → Option (List Char × List Char)
  | [] => none
  | '\'' :: '\'' :: '\'' :: rest => some (closeLong '\'' rest)
  | '\r' :: '\n' :: rest => before ['\n'] (readLongLiteral rest)
  | c :: rest => if isText c ∨ c = '\n' then before [c] (readLongLiteral rest) else none

/-- Drops a line break, if there is one. -/
def dropBreak : List Char → List Char
  | '\n' :: rest => rest
  | '\r' :: '\n' :: rest => rest
  | cs => cs

/-- Reads a string with its marks; `none` if there is none here. -/
def readString : List Char → Option (List Char × List Char)
  | '"' :: '"' :: '"' :: rest => readLongBasic false (dropBreak rest)
  | '\'' :: '\'' :: '\'' :: rest => readLongLiteral (dropBreak rest)
  | '"' :: rest => readBasic rest
  | '\'' :: rest => readLiteral rest
  | _ => none

end Toml
end Courier
