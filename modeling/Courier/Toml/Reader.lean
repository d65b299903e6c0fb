/-
The grammar of TOML.

A text is a sequence of statements: headers, which open tables, and pairs of a key and a value.
Keys are words, or strings on one line, joined by points; values are scalars, arrays and tables in
braces.  Neither may nest too deeply.
-/
import Courier.Toml.Quoted
import Courier.Toml.Scalar

namespace Courier
namespace Toml

/-- How many arrays and tables in braces may contain each other, and how many parts a key may
have. -/
def maxNesting : Nat := 79

/-! ## Blanks and comments -/

/-- Drops blanks. -/
def skipBlanks : List Char → List Char
  | [] => []
  | c :: cs => if c = ' ' ∨ c = '\t' then skipBlanks cs else c :: cs

/-- Passes over a line break. -/
def skipBreak : List Char → Option (List Char)
  | '\n' :: rest => some rest
  | '\r' :: '\n' :: rest => some rest
  | _ => none

/-- Drops a comment, if there is one. -/
def skipComment : List Char → List Char
  | '#' :: rest => rest.dropWhile isText
  | cs => cs

/-- Passes over the end of a line: blanks, a comment, and a line break or the end of the text. -/
def skipLineEnd (cs : List Char) : Option (List Char) :=
  match skipComment (skipBlanks cs) with
  | [] => some []
  | cs => skipBreak cs

/-- Drops blanks, line breaks and comments, where a comment ends with its line.  Every step takes a
character, so `fuel` may be the length of the text. -/
def skipLines : Nat → List Char → List Char
  | 0, cs => cs
  | fuel + 1, cs =>
    match cs with
    | ' ' :: rest | '\t' :: rest | '\n' :: rest | '\r' :: '\n' :: rest => skipLines fuel rest
    | '#' :: rest =>
      match skipBreak (rest.dropWhile isText) with
      | some rest => skipLines fuel rest
      | none => '#' :: rest
    | cs => cs

/-- Drops all blanks, line breaks and comments. -/
def skipSpace (cs : List Char) : List Char :=
  skipLines cs.length cs

/-! ## Keys -/

/-- Whether a character may stand in a word. -/
def isBare (c : Char) : Bool :=
  c.isAlphanum || c = '-' || c = '_'

/-- Reads one part of a key. -/
def readPart (cs : List Char) : Option (Key × List Char) :=
  let key (text rest : List Char) : Key × List Char :=
    (⟨String.ofList text, .between cs rest⟩, rest)
  match cs with
  | '"' :: rest => (readBasic rest).map fun (text, rest) => key text rest
  | '\'' :: rest => (readLiteral rest).map fun (text, rest) => key text rest
  | cs =>
    let word := cs.takeWhile isBare
    if word.isEmpty then none else some (key word (cs.dropWhile isBare))

/-- Reads a key: the parts before the last, and the last.  `fuel` bounds the number of parts. -/
def readKey : Nat → List Char → Option (List Key × Key × List Char)
  | 0, _ => none
  | fuel + 1, cs =>
    match readPart (skipBlanks cs) with
    | none => none
    | some (part, rest) =>
      match skipBlanks rest with
      | '.' :: rest =>
        match readKey fuel rest with
        | none => none
        | some (parts, last, rest) => some (part :: parts, last, rest)
      | rest => some ([], part, rest)

/-! ## Tables -/

/-- Changes the entry of a key, or adds one at the end. -/
def change (key : Key) (f : Option Item → Option Item) :
    List (Key × Item) → Option (List (Key × Item))
  | [] => (f none).map fun item => [(key, item)]
  | (k, item) :: entries =>
    if k.text = key.text then (f (some item)).map fun item => (k, item) :: entries
    else (change key f entries).map ((k, item) :: ·)

/-- Changes the table at the end of a path that starts in a table.  Tables that are missing on the
way are put there, with an origin.  The way goes through the last one of several tables; a dotted
key does not lead into tables that a header or braces make. -/
def changeAt (origin : Origin) (f : Item → Option Item) : List Key → Item → Option Item
  | [], item => f item
  | key :: path, .table span o entries =>
    (change key (fun
      | none => changeAt origin f path (.table none origin [])
      | some (.table span o entries) =>
        if o = .braces ∨ (o = .header ∧ origin = .dotted) then none
        else changeAt origin f path (.table span o entries)
      | some (.tables items) =>
        match items.getLast? with
        | none => none
        | some last =>
          (changeAt origin f path last).map fun last => .tables (items.dropLast ++ [last])
      | some _ => none) entries).map (.table span o)
  | _ :: _, _ => none

/-- Adds a pair to the table that a dotted key leads to.  The last part of the key has to be new;
after a point it does not go into a table that is not made of dotted keys. -/
def addPair (path : List Key) (key : Key) (value : Item) (table : Item) : Option Item :=
  changeAt .dotted (fun
    | .table span origin entries =>
      if decide (origin = .dotted) = path.isEmpty then none
      else
        match Item.get? key.text entries with
        | none => some (.table span origin (entries ++ [(key, value)]))
        | some _ => none
    | _ => none) path table

/-! ## Values -/

mutual

/-- Reads a value that may nest `room` more arrays and tables. -/
def readValue : Nat → Nat → List Char → Option (Item × List Char)
  | 0, _, _ => none
  | fuel + 1, room, cs =>
    let scalar (value : Scalar) (rest : List Char) : Item × List Char :=
      (.scalar (.between cs rest) value, rest)
    match cs with
    | '[' :: rest =>
      if room = 0 then none
      else
        match readItems fuel (room - 1) rest with
        | none => none
        | some (items, rest) => some (.array (.between cs rest) items, rest)
    | '{' :: rest =>
      if room = 0 then none
      else
        match skipBlanks rest with
        | '}' :: rest => some (.table (some (.between cs rest)) .braces [], rest)
        | _ =>
          match readPairs fuel (room - 1) (.table none .braces []) rest with
          | some (.table _ origin entries, rest) =>
            some (.table (some (.between cs rest)) origin entries, rest)
          | _ => none
    | 't' :: 'r' :: 'u' :: 'e' :: rest => some (scalar (.boolean true) rest)
    | 'f' :: 'a' :: 'l' :: 's' :: 'e' :: rest => some (scalar (.boolean false) rest)
    | cs =>
      match readString cs with
      | some (text, rest) => some (scalar (.string (String.ofList text)) rest)
      | none =>
        match skipMoment cs with
        | some rest => some (scalar .moment rest)
        | none => (readNumber cs).map fun (value, rest) => scalar value rest

/-- Reads the items of an array and its closing bracket.  A comma may follow the last item. -/
def readItems : Nat → Nat → List Char → Option (List Item × List Char)
  | 0, _, _ => none
  | fuel + 1, room, cs =>
    match skipSpace cs with
    | ']' :: rest => some ([], rest)
    | cs =>
      match readValue fuel room cs with
      | none => none
      | some (item, rest) =>
        match skipSpace rest with
        | ']' :: rest => some ([item], rest)
        | ',' :: rest =>
          match readItems fuel room rest with
          | none => none
          | some (items, rest) => some (item :: items, rest)
        | _ => none

/-- Reads the pairs of a table in braces, at least one, and its closing brace, into a table. -/
def readPairs : Nat → Nat → Item → List Char → Option (Item × List Char)
  | 0, _, _, _ => none
  | fuel + 1, room, table, cs =>
    match readKey maxNesting cs with
    | some (path, key, '=' :: rest) =>
      match readValue fuel room (skipBlanks rest) with
      | none => none
      | some (value, rest) =>
        match addPair path key value table with
        | none => none
        | some table =>
          match skipBlanks rest with
          | '}' :: rest => some (table, rest)
          | ',' :: rest => readPairs fuel room table rest
          | _ => none
    | _ => none

end

/-! ## Statements -/

inductive Statement where
  /-- A header: whether it has two brackets, its key, and where it stands. -/
  | header (several : Bool) (path : List Key) (key : Key) (span : Span)
  | pair (path : List Key) (key : Key) (value : Item)
  deriving Repr

/-- Reads a header, after its brackets, up to the end of its line. -/
def readHeader (start : List Char) (several : Bool) (cs : List Char) :
    Option (Statement × List Char) :=
  match readKey maxNesting cs with
  | none => none
  | some (path, key, rest) =>
    let closed :=
      match several, rest with
      | false, ']' :: rest => some rest
      | true, ']' :: ']' :: rest => some rest
      | _, _ => none
    match closed with
    | none => none
    | some rest =>
      (skipLineEnd rest).map fun after =>
        (.header several path key (.between start rest), after)

/-- Reads a pair, up to the end of its line.  Every call of two nested ones takes a character, so
twice the length is enough fuel for the value. -/
def readPair (cs : List Char) : Option (Statement × List Char) :=
  match readKey maxNesting cs with
  | some (path, key, '=' :: rest) =>
    match readValue (2 * rest.length + 2) maxNesting (skipBlanks rest) with
    | none => none
    | some (value, rest) => (skipLineEnd rest).map fun after => (.pair path key value, after)
  | _ => none

/-- Reads a statement that begins here. -/
def readStatement : List Char → Option (Statement × List Char)
  | '[' :: '[' :: rest => readHeader ('[' :: '[' :: rest) true rest
  | '[' :: rest => readHeader ('[' :: rest) false rest
  | cs => readPair cs

/-- Reads all statements.  Every step takes a character, so `fuel` may be the length of the text. -/
def readStatements : Nat → List Char → Option (List Statement)
  | 0, cs => if cs.isEmpty then some [] else none
  | fuel + 1, cs =>
    match skipBlanks cs with
    | [] => some []
    | '#' :: rest => (skipLineEnd ('#' :: rest)).bind (readStatements fuel)
    | '\n' :: rest | '\r' :: '\n' :: rest => readStatements fuel rest
    | cs =>
      match readStatement cs with
      | none => none
      | some (statement, rest) => (readStatements fuel rest).map (statement :: ·)

end Toml
end Courier
