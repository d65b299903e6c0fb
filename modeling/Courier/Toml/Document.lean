/-
TOML documents.

The statements of a text build up one table.  A pair goes into the table that the last header opened,
or into the outermost table before any header.  A header of one bracket opens a table that is new,
or that was only on the paths of other headers; a header of two brackets adds a table to several.
-/
import Courier.Toml.Reader

namespace Courier
namespace Toml

/-- A document as far as it has been read: its outermost table, and the path to the table that the
last header opened. -/
structure Document where
  root : Item := .table none .header []
  opened : List Key := []
  deriving Inhabited

namespace Document

/-- Opens a table with a name inside another one.  If the table was on the path of another header
before, it moves to the end. -/
def openTable (key : Key) (span : Span) : Item → Option Item
  | .table outer origin entries =>
    let start (inner : List (Key × Item)) : Key × Item := (key, .table (some span) .header inner)
    match Item.get? key.text entries with
    | none => some (.table outer origin (entries ++ [start []]))
    | some (.table _ .path inner) =>
      some (.table outer origin (entries.filter (·.1.text ≠ key.text) ++ [start inner]))
    | some _ => none
  | _ => none

/-- Adds a table to the several ones with a name inside another one. -/
def addTable (key : Key) (span : Span) : Item → Option Item
  | .table outer origin entries =>
    (change key (fun
      | none => some (.tables [.table (some span) .header []])
      | some (.tables items) => some (.tables (items ++ [.table (some span) .header []]))
      | some _ => none) entries).map (.table outer origin)
  | _ => none

/-- Lets a table that a header opened reach to the end of an item. -/
def extend (value : Item) : Item → Item
  | .table (some span) origin entries =>
    match value.span? with
    | some last => .table (some ⟨span.before, last.after⟩) origin entries
    | none => .table (some span) origin entries
  | item => item

/-- Takes in a statement. -/
def add? (document : Document) : Statement → Option Document
  | .header several path key span => do
    let openIn := if several then addTable key span else openTable key span
    some { root := ← changeAt .path openIn path document.root, opened := path ++ [key] }
  | .pair path key value => do
    let root ← changeAt .path (fun table => addPair path key value (extend value table))
      document.opened document.root
    some { document with root }

end Document

/-- The mark that may stand before a text. -/
def byteOrderMark : Char := '\ufeff'

/-- Reads a text: its outermost table. -/
def read? (s : String) : Option Item := do
  let cs := s.toList
  let cs := if cs.head? = some byteOrderMark then cs.tail else cs
  let statements ← readStatements cs.length cs
  let document ← statements.foldlM Document.add? {}
  some document.root

/-! ## Writing

A document of plain tables: each table has its header and its pairs, one to a line, and a blank line
stands between two tables. -/

/-- A pair on its line, with the text of its value. -/
def pairLine (key : String) (value : List Char) : List Char :=
  key.toList ++ [' ', '=', ' '] ++ value ++ ['\n']

def headerLine (name : String) : List Char :=
  '[' :: name.toList ++ [']', '\n']

/-- A table: its header, and its pairs with the texts of their values. -/
def tableText (name : String) (pairs : List (String × List Char)) : List Char :=
  headerLine name ++ pairs.flatMap fun (key, value) => pairLine key value

def tablesText (tables : List (String × List (String × List Char))) : List Char :=
  (tables.map fun (name, pairs) => tableText name pairs).intersperse ['\n'] |>.flatten

def booleanText (b : Bool) : List Char :=
  if b then ['t', 'r', 'u', 'e'] else ['f', 'a', 'l', 's', 'e']

end Toml
end Courier
