/-
Files in folders, and the paths to them.

A path is a text.  What stands between slashes are its parts; empty parts and single points lead
nowhere, two points lead back, and the others are names.  A path that ends in a slash is a path to a
folder.  Paths start at the outermost folder, and everything on the way has to be a folder.
-/

namespace Courier

/-- A path to a file or folder. -/
abbrev Path := String

namespace Path

/-- What stands between slashes. -/
def split : List Char → List (List Char)
  | [] => [[]]
  | c :: cs =>
    if c = '/' then [] :: split cs
    else
      match split cs with
      | [] => [[c]]
      | part :: parts => (c :: part) :: parts

/-- The parts of a path as they are written. -/
def parts (path : Path) : List String :=
  (split path.toList).map String.ofList

/-- Whether a part leads somewhere. -/
def leads (part : String) : Bool :=
  part ≠ "" && part ≠ "."

/-- The parts that lead somewhere. -/
def names (path : Path) : List String :=
  path.parts.filter leads

/-- Takes a step. -/
def walk (steps : List String) (name : String) : List String :=
  if name = ".." then steps.dropLast else steps ++ [name]

/-- The steps from the outermost folder, if everything on the way is a folder. -/
def steps (path : Path) : List String :=
  path.names.foldl walk []

/-- Whether a path has no place, since no name has a null character. -/
def hasNull (path : Path) : Bool :=
  path.toList.contains '\x00'

/-- Whether a path can only lead to a folder. -/
def isToFolder (path : Path) : Bool :=
  match path.parts.getLast? with
  | some part => part = "" || part = "." || part = ".."
  | none => true

def isAbsolute (path : Path) : Bool :=
  path.toList.head? = some '/'

/-- A path inside a folder. -/
def join (folder : Path) (name : Path) : Path :=
  if isAbsolute name then name
  else if folder.isEmpty ∨ folder.toList.getLast? = some '/' then folder ++ name
  else folder ++ "/" ++ name

/-- Drops slashes and single points from the end of a path that is written backwards. -/
def dropTrailing : List Char → List Char
  | ['/'] => ['/']
  | '/' :: rest => dropTrailing rest
  | '.' :: '/' :: rest => dropTrailing ('/' :: rest)
  | rest => rest

/-- The folder that a path leads into, as the path says it. -/
def parent? (path : Path) : Option Path :=
  let backwards := dropTrailing path.toList.reverse
  if backwards = [] ∨ backwards = ['/'] then none
  else some (String.ofList (dropTrailing (backwards.dropWhile (· ≠ '/'))).reverse)

end Path

/-- A file, or a folder with what is in it. -/
inductive Files where
  | file (bytes : ByteArray)
  | folder (entries : List (String × Files))

namespace Files

instance : Inhabited Files := ⟨folder []⟩

/-- Sets an entry of a folder. -/
def put (name : String) (files : Files) : List (String × Files) → List (String × Files)
  | [] => [(name, files)]
  | (n, f) :: entries =>
    if n = name then (n, files) :: entries else (n, f) :: put name files entries

/-- What is at the end of some steps. -/
def at? : List String → Files → Option Files
  | [], files => some files
  | name :: steps, folder entries => (entries.lookup name).bind (at? steps)
  | _ :: _, file _ => none

def isFolder : Option Files → Bool
  | some (folder _) => true
  | _ => false

/-- The steps to where names lead from a folder. -/
def follow (files : Files) (here : List String) : List String → Option (List String)
  | [] => some here
  | name :: names =>
    if isFolder (files.at? here) then files.follow (Path.walk here name) names else none

/-- The steps to where a path leads, whether or not something is there. -/
def locate? (path : Path) (files : Files) : Option (List String) :=
  if path.isEmpty ∨ path.hasNull then none else files.follow [] path.names

/-- Makes a folder at the end of some steps, and the folders on the way, unless a file is there. -/
def makeFolder : List String → Files → Option Files
  | [], folder entries => some (folder entries)
  | name :: steps, folder entries =>
    (makeFolder steps ((entries.lookup name).getD (folder []))).map fun files =>
      folder (put name files entries)
  | _, file _ => none

/-- Makes every folder that names lead to from one that is there, until a file is in the way.  Says
whether it came to the end, and what there is then. -/
def makeWay (here : List String) : List String → Files → Bool × Files
  | [], files => (true, files)
  | name :: names, files =>
    match files.makeFolder (Path.walk here name) with
    | some files => files.makeWay (Path.walk here name) names
    | none => (false, files)

/-- Writes a file at the end of some steps, into a folder that is there. -/
def write (bytes : ByteArray) : List String → Files → Option Files
  | [name], folder entries =>
    match entries.lookup name with
    | some (folder _) => none
    | _ => some (folder (put name (file bytes) entries))
  | name :: steps, folder entries =>
    match entries.lookup name with
    | some files => (write bytes steps files).map fun files => folder (put name files entries)
    | none => none
  | _, _ => none

/-- What is at a path. -/
def find? (path : Path) (files : Files) : Option Files :=
  match (files.locate? path).bind fun steps => files.at? steps with
  | some (file bytes) => if path.isToFolder then none else some (file bytes)
  | found => found

theorem lookup_put_self (name : String) (files : Files) (entries : List (String × Files)) :
    (put name files entries).lookup name = some files := by
  induction entries with
  | nil => simp [put]
  | cons entry entries ih =>
    obtain ⟨n, f⟩ := entry
    by_cases h : n = name
    · simp [put, h]
    · have hne : (name == n) = false := beq_eq_false_iff_ne.mpr (Ne.symm h)
      simp [put, h, List.lookup_cons, hne, ih]

theorem lookup_put_of_ne {name other : String} (h : other ≠ name) (files : Files)
    (entries : List (String × Files)) :
    (put name files entries).lookup other = entries.lookup other := by
  have hne : (other == name) = false := beq_eq_false_iff_ne.mpr h
  induction entries with
  | nil => simp [put, List.lookup_cons, hne]
  | cons entry entries ih =>
    obtain ⟨n, f⟩ := entry
    by_cases hn : n = name
    · subst hn
      simp [put, List.lookup_cons, hne]
    · simp [put, hn, List.lookup_cons, ih]

end Files
end Courier
