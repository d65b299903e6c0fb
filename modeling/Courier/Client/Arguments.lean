/-
The command line of the client.

Options have long names; two have a letter as well, and letters may share a word.  A value stands in
the next word, or after an equals sign.  No option is given twice.
-/
import Courier.Files
import Courier.Text.Blank

namespace Courier

structure Arguments where
  /-- The file with the settings. -/
  settingsPath : Option Path := none
  verbose : Bool := false
  server : Option String := none
  identity : Option String := none
  place : Option String := none
  password : Option String := none
  deriving DecidableEq, Repr, Inhabited

namespace Arguments

/-- Gives a value to an option that has none yet. -/
def set? (arguments : Arguments) (name value : String) : Option Arguments :=
  match name with
  | "config" =>
    if arguments.settingsPath.isSome ∨ value.isEmpty then none
    else some { arguments with settingsPath := some value }
  | "server" =>
    if arguments.server.isSome then none else some { arguments with server := some value }
  | "identity" =>
    if arguments.identity.isSome then none else some { arguments with identity := some value }
  | "instance" =>
    if arguments.place.isSome then none else some { arguments with place := some value }
  | "password" =>
    if arguments.password.isSome then none else some { arguments with password := some value }
  | _ => none

def setVerbose? (arguments : Arguments) : Option Arguments :=
  if arguments.verbose then none else some { arguments with verbose := true }

/-- Whether a word may be a value: it does not look like an option. -/
def isValue (word : String) : Bool :=
  word = "-" || word.toList.head? != some '-'

/-- Reads the letters of a word, and whether the last of them takes the next word as its value. -/
def readLetters (arguments : Arguments) : List Char → Option (Arguments × Bool)
  | [] => some (arguments, false)
  | 'v' :: letters => do (← arguments.setVerbose?).readLetters letters
  | ['c'] => some (arguments, true)
  | 'c' :: '=' :: value => (arguments.set? "config" (String.ofList value)).map (·, false)
  | 'c' :: value => (arguments.set? "config" (String.ofList value)).map (·, false)
  | _ => none

/-- Reads the words of a command line after some arguments. -/
def readWords (arguments : Arguments) : List String → Option Arguments
  | [] => some arguments
  | [word] =>
    match word.toList with
    | ['-', '-'] => some arguments
    | '-' :: '-' :: name =>
      match Text.cut '=' name with
      | (name, some value) => arguments.set? (String.ofList name) (String.ofList value)
      | (name, none) => if String.ofList name = "verbose" then arguments.setVerbose? else none
    | '-' :: letter :: letters =>
      match arguments.readLetters (letter :: letters) with
      | some (arguments, false) => some arguments
      | _ => none
    | _ => none
  | word :: next :: rest =>
    match word.toList with
    | '-' :: '-' :: name =>
      match Text.cut '=' name with
      | (name, some value) => do
        (← arguments.set? (String.ofList name) (String.ofList value)).readWords (next :: rest)
      | (name, none) =>
        if String.ofList name = "verbose" then do (← arguments.setVerbose?).readWords (next :: rest)
        else if isValue next then do
          (← arguments.set? (String.ofList name) next).readWords rest
        else none
    | '-' :: letter :: letters =>
      match arguments.readLetters (letter :: letters) with
      | none => none
      | some (arguments, false) => arguments.readWords (next :: rest)
      | some (arguments, true) =>
        if isValue next then do (← arguments.set? "config" next).readWords rest else none
    | _ => none

/-- Reads a command line, if it can be understood. -/
def ofWords? (words : List String) : Option Arguments :=
  ({} : Arguments).readWords words

end Arguments
end Courier
