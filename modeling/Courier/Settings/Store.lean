/-
Settings in files.

A file that is not there stands for the defaults.  Saving makes the folder first, then the text, and
writes the file last, so that what cannot be written leaves the file as it was.
-/
import Courier.Files
import Courier.Settings.Text

namespace Courier

/-- Why a file cannot be read as a text. -/
inductive ReadFailure where
  | isFolder
  | notText
  deriving DecidableEq, Repr

def ReadFailure.message : ReadFailure → String
  | isFolder => "Is a directory (os error 21)"
  | notText => "stream did not contain valid UTF-8"

/-- Why settings cannot be loaded or saved. -/
inductive StoreError where
  | unreadable (path : Path) (failure : ReadFailure)
  | unparsable (path : Path) (error : SettingsTextError)
  /-- The folder for the file cannot be made. -/
  | noFolder (folder : Path)
  /-- The settings have no text. -/
  | textless
  | unwritable (path : Path)
  deriving DecidableEq, Repr

/-- The text shown to people. -/
def StoreError.message : StoreError → String
  | unreadable path _ => "Failed to read config file: " ++ path
  | unparsable path _ => "Failed to parse config file: " ++ path
  | noFolder folder => "Failed to create config directory: " ++ folder
  | textless => "Failed to serialize configuration to TOML"
  | unwritable path => "Failed to write config file: " ++ path

/-- What an error of loading comes from. -/
def StoreError.causes : StoreError → List String
  | unreadable _ failure => [failure.message]
  | unparsable _ error => [error.message]
  | _ => []

namespace Settings

/-- The variable that names the folder for configuration files. -/
def configHomeVariable : String := "XDG_CONFIG_HOME"

/-- The folder for configuration files: the one that is set, if it is set absolutely, or else one in
the folder of the user. -/
def configHome (set : Option Path) (home : Path) : Path :=
  match set with
  | some folder => if folder.isAbsolute then folder else home.join ".config"
  | none => home.join ".config"

/-- Where settings are by default. -/
def defaultPath (set : Option Path) (home : Path) : Path :=
  ((configHome set home).join "lime").join "config.toml"

/-- Loads settings from a file. -/
def load (path : Path) (files : Files) : Except StoreError Settings :=
  match files.find? path with
  | none => .ok {}
  | some (.folder _) => .error (.unreadable path .isFolder)
  | some (.file bytes) =>
    match String.fromUTF8? bytes with
    | none => .error (.unreadable path .notText)
    | some text =>
      match ofText text with
      | .ok settings => .ok settings
      | .error error => .error (.unparsable path error)

/-- Makes the folder that a path leads into. -/
def makeParent (path : Path) (files : Files) : Except StoreError Unit × Files :=
  match path.parent? with
  | none => (.ok (), files)
  | some folder =>
    if folder.hasNull then (.error (.noFolder folder), files)
    else
      match files.makeWay [] folder.names with
      | (true, files) => (.ok (), files)
      | (false, files) => (.error (.noFolder folder), files)

/-- Writes the file at a path, into a folder that is there. -/
def writeText (path : Path) (text : String) (files : Files) : Except StoreError Unit × Files :=
  let target := if path.isToFolder then none else files.locate? path
  match target.bind fun steps => files.write text.toUTF8 steps with
  | some files => (.ok (), files)
  | none => (.error (.unwritable path), files)

/-- Saves settings to a file.  The folders that were made stay, whatever comes after. -/
def save (path : Path) (settings : Settings) (files : Files) : Except StoreError Unit × Files :=
  match makeParent path files with
  | (.error error, files) => (.error error, files)
  | (.ok (), files) =>
    match settings.text? with
    | none => (.error .textless, files)
    | some text => writeText path text files

end Settings
end Courier
