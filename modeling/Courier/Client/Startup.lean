/-
Starting the client: what it is told, and by whom.

Settings come from a file.  The environment overrides some of them and the command line others; then
they are checked.
-/
import Courier.Authentication
import Courier.Channel.Handshake
import Courier.Client.Arguments
import Courier.Client.Report

namespace Courier

/-- What is around the client: variables, files, and the folder of the user. -/
structure Surroundings where
  environment : List (String × String) := []
  files : Files := .folder []
  home : Path := "/"
  deriving Inhabited

namespace Surroundings

def lookUp (surroundings : Surroundings) (name : String) : Option String :=
  surroundings.environment.lookup name

/-- Where the settings are by default. -/
def defaultPath (surroundings : Surroundings) : Path :=
  Settings.defaultPath (surroundings.lookUp Settings.configHomeVariable) surroundings.home

end Surroundings

namespace Settings

/-- Lets the command line override settings. -/
def withArguments (settings : Settings) (arguments : Arguments) : Settings :=
  { settings with
    client := { settings.client with
      serverAddress := arguments.server.getD settings.client.serverAddress
      identity := arguments.identity.getD settings.client.identity
      place := arguments.place.getD settings.client.place
      password := arguments.password <|> settings.client.password } }

/-- The settings to start with, once they are checked. -/
def gather (arguments : Arguments) (surroundings : Surroundings) : Except Report Settings :=
  match load (arguments.settingsPath.getD surroundings.defaultPath) surroundings.files with
  | .error error => .error (.ofStore error)
  | .ok settings =>
    let settings :=
      (settings.withEnvironment surroundings.lookUp).withArguments arguments
    match settings.validate with
    | .error error => .error (.ofSettings error)
    | .ok () => .ok settings

/-- How the client shows who it is: by its password, or as a guest. -/
def authentication (settings : Settings) : Authentication :=
  match settings.client.password with
  | some password => .plain password
  | none => .guest

/-- What the client is after. -/
def establishment (settings : Settings) (identity : Identity) : Establishment where
  identity
  authentication := settings.authentication
  place := some settings.client.place
  compression := settings.client.compression
  encryption := settings.client.encryption

end Settings

/-! ## Addresses of servers -/

/-- Where a server listens: a host, and the number of a service on it. -/
structure Address where
  host : String
  service : UInt16
  deriving DecidableEq, Repr, Inhabited

namespace Address

/-- Reads the number of a service: decimal digits, perhaps after a plus sign. -/
def service? (text : List Char) : Option UInt16 :=
  let digits := if text.head? = some '+' then text.tail else text
  let number := Nat.ofDigitChars 10 digits 0
  if digits.isEmpty ∨ ¬digits.all Char.isDigit ∨ UInt16.size ≤ number then none
  else some (UInt16.ofNat number)

/-- Reads an address: a host and, after the last colon, the number of a service. -/
def parse (text : String) : Except Fault Address :=
  match Text.cut ':' text.toList.reverse with
  | (_, none) => .error (.inputOutput "invalid socket address")
  | (service, some host) =>
    match service? service.reverse with
    | none => .error (.inputOutput "invalid port value")
    | some service => .ok { host := String.ofList host.reverse, service }

end Address

/-- The report of a server that cannot be reached. -/
def Report.unreachable (address : String) (fault : Fault) : Report :=
  ⟨"Failed to connect to " ++ address, [fault.message]⟩

end Courier
