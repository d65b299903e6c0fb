/-
Settings: what a user chooses.

`ClientSettings` says whom to connect to and as whom, `ChannelSettings` what the channel does by
itself.  Intervals are whole milliseconds; zero turns off what an interval controls.
-/
import Courier.Envelope.Basic
import Courier.Text.Shown

namespace Courier

open Wire

/-! ## Durations -/

/-- A length of time. -/
structure Duration where
  nanoseconds : Nat
  deriving DecidableEq, Repr, Inhabited

namespace Duration

def nanosecondsPerSecond : Nat := 1000000000

def nanosecondsPerMillisecond : Nat := 1000000

def ofParts (seconds nanoseconds : Nat) : Duration :=
  ⟨seconds * nanosecondsPerSecond + nanoseconds⟩

def ofMilliseconds (n : Nat) : Duration :=
  ⟨n * nanosecondsPerMillisecond⟩

/-- The whole milliseconds of a duration; the rest is dropped. -/
def milliseconds (d : Duration) : Nat :=
  d.nanoseconds / nanosecondsPerMillisecond

/-- The whole seconds of a duration, and the nanoseconds left over. -/
def parts (d : Duration) : Nat × Nat :=
  (d.nanoseconds / nanosecondsPerSecond, d.nanoseconds % nanosecondsPerSecond)

theorem milliseconds_ofMilliseconds (n : Nat) : (ofMilliseconds n).milliseconds = n := by
  simp [ofMilliseconds, milliseconds, nanosecondsPerMillisecond]

end Duration

/-! ## Errors -/

/-- What is wrong with settings. -/
inductive SettingsError where
  | emptyServerAddress
  | invalidIdentity (text : String)
  | invalidLogLevel (text : String)
  | invalidPingIntervals (interval disconnection : UInt64)
  deriving DecidableEq, Repr

/-- The text shown to people. -/
def SettingsError.message : SettingsError → String
  | emptyServerAddress => "server_address must not be empty"
  | invalidIdentity text =>
    "identity must be in the name@domain form, got " ++ Text.shown text
  | invalidLogLevel text =>
    "log_level must be one of: trace, debug, info, warn, error; got " ++ text
  | invalidPingIntervals interval disconnection =>
    "ping_disconnection_interval_ms (" ++ toString disconnection.toNat ++
      ") must be greater than ping_interval_ms (" ++ toString interval.toNat ++ ")"

/-! ## Channels -/

/-- What a channel does by itself. -/
structure ChannelSettings where
  /-- Complete the addresses of received messages from those of the session. -/
  fillsAddresses : Bool := false
  /-- Answer pings. -/
  answersPings : Bool := false
  /-- Notify the senders of received messages. -/
  notifiesReceipt : Bool := false
  /-- How often to ping, in milliseconds; zero for never. -/
  pingInterval : UInt64 := 0
  /-- How long a silence closes the transport, in milliseconds; zero for none. -/
  disconnectionInterval : UInt64 := 0
  deriving DecidableEq, Repr, Inhabited

namespace ChannelSettings

/-- Sets how often to ping, in whole milliseconds of 64 bits. -/
def withPingInterval (settings : ChannelSettings) (d : Duration) : ChannelSettings :=
  { settings with pingInterval := UInt64.ofNat d.milliseconds }

/-- Sets how long a silence closes the transport, in whole milliseconds of 64 bits. -/
def withDisconnectionInterval (settings : ChannelSettings) (d : Duration) : ChannelSettings :=
  { settings with disconnectionInterval := UInt64.ofNat d.milliseconds }

/-- How often to ping. -/
def pingPeriod (settings : ChannelSettings) : Duration :=
  .ofMilliseconds settings.pingInterval.toNat

/-- How long a silence closes the transport. -/
def allowedSilence (settings : ChannelSettings) : Duration :=
  .ofMilliseconds settings.disconnectionInterval.toNat

/-- The silence that closes the transport has to be longer than the time between two pings, where
both are on. -/
def validate (settings : ChannelSettings) : Except SettingsError Unit :=
  if 0 < settings.pingInterval ∧ 0 < settings.disconnectionInterval ∧
      settings.disconnectionInterval ≤ settings.pingInterval then
    .error (.invalidPingIntervals settings.pingInterval settings.disconnectionInterval)
  else .ok ()

def fieldNames : List String :=
  ["fill_envelope_recipients", "auto_reply_pings", "auto_notify_receipt", "ping_interval_ms",
    "ping_disconnection_interval_ms"]

instance : Wire ChannelSettings where
  tree settings :=
    .object (field "fill_envelope_recipients" (some settings.fillsAddresses) ++
      field "auto_reply_pings" (some settings.answersPings) ++
      field "auto_notify_receipt" (some settings.notifiesReceipt) ++
      field "ping_interval_ms" (some settings.pingInterval) ++
      field "ping_disconnection_interval_ms" (some settings.disconnectionInterval))
  ofTree? t := do
    let members ← members? fieldNames t
    some {
      fillsAddresses := ← defaulted "fill_envelope_recipients" false members
      answersPings := ← defaulted "auto_reply_pings" false members
      notifiesReceipt := ← defaulted "auto_notify_receipt" false members
      pingInterval := ← defaulted "ping_interval_ms" 0 members
      disconnectionInterval := ← defaulted "ping_disconnection_interval_ms" 0 members }

end ChannelSettings

/-! ## Clients -/

/-- Whom to connect to, and as whom. -/
structure ClientSettings where
  /-- Where the server listens. -/
  serverAddress : String := "127.0.0.1:55321"
  /-- The text of the identity to show. -/
  identity : String := "guest@localhost"
  /-- The place to connect from. -/
  place : String := "default"
  /-- The password of the identity, which is a guest without one. -/
  password : Option String := none
  /-- The compression to prefer, in place of the first one offered. -/
  compression : Option Compression := none
  /-- The encryption to prefer, in place of the first one offered. -/
  encryption : Option Encryption := none
  /-- How much to report. -/
  logLevel : String := "info"
  deriving DecidableEq, Repr, Inhabited

namespace ClientSettings

def fieldNames : List String :=
  ["server_address", "identity", "instance", "password", "compression", "encryption", "log_level"]

instance : Wire ClientSettings where
  tree settings :=
    .object (field "server_address" (some settings.serverAddress) ++
      field "identity" (some settings.identity) ++ field "instance" (some settings.place) ++
      field "password" settings.password ++ field "compression" settings.compression ++
      field "encryption" settings.encryption ++ field "log_level" (some settings.logLevel))
  ofTree? t := do
    let members ← members? fieldNames t
    let default : ClientSettings := {}
    some {
      serverAddress := ← defaulted "server_address" default.serverAddress members
      identity := ← defaulted "identity" default.identity members
      place := ← defaulted "instance" default.place members
      password := ← optional "password" members
      compression := ← optional "compression" members
      encryption := ← optional "encryption" members
      logLevel := ← defaulted "log_level" default.logLevel members }

end ClientSettings

/-! ## All settings -/

/-- The log levels. -/
def logLevels : List String :=
  ["trace", "debug", "info", "warn", "error"]

structure Settings where
  client : ClientSettings := {}
  channel : ChannelSettings := {}
  deriving DecidableEq, Repr, Inhabited

namespace Settings

/-- The identity to show: it has to have a name and a domain. -/
def identity (settings : Settings) : Except SettingsError Identity :=
  match Identity.parse settings.client.identity with
  | .ok identity =>
    if identity.name.isSome && identity.domain.isSome then .ok identity
    else .error (.invalidIdentity settings.client.identity)
  | .error _ => .error (.invalidIdentity settings.client.identity)

/-- Whether a text names a log level, in upper or lower case.  The letters of ASCII are enough to
fold: no other character has a lower-case form that is a letter of one of the levels. -/
def isLogLevel (text : String) : Bool :=
  logLevels.contains (String.ofList (text.toList.map Char.toLower))

/-- Checks the address, the identity, the log level and the intervals, in this order. -/
def validate (settings : Settings) : Except SettingsError Unit := do
  if (Text.trim settings.client.serverAddress).isEmpty then throw .emptyServerAddress
  let _ ← settings.identity
  if !isLogLevel settings.client.logLevel then throw (.invalidLogLevel settings.client.logLevel)
  settings.channel.validate

def fieldNames : List String :=
  ["client", "channel"]

instance : Wire Settings where
  tree settings :=
    .object (field "client" (some settings.client) ++ field "channel" (some settings.channel))
  ofTree? t := do
    let members ← members? fieldNames t
    some {
      client := ← defaulted "client" {} members
      channel := ← defaulted "channel" {} members }

/-! ## Overrides -/

/-- Takes a value from the environment, where it is set and not empty. -/
def overriddenBy (value : String) : Option String → String
  | some text => if text.isEmpty then value else text
  | none => value

/-- The variable that overrides the address of the server. -/
def addressVariable : String := "LIME_SERVER_ADDRESS"

/-- The variable that overrides the log level. -/
def levelVariable : String := "LIME_LOG_LEVEL"

/-- Lets the environment override the address of the server and the log level. -/
def withEnvironment (settings : Settings) (read : String → Option String) : Settings :=
  { settings with
    client := { settings.client with
      serverAddress := overriddenBy settings.client.serverAddress (read addressVariable)
      logLevel := overriddenBy settings.client.logLevel (read levelVariable) } }

end Settings
end Courier
