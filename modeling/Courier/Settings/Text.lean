/-
The text of settings, in TOML.

There are two tables, one for the client and one for the channel.  What is not written has its
default, and what is not known is passed over.  A value of the wrong type is pointed at: the message
says what was found and what was expected, and where, in bytes from the start of the text.
-/
import Courier.Settings.Basic
import Courier.Toml.Document

namespace Courier

open Toml (Item Scalar Span Key)

/-! ## Errors -/

/-- In which way a value does not fit. -/
inductive Misfit where
  | type (found expected : String)
  | variant (found : String) (expected : List String)
  | other (detail : String)
  deriving DecidableEq, Repr

def Misfit.message : Misfit → String
  | type found expected => "invalid type: " ++ found ++ ", expected " ++ expected
  | variant found expected =>
    "unknown variant `" ++ found ++ "`, expected " ++
      String.intercalate " or " (expected.map fun name => "`" ++ name ++ "`")
  | other detail => detail

/-- A value that does not fit, and where it stands. -/
structure Problem where
  misfit : Misfit
  span : Option Span
  deriving DecidableEq, Repr

/-- Why a text holds no settings. -/
inductive SettingsTextError where
  /-- The text is not TOML. -/
  | malformed
  /-- A value does not fit; `positions` are where it begins and ends. -/
  | unfit (misfit : Misfit) (positions : Option (Nat × Nat))
  deriving DecidableEq, Repr

/-- The text shown to people. -/
def SettingsTextError.message : SettingsTextError → String
  | malformed => "Invalid TOML configuration: the text is not well-formed"
  | unfit misfit positions =>
    let position :=
      match positions with
      | none => ""
      | some (start, stop) => " (at position " ++ toString start ++ ".." ++ toString stop ++ ")"
    "Invalid TOML configuration: " ++ misfit.message ++ position

/-! ## Reading values -/

/-- What an item is, as messages say it. -/
def shownItem : Item → String
  | .scalar _ (.string s) => "string " ++ Text.shown s
  | .scalar _ (.integer n) => "integer `" ++ toString n ++ "`"
  | .scalar _ (.float x) => "floating point `" ++ String.ofList x.chars ++ "`"
  | .scalar _ (.boolean b) => "boolean `" ++ (if b then "true" else "false") ++ "`"
  | .array .. | .tables _ => "sequence"
  | .table .. | .scalar _ .moment => "map"

def mismatch (item : Item) (expected : String) : Problem :=
  ⟨.type (shownItem item) expected, item.span?⟩

def readText : Item → Except Problem String
  | .scalar _ (.string s) => .ok s
  | item => .error (mismatch item "a string")

def readFlag : Item → Except Problem Bool
  | .scalar _ (.boolean b) => .ok b
  | item => .error (mismatch item "a boolean")

/-- Reads a number of milliseconds. -/
def readInterval : Item → Except Problem UInt64
  | .scalar span (.integer n) =>
    if 0 ≤ n then .ok (UInt64.ofNat n.toNat)
    else .error ⟨.other ("invalid value: integer `" ++ toString n ++ "`, expected u64"), some span⟩
  | item => .error (mismatch item "u64")

/-- Reads a choice between names: the name, or a table with that key alone and an empty value. -/
def readChoice {α : Type} [Choice α] (item : Item) : Except Problem α :=
  let named (name : String) (span : Option Span) : Except Problem α :=
    match Choice.ofName? name with
    | some a => .ok a
    | none => .error ⟨.variant name ((Choice.all (α := α)).map Choice.name), span⟩
  match item with
  | .scalar span (.string s) => named s (some span)
  | .table _ _ [(key, value)] => do
    let a ← named key.text (some key.span)
    match value with
    | .array _ [] | .table _ _ [] => .ok a
    | _ => .error ⟨.other "expected empty table", value.span?⟩
  | .table .. => .error ⟨.other "wanted exactly 1 element", item.span?⟩
  | _ => .error ⟨.other "wanted string or table", item.span?⟩

/-- Points at the key of an entry where the value stands nowhere. -/
def pointingAt {α : Type} (key : Key) : Except Problem α → Except Problem α
  | .ok a => .ok a
  | .error problem => .error { problem with span := problem.span <|> some key.span }

/-- Reads a record, starting from its defaults: from the entries of a table, in their order, or from
the items of an array, in the order of the fields.  What there is too much is passed over. -/
def readRecord {α : Type} (name : String) (fields : List String)
    (set : String → Item → α → Except Problem α) (start : α) : Item → Except Problem α
  | .table _ _ entries =>
    entries.foldlM (fun a entry => pointingAt entry.1 (set entry.1.text entry.2 a)) start
  | .array _ items | .tables items =>
    (fields.zip items).foldlM (fun a entry => set entry.1 entry.2 a) start
  | .scalar _ .moment => .ok start
  | item => .error (mismatch item ("struct " ++ name))

/-! ## Reading settings -/

namespace ChannelSettings

/-- Reads a field. -/
def readField (key : String) (item : Item) (settings : ChannelSettings) :
    Except Problem ChannelSettings :=
  match key with
  | "fill_envelope_recipients" => (readFlag item).map ({ settings with fillsAddresses := · })
  | "auto_reply_pings" => (readFlag item).map ({ settings with answersPings := · })
  | "auto_notify_receipt" => (readFlag item).map ({ settings with notifiesReceipt := · })
  | "ping_interval_ms" => (readInterval item).map ({ settings with pingInterval := · })
  | "ping_disconnection_interval_ms" =>
    (readInterval item).map ({ settings with disconnectionInterval := · })
  | _ => .ok settings

def ofItem : Item → Except Problem ChannelSettings :=
  readRecord "ChannelConfig" fieldNames readField {}

end ChannelSettings

namespace ClientSettings

/-- Reads a field. -/
def readField (key : String) (item : Item) (settings : ClientSettings) :
    Except Problem ClientSettings :=
  match key with
  | "server_address" => (readText item).map ({ settings with serverAddress := · })
  | "identity" => (readText item).map ({ settings with identity := · })
  | "instance" => (readText item).map ({ settings with place := · })
  | "password" => (readText item).map ({ settings with password := some · })
  | "compression" => (readChoice item).map ({ settings with compression := some · })
  | "encryption" => (readChoice item).map ({ settings with encryption := some · })
  | "log_level" => (readText item).map ({ settings with logLevel := · })
  | _ => .ok settings

def ofItem : Item → Except Problem ClientSettings :=
  readRecord "ClientConfig" fieldNames readField {}

end ClientSettings

namespace Settings

/-- Reads one of the two tables. -/
def readField (key : String) (item : Item) (settings : Settings) : Except Problem Settings :=
  match key with
  | "client" => (ClientSettings.ofItem item).map ({ settings with client := · })
  | "channel" => (ChannelSettings.ofItem item).map ({ settings with channel := · })
  | _ => .ok settings

def ofItem : Item → Except Problem Settings :=
  readRecord "Config" fieldNames readField {}

/-- Reads settings from a text. -/
def ofText (s : String) : Except SettingsTextError Settings :=
  match Toml.read? s with
  | none => .error .malformed
  | some item =>
    match ofItem item with
    | .ok settings => .ok settings
    | .error problem =>
      .error (.unfit problem.misfit (problem.span.map (·.positions s.utf8ByteSize)))

/-! ## Writing settings -/

/-- The largest number that TOML holds. -/
def maxInterval : Nat := Int64.maxValue.toNatClampNeg

def clientPairs (client : ClientSettings) : List (String × List Char) :=
  let text (key : String) (value : Option String) : List (String × List Char) :=
    (value.map fun s => (key, Toml.quoted s)).toList
  text "server_address" client.serverAddress ++ text "identity" client.identity ++
    text "instance" client.place ++ text "password" client.password ++
    text "compression" (client.compression.map Choice.name) ++
    text "encryption" (client.encryption.map Choice.name) ++ text "log_level" client.logLevel

def channelPairs (channel : ChannelSettings) : List (String × List Char) :=
  let interval (n : UInt64) : List Char := Nat.toDigits 10 n.toNat
  [("fill_envelope_recipients", Toml.booleanText channel.fillsAddresses),
    ("auto_reply_pings", Toml.booleanText channel.answersPings),
    ("auto_notify_receipt", Toml.booleanText channel.notifiesReceipt),
    ("ping_interval_ms", interval channel.pingInterval),
    ("ping_disconnection_interval_ms", interval channel.disconnectionInterval)]

/-- Whether the intervals can be written. -/
def isWritable (settings : Settings) : Bool :=
  settings.channel.pingInterval.toNat ≤ maxInterval &&
    settings.channel.disconnectionInterval.toNat ≤ maxInterval

/-- The text of settings; there is none if an interval is too large for TOML. -/
def text? (settings : Settings) : Option String :=
  if settings.isWritable then
    some (String.ofList (Toml.tablesText
      [("client", clientPairs settings.client), ("channel", channelPairs settings.channel)]))
  else none

end Settings
end Courier
