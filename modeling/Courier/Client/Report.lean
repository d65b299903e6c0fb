/-
Reports: how the client tells why it failed.

A report is a message and what it comes from, outermost first.  Several causes are numbered.
-/
import Courier.Channel.Error
import Courier.Settings.Store

namespace Courier

structure Report where
  message : String
  causes : List String := []
  deriving DecidableEq, Repr, Inhabited

namespace Report

def ofStore (error : StoreError) : Report :=
  ⟨error.message, error.causes⟩

def ofSettings (error : SettingsError) : Report :=
  ⟨error.message, []⟩

def ofChannel (error : ChannelError) : Report :=
  ⟨error.message, error.causes⟩

/-- A text with something before its first line and something before the others. -/
def indented (first others text : String) : String :=
  first ++ String.intercalate ("\n" ++ others) (text.splitOn "\n")

/-- A number, right-aligned in five columns. -/
def column (n : Nat) : String :=
  let digits := toString n
  String.ofList (List.replicate (5 - digits.length) ' ') ++ digits

/-- The causes, one below the other. -/
def causeTexts (causes : List String) : List String :=
  match causes with
  | [cause] => [indented "    " "    " cause]
  | causes => causes.mapIdx fun n cause => indented (column n ++ ": ") "       " cause

/-- The text of a report. -/
def text (report : Report) : String :=
  let causes :=
    if report.causes.isEmpty then ""
    else "\n\nCaused by:\n" ++ String.intercalate "\n" (causeTexts report.causes)
  "Error: " ++ report.message ++ causes

end Report
end Courier
