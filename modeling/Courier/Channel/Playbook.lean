/-
Playbooks: programs whose every callback is laid down beforehand.

A playbook lists, for each listener, module and outcome, the requests that its calls make, call by
call, and for each module what it does to the envelopes that enter it.
-/
import Courier.Channel.Requests

namespace Courier

/-- Something that a module does to an envelope. -/
inductive Act where
  | tag (key value : String)
  | setId (id : Option String)
  | setSender (node : Option Node)
  | setRecipient (node : Option Node)
  | swallow
  /-- Swallow what is tagged with a key. -/
  | swallowIf (key : String)
  /-- Put another envelope of the same kind in its place. -/
  | replace (envelope : Envelope)
  deriving DecidableEq

namespace Act

def apply (act : Act) (kind : Traffic) (item : kind.Item) : Option kind.Item :=
  match act with
  | tag key value =>
    some (kind.modifyHeader
      (fun header => { header with metadata := header.metadata.insert key value }) item)
  | setId id => some (kind.modifyHeader (fun header => { header with id }) item)
  | setSender node => some (kind.modifyHeader (fun header => { header with sender := node }) item)
  | setRecipient node =>
    some (kind.modifyHeader (fun header => { header with recipient := node }) item)
  | swallow => none
  | swallowIf key =>
    if (kind.envelope item).header.metadata.contains key then none else some item
  | replace envelope => some ((kind.item? envelope).getD item)

/-- Applies acts in order, up to one that swallows the envelope. -/
def applyAll (acts : List Act) (kind : Traffic) (item : kind.Item) : Option kind.Item :=
  acts.foldlM (fun item act => act.apply kind item) item

end Act

/-- The requests of a callback, call by call. -/
abbrev Lines := List (List Request)

/-- What a module does with what goes one way. -/
structure Passage where
  acts : List Act := []
  lines : Lines := []

/-- Someone whose calls a playbook counts. -/
inductive Role where
  | listener (name : Name)
  | outcome (name : Name)
  | stage (name : Name) (direction : Direction)
  deriving DecidableEq

def Call.role : Call → Role
  | stage name direction _ => .stage name direction
  | listener name _ => .listener name
  | outcome name _ => .outcome name

structure Playbook where
  listeners : List (Name × Lines) := []
  outcomes : List (Name × Lines) := []
  sending : List (Name × Passage) := []
  receiving : List (Name × Passage) := []

namespace Playbook

/-- What a module does with what goes in a direction. -/
def passage (playbook : Playbook) (name : Name) : Direction → Passage
  | .sending => (playbook.sending.lookup name).getD {}
  | .receiving => (playbook.receiving.lookup name).getD {}

/-- The requests of a role, call by call. -/
def lines (playbook : Playbook) : Role → Lines
  | .listener name => (playbook.listeners.lookup name).getD []
  | .outcome name => (playbook.outcomes.lookup name).getD []
  | .stage name direction => (playbook.passage name direction).lines

/-- How many calls have something to ask.  Callbacks cannot be nested deeper than that, but for the
innermost, which asks nothing. -/
def size (playbook : Playbook) : Nat :=
  let count (lines : List Lines) := lines.flatten.length
  count (playbook.listeners.map (·.2)) + count (playbook.outcomes.map (·.2)) +
    count (playbook.sending.map (·.2.lines)) + count (playbook.receiving.map (·.2.lines))

/-- The program of a playbook.  Its state is the roles that have been called so far. -/
def program (playbook : Playbook) : Program (List Role) where
  script call called := Script.planned playbook.lines call.role called
  transform kind name direction item called :=
    (Act.applyAll (playbook.passage name direction).acts kind item, called)

/-- The host of a playbook, deep enough for all its calls. -/
def host (playbook : Playbook) : Host (List Role) :=
  playbook.program.host (playbook.size + 1)

end Playbook
end Courier
