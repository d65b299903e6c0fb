/-
Standings: where an endpoint stands in its session.
-/
import Courier.Channel.Error

namespace Courier

/-- Where an endpoint stands in its session. -/
structure Standing where
  state : SessionState := .new
  id : Option String := none
  /-- The node of this end. -/
  localNode : Option Node := none
  /-- The node of the other end. -/
  remoteNode : Option Node := none
  deriving DecidableEq, Inhabited

namespace Standing

/-- Fails unless the session is in a given state. -/
def ensure (standing : Standing) (state : SessionState) (operation : String) :
    Except ChannelError Unit :=
  if standing.state = state then .ok () else .error (.invalidState operation standing.state)

/-- The standing after a session has been received.  Its state and id are always taken over; who is
at which end is settled when the session is established. -/
def after (standing : Standing) (session : Session) : Standing :=
  if session.state = .established then
    { state := session.state
      id := session.header.id
      localNode := session.header.recipient
      remoteNode := session.header.sender }
  else { standing with state := session.state, id := session.header.id }

theorem state_after (standing : Standing) (session : Session) :
    (standing.after session).state = session.state := by
  unfold after
  split <;> rfl

theorem id_after (standing : Standing) (session : Session) :
    (standing.after session).id = session.header.id := by
  unfold after
  split <;> rfl

end Standing
end Courier
