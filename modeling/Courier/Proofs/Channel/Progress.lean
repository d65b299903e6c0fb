/-
How the state of a session goes.

The state is that of the last session that has come in, whatever it was before: a channel does not
insist on any order.  So the states of a run go forward exactly if those of the sessions do
(`states_follow_sessions`), and after a last session nothing changes, and nothing that is received
goes to any listener, unless another session comes in.
-/
import Courier.Channel.Playbook
import Courier.Proofs.Channel.Reception
import Courier.Proofs.Channel.Reckoning
import Mathlib.Data.List.Chain

namespace Courier

variable {σ : Type}

/-- How far a session has come in a state. -/
def SessionState.rank : SessionState → Nat
  | new => 0
  | negotiating => 1
  | authenticating => 2
  | established => 3
  | finishing => 4
  | finished | failed => 5

/-- States that never go back. -/
def Forward (states : List SessionState) : Prop :=
  states.Pairwise fun a b => a.rank ≤ b.rank

instance (states : List SessionState) : Decidable (Forward states) :=
  inferInstanceAs (Decidable (states.Pairwise _))

instance : Trans (fun a b : SessionState => a.rank ≤ b.rank)
    (fun a b : SessionState => a.rank ≤ b.rank) fun a b : SessionState => a.rank ≤ b.rank where
  trans := Nat.le_trans

/-- The worlds in which entries were written, and that in which the run ended. -/
def Chronicle.worlds (chronicle : Chronicle σ) : List (World σ) :=
  chronicle.entries.map (·.world) ++ [chronicle.final]

/-- The states of a run, moment by moment. -/
def Chronicle.states (chronicle : Chronicle σ) : List SessionState :=
  chronicle.worlds.map (·.channel.standing.state)

/-- The states that some sessions lead through, from a state on: one before each entry, and one in
the end. -/
def statesFrom (state : SessionState) : List (Entry σ) → List SessionState
  | [] => [state]
  | entry :: entries =>
    state :: statesFrom (entry.session?.elim state (·.state)) entries

theorem state_foldl_after (sessions : List Session) (standing : Standing) :
    (sessions.foldl Standing.after standing).state =
      sessions.foldl (fun _ session => session.state) standing.state := by
  induction sessions generalizing standing with
  | nil => rfl
  | cons session sessions ih =>
    rw [List.foldl_cons, ih, Standing.state_after]
    rfl

theorem getElem?_statesFrom (state : SessionState) (entries : List (Entry σ)) {k : Nat}
    (hle : k ≤ entries.length) :
    (statesFrom state entries)[k]? =
      some ((sessionsIn (entries.take k)).foldl (fun _ session => session.state) state) := by
  induction entries generalizing state k with
  | nil =>
    obtain rfl := Nat.le_zero.mp hle
    rfl
  | cons entry entries ih =>
    cases k with
    | zero => rfl
    | succ k =>
      rw [statesFrom, List.getElem?_cons_succ, ih _ (Nat.le_of_succ_le_succ hle), List.take_succ_cons,
        sessionsIn_cons]
      cases entry.session? <;> rfl

theorem length_statesFrom (state : SessionState) (entries : List (Entry σ)) :
    (statesFrom state entries).length = entries.length + 1 := by
  induction entries generalizing state with
  | nil => rfl
  | cons entry entries ih => rw [statesFrom, List.length_cons, ih, List.length_cons]

/-- Moments at which no session comes in make no difference. -/
theorem forward_statesFrom (state : SessionState) (entries : List (Entry σ)) :
    Forward (statesFrom state entries) ↔
      Forward (state :: (sessionsIn entries).map (·.state)) := by
  unfold Forward
  rw [← List.isChain_iff_pairwise, ← List.isChain_iff_pairwise]
  induction entries generalizing state with
  | nil => rfl
  | cons entry entries ih =>
    have hhead : ∀ next : SessionState, ∃ rest, statesFrom next entries = next :: rest := by
      intro next
      cases entries <;> exact ⟨_, rfl⟩
    rw [statesFrom, sessionsIn_cons]
    cases entry.session? with
    | none =>
      obtain ⟨rest, hrest⟩ := hhead state
      show List.IsChain _ (state :: statesFrom state entries) ↔ _
      rw [hrest, List.isChain_cons_cons, ← hrest, ih]
      simp
    | some session =>
      obtain ⟨rest, hrest⟩ := hhead session.state
      show List.IsChain _ (state :: statesFrom session.state entries) ↔ _
      rw [hrest, List.isChain_cons_cons, ← hrest, ih]
      simp

namespace Chronicle

variable {chronicle : Chronicle σ} {P : List (Entry σ) → World σ → Prop}

theorem Always.worlds (halways : chronicle.Always P) {k : Nat} {u : World σ}
    (hget : chronicle.worlds[k]? = some u) : P (chronicle.entries.take k) u := by
  unfold Chronicle.worlds at hget
  rcases Nat.lt_or_ge k chronicle.entries.length with hlt | hge
  · rw [List.getElem?_append_left (by rw [List.length_map]; exact hlt), List.getElem?_map,
      List.getElem?_eq_getElem hlt] at hget
    cases hget
    exact halways.within k _ (List.getElem?_eq_getElem hlt)
  · rw [List.getElem?_append_right (by rw [List.length_map]; exact hge), List.length_map,
      List.getElem?_singleton] at hget
    split at hget
    · cases hget
      rw [List.take_of_length_le hge]
      exact halways.final
    · cases hget

theorem states_eq {start : World σ} (halways : chronicle.Always (Reckoned start)) :
    chronicle.states = statesFrom start.channel.standing.state chronicle.entries := by
  have hlength : chronicle.worlds.length = chronicle.entries.length + 1 := by
    simp [Chronicle.worlds]
  refine List.ext_getElem? fun k => ?_
  unfold Chronicle.states
  rw [List.getElem?_map]
  rcases Nat.lt_or_ge chronicle.entries.length k with hlt | hle
  · rw [List.getElem?_eq_none (by omega), List.getElem?_eq_none (by rw [length_statesFrom]; omega)]
    rfl
  · have hget : chronicle.worlds[k]? = some chronicle.worlds[k] := List.getElem?_eq_getElem _
    rw [hget, getElem?_statesFrom _ _ hle, Option.map_some, (halways.worlds hget).standing,
      state_foldl_after]

end Chronicle

namespace World

/-- What is received while the session is not established is refused, whatever the listeners and
modules of the program do, and counts as activity only. -/
theorem receive_refused {w : World σ} (hstate : w.channel.standing.state ≠ .established)
    (h : Host σ) (kind : Traffic) (item : kind.Item) :
    w.receive h (kind.envelope item) =
      (.error (.invalidState ("receive a " ++ kind.word) w.channel.standing.state), w.touch) := by
  have hrefused := receiveItem_of_refused (h := h) (w := w.touch) hstate item
  cases kind <;> exact hrefused

end World

/-- The sessions up to a moment after which none has come in for a while. -/
theorem sessionsIn_take_of_last {entries : List (Entry σ)} {entry : Entry σ} {session : Session}
    {k l : Nat} (hget : entries[k]? = some entry) (hsession : entry.session? = some session)
    (hlt : k < l) (hnone : sessionsIn ((entries.take l).drop (k + 1)) = []) :
    sessionsIn (entries.take l) = sessionsIn (entries.take k) ++ [session] := by
  have htake : (entries.take l).take (k + 1) = entries.take k ++ [entry] := by
    rw [List.take_take, Nat.min_eq_left hlt, List.take_add_one, hget, Option.toList_some]
  rw [← List.take_append_drop (k + 1) (entries.take l), sessionsIn_append, hnone, htake,
    sessionsIn_snoc, hsession, Option.toList_some, List.append_nil]

/-- In every run, at every moment and whatever the callbacks do, the session stands as the sessions
that have come in leave it.  So its state goes forward if and only if theirs do.  After a last
session it stays, and all traffic is refused, until another session comes in. -/
theorem Program.states_follow_sessions (program : Program σ) (depth : Nat)
    (moments : List Moment) (w : World σ) :
    let c := program.chronicle depth moments w
    (∀ k u, c.worlds[k]? = some u → u.channel.standing =
      (sessionsIn (c.entries.take k)).foldl Standing.after w.channel.standing) ∧
    (Forward c.states ↔
      Forward (w.channel.standing.state :: (sessionsIn c.entries).map (·.state))) ∧
    ∀ k l entry session u, c.entries[k]? = some entry → entry.session? = some session →
      session.state.isTerminal = true → k < l → c.worlds[l]? = some u →
      sessionsIn ((c.entries.take l).drop (k + 1)) = [] →
      u.channel.standing.state = session.state ∧
        ∀ (h : Host σ) (kind : Traffic) (item : kind.Item),
          u.receive h (kind.envelope item) =
            (.error (.invalidState ("receive a " ++ kind.word) session.state), u.touch) := by
  intro c
  have halways := program.always_reckoned depth moments w
  refine ⟨fun k u hget => (halways.worlds hget).standing, ?_, ?_⟩
  · rw [Chronicle.states_eq halways]
    exact forward_statesFrom _ _
  · intro k l entry session u hget hsession hterminal hlt hworld hnone
    have hstate : u.channel.standing.state = session.state := by
      rw [(halways.worlds hworld).standing, sessionsIn_take_of_last hget hsession hlt hnone,
        List.foldl_append]
      exact Standing.state_after _ session
    have hunestablished : u.channel.standing.state ≠ .established := by
      intro hestablished
      rw [← hstate, hestablished] at hterminal
      cases hterminal
    refine ⟨hstate, fun h kind item => ?_⟩
    rw [World.receive_refused hunestablished, hstate]

/-- A message that comes in late. -/
def lateMessage : Message where
  mediaType := Message.plainText
  content := .string "late"

/-- A session that was over is established again, and then a message comes in. -/
def resumption : List Moment :=
  [.request (.addListener (.traffic .message) "A" false),
    .request (.receive (.session { header := { id := some "s" }, state := .finished })),
    .request (.receive (.session { header := { id := some "s" }, state := .established })),
    .request (.receive (.message lateMessage))]

/-- The state goes back, and the message goes to the listener. -/
theorem Program.state_goes_back :
    let c := ({} : Playbook).program.chronicle 1 resumption { user := [] }
    c.states = [.new, .new, .finished, .established, .established, .established] ∧
      ¬Forward c.states ∧
      c.final.trace.getLast? = some (.notified "A" (.envelope (.message lateMessage))) := by
  intro c
  have hstates : c.states =
      [.new, .new, .finished, .established, .established, .established] := rfl
  refine ⟨hstates, ?_, rfl⟩
  rw [hstates]
  decide

end Courier
