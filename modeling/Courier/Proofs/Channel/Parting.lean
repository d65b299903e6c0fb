/-
How a channel parts from its peer.

A last session first replaces the state, then has the link closed, which those who listen for the
close are told of, and then goes to all who listen for sessions, whether or not the close failed.
Together with what is reckoned of a run and with the notices of the close, that is all there is to
the end of a channel (`parting_course`).
-/
import Courier.Proofs.Channel.Closing

namespace Courier

open scoped List

variable {σ : Type}

namespace World

/-- What comes of a last session, if `rest` is written after it comes in: it is taken, the notices of
the close are given first, if the channel hears of it, and then those of the session. -/
structure Parts (h : Host σ) (session : Session) (w : World σ) (rest : List (Entry σ)) : Prop where
  accepted : (w.receive h (.session session)).1 = .ok ()
  order : ∃ closing delivering, rest = closing ++ delivering ∧
    (if w.hearsClose then
      w.channel.closeListeners.notices (.closed session.state) <+ callsIn closing
    else closing = []) ∧
    ((w.readied (.takes session)).closeLink h).2.channel.sessionListeners.notices
      (.envelope (.session session)) <+ callsIn delivering

variable {first second : List Call} {u v w : World (Diary σ)}

/-- Some calls have been made. -/
def Records (calls : List Call) (v w : World (Diary σ)) : Prop :=
  ∃ more, w.user.entries = v.user.entries ++ more ∧ calls <+ callsIn more

theorem Records.of_same (huser : w.user.entries = v.user.entries) : Records [] v w :=
  ⟨[], by rw [huser, List.append_nil], List.nil_sublist _⟩

theorem Records.trans (huv : Records first u v) (hvw : Records second v w) :
    Records (first ++ second) u w := by
  obtain ⟨more, hmore, hfirst⟩ := huv
  obtain ⟨more', hmore', hsecond⟩ := hvw
  refine ⟨more ++ more', ?_, ?_⟩
  · rw [hmore', hmore, List.append_assoc]
  · rw [callsIn_append]
    exact hfirst.append hsecond

/-- Which calls were made may be forgotten. -/
theorem Records.quiet {calls : List Call} (hrecords : Records calls v w) : Records [] v w := by
  obtain ⟨more, hmore, _⟩ := hrecords
  exact ⟨more, hmore, List.nil_sublist _⟩

theorem records_note (deed : Deed) (w : World (Diary σ)) :
    Records (callsIn [Entry.mk w.plain deed]) w (w.note deed) :=
  ⟨[⟨w.plain, deed⟩], rfl, List.Sublist.refl _⟩

theorem minds_records : Minds (fun _ => False) (@Records σ []) where
  same hsame := .of_same (congrArg Diary.entries hsame.user)
  trans := .trans
  think _ _ := .of_same rfl
  register _ _ _ := .of_same rfl
  unregister _ _ _ := .of_same rfl
  taken _ := .of_same rfl
  called call w _ := (records_note (.called call) w).quiet
  begun m w _ := records_note (.begun m) w

section

variable {h : Host (Diary σ)} (hf : Obeys h (@Records σ []))
include hf

theorem callOut_records (call : Call) (w : World (Diary σ)) :
    Records [call] w (w.callOut h call) := by
  have hm := minds_records (σ := σ)
  have hentered : Records [call] w (w.entered call) :=
    (hm.deeper w).trans (records_note (.called call) _)
  exact hentered.trans (callOut_obeys hm hf call w)

theorem deliverSession_records (session : Session) (w : World (Diary σ)) :
    Records (w.channel.sessionListeners.notices (.envelope (.session session))) w
      (w.deliverSession h session) :=
  deliverSession_notices (hf.carries minds_records) Records.trans id session
    (fun _ => callOut_records hf _) w

/-- What is written while the link is closed: nothing, unless the channel hears of it. -/
theorem closeLink_records (w : World (Diary σ)) :
    ∃ closing, (w.closeLink h).2.user.entries = w.user.entries ++ closing ∧
      if w.hearsClose then
        w.channel.closeListeners.notices (.closed w.channel.standing.state) <+ callsIn closing
      else closing = [] := by
  rw [closeLink_eq]
  split
  · obtain ⟨closing, hclosing, hnotices⟩ := deliverClose_notices Records.trans
      (hf.carries minds_records).toHears id (fun _ _ => callOut_records hf _) w.struck
    rw [user_struck] at hclosing
    rw [channel_struck] at hnotices
    exact ⟨closing, hclosing, hnotices⟩
  · exact ⟨[], by rw [user_struck, List.append_nil], rfl⟩

theorem turned_records {m : Moment} {turn : Turn} (w : World (Diary σ)) :
    Records [] w ((w.note (.begun m)).turned h turn) := by
  have hm := minds_records (σ := σ)
  have hready : Records [] w ((w.note (.begun m)).readied turn) :=
    (records_note (.begun m) w).trans (.of_same (congrArg Diary.entries (user_readied _ _)))
  have hclose : ∀ v : World (Diary σ), Records [] v (v.closeLink h).2 := by
    intro v
    obtain ⟨closing, hclosing, _⟩ := closeLink_records hf v
    exact ⟨closing, hclosing, List.nil_sublist _⟩
  exact hready.trans (turned_carries hm.refl hm.trans hclose (fun _ => .of_same rfl)
    (fun session _ v => (deliverSession_records hf session v).quiet) _)

end

theorem plain_readied (turn : Turn) (w : World (Diary σ)) :
    (w.readied turn).plain = w.plain.readied turn := by
  cases turn with
  | takes session =>
    unfold readied
    dsimp only
    split <;> rfl
  | closes | closesLink | disconnects | abandons => rfl

/-- A last session comes to what it should. -/
theorem takes_parts {program : Program σ} {depth : Nat}
    (hf : Obeys (program.watched depth) (@Records σ [])) {session : Session}
    (hterminal : session.state.isTerminal = true) (w : World (Diary σ)) :
    ∃ rest, (w.turned (program.watched depth) (.takes session)).user.entries =
        w.user.entries ++ rest ∧
      w.plain.Parts (program.host depth) session rest := by
  let ready := w.readied (.takes session)
  let closed := (ready.closeLink (program.watched depth)).2
  obtain ⟨closing, hclosing, hheard⟩ := closeLink_records hf ready
  obtain ⟨delivering, hdelivering, htold⟩ := deliverSession_records hf session closed
  have hready : ready.user.entries = w.user.entries := congrArg Diary.entries (user_readied _ _)
  have hstate : ready.channel.standing.state = session.state := by
    show (w.readied (.takes session)).channel.standing.state = _
    rw [standing_readied]
    exact Standing.state_after _ _
  have hlisteners : ready.channel.closeListeners = w.channel.closeListeners := by
    show (w.readied (.takes session)).channel.closeListeners = _
    rw [channel_readied]
  have hhears : ready.hearsClose = w.hearsClose := hearsClose_readied _ _
  rw [hstate, hlisteners, hhears] at hheard
  -- What the diary tells of is what happens without it.
  have hplain : ((w.plain.readied (.takes session)).closeLink (program.host depth)).2 =
      closed.plain := by
    rw [← plain_readied]
    exact congrArg Prod.snd (closeLink_map (program.watched_forgets depth) ready)
  refine ⟨closing ++ delivering, ?_, rfl, closing, delivering, rfl, hheard, ?_⟩
  · rw [turned_eq, Turn.rings, if_pos hterminal, ← List.append_assoc, ← hready]
    exact hdelivering.trans (congrArg (· ++ delivering) hclosing)
  · rw [hplain]
    exact htold

end World

/-- In every world, a last session that comes in has the link closed, whose listeners are told first,
and then is told to all who listen for it. -/
theorem Program.lastSession_parts (program : Program σ) (depth : Nat) {w : World σ} {m : Moment}
    {session : Session} (hturn : w.turn? m = some (.takes session))
    (hterminal : session.state.isTerminal = true) :
    ∃ rest, (program.chronicle depth [m] w).entries = ⟨w, .begun m⟩ :: rest ∧
      w.Parts (program.host depth) session rest := by
  have hf : World.Obeys (program.watched depth) (@World.Records σ []) :=
    World.watched_within World.minds_records (fun _ hf _ _ w _ => World.turned_records hf w) depth
  obtain ⟨rest, hrest, hparts⟩ :=
    World.takes_parts hf hterminal (w.withDiary.note (.begun m))
  refine ⟨rest, ?_, hparts⟩
  show (w.withDiary.beginning (program.watched depth) m).user.entries = _
  have hturn' : w.withDiary.turn? m = some (.takes session) := hturn
  rw [World.beginning_of_turn hturn']
  exact hrest

/-- In every run, at every moment and whatever the callbacks do: the link has been asked to close as
often as last sessions came in, the channel was closed, a silence was too long, or the program asked
it to; and the pings have been stopped since the first of these, or since the channel heard of the
close.  The close is told once, when an open link first does not fail to close, with the state at
that moment.  A last session, in whatever world it comes in, comes to what it should whether or not
the close fails. -/
theorem Program.parting_course (program : Program σ) (depth : Nat) (moments : List Moment)
    (w : World σ) :
    let c := program.chronicle depth moments w
    c.Always (fun entries u =>
      Reckoned w entries u ∧ closeNotices entries <+: closeNoticesDue w entries) ∧
    closeNotices c.entries = closeNoticesDue w c.entries ∧
    ∀ levels u m session, u.turn? m = some (.takes session) → session.state.isTerminal = true →
      ∃ rest, (program.chronicle levels [m] u).entries = ⟨u, .begun m⟩ :: rest ∧
        u.Parts (program.host levels) session rest := by
  intro c
  have hnotifies : World.Notifies w w.withDiary
      (w.withDiary.recount (program.watched depth) moments) :=
    World.recount_within (World.minds_notifies w)
      (fun _ hf _ _ _ hturn => World.turned_notifies hf hturn) depth moments w.withDiary
  have hreckons := World.reckons_withDiary w
  have hnone : closeNoticesDue w ([] : List (Entry σ)) = [] := ite_self _
  have hinforms : World.Informs w w.withDiary :=
    World.always_withDiary (by rw [hnone]; exact List.nil_prefix)
  have halways : c.Always fun entries _ => closeNotices entries <+: closeNoticesDue w entries := by
    show (program.chronicle depth moments w).Always _
    rw [chronicle_eq]
    exact hnotifies.informs hreckons hinforms
  exact ⟨(program.always_reckoned depth moments w).and halways,
    hnotifies.informed hreckons hnone.symm,
    fun levels _ _ _ hturn hterminal => program.lastSession_parts levels hturn hterminal⟩

end Courier
