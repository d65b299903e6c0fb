/-
What happens in a run, down to the callbacks.

A run of a program is told by its `Chronicle`: all that the program does with the channel, at the top
and from within its callbacks, and every call of a callback, each with the world as it was.  A program
that keeps such a diary does what it does without one (`watched_forgets`), so the chronicle is one of
the run itself, and ends where that ends (`recount_plain`).

Of all that may be done to a channel only five things concern the session and the link: a `Turn` is
one of them.  What is so at every moment of a run (`Chronicle.Always`), also while callbacks are
running, can be read off the turns before it.
-/
import Courier.Proofs.Channel.Forgetting

namespace Courier

variable {σ : Type}

/-! ## Turns -/

/-- Something that concerns the session or the link. -/
inductive Turn where
  /-- A session comes in. -/
  | takes (session : Session)
  /-- The channel is closed. -/
  | closes
  /-- The link is closed by the program. -/
  | closesLink
  /-- The link is closed because there has been nothing but pings for too long. -/
  | disconnects
  /-- The pings stop because the channel is gone. -/
  | abandons

/-- Whether the link is asked to close: for a session that is over, for a close of the channel, and
for a silence that is too long, or because the program asks it to. -/
def Turn.rings : Turn → Bool
  | takes session => session.state.isTerminal
  | closes | closesLink | disconnects => true
  | abandons => false

namespace World

/-- The turn that a moment is, if it is one. -/
def turn? (m : Moment) (w : World σ) : Option Turn :=
  match m with
  | .request request =>
    if w.refuses request then none
    else
      match request with
      | .receive (.session session) => some (.takes session)
      | .raise (.session session) => if w.alive then some (.takes session) else none
      | .close => some .closes
      | .closeLink => some .closesLink
      | _ => none
  | .tick ahead =>
    if w.Heeds ahead then
      if !w.alive then some .abandons
      else if w.isSilent then some .disconnects
      else none
    else none
  | _ => none

/-- What comes of a turn. -/
def turned (h : Host σ) (turn : Turn) (w : World σ) : World σ :=
  match turn with
  | .takes session => (w.receive h (.session session)).2
  | .closes => (w.close h).2
  | .closesLink => (w.closeLink h).2
  | .disconnects => (w.closeLink h).2.stopKeepAlive
  | .abandons => w.stopKeepAlive

theorem happen_of_turn {h : Host σ} {m : Moment} {turn : Turn} {w : World σ}
    (hturn : w.turn? m = some turn) : w.happen h m = w.turned h turn := by
  unfold turn? at hturn
  split at hturn
  · rename_i request
    split at hturn
    · cases hturn
    · rename_i hrefused
      show (w.perform h request).2 = _
      rw [perform_of_not_refused hrefused]
      split at hturn
      · cases hturn
        rfl
      · split at hturn
        · rename_i halive
          cases hturn
          exact if_pos halive
        · cases hturn
      · cases hturn
        rfl
      · cases hturn
        rfl
      · cases hturn
  · split at hturn
    · rename_i hheeds
      show (if w.Heeds _ then w.tick h else w) = _
      rw [if_pos hheeds]
      unfold tick
      split at hturn
      · rename_i hgone
        cases hturn
        rw [if_pos hgone]
        rfl
      · rename_i halive
        rw [if_neg halive]
        split at hturn
        · rename_i hsilent
          cases hturn
          rw [if_pos hsilent]
          rfl
        · cases hturn
    · cases hturn
  · cases hturn

/-- What a turn does before the link is asked to close. -/
def readied (turn : Turn) (w : World σ) : World σ :=
  match turn with
  | .takes session =>
    let w := w.touch.modify fun channel =>
      { channel with standing := channel.standing.after session }
    if session.state.isTerminal then w.stopKeepAlive else w
  | .closes | .abandons => w.stopKeepAlive
  | .closesLink | .disconnects => w

/-- What a turn does after the link has been asked to close. -/
def followedUp (h : Host σ) (turn : Turn) (w : World σ) : World σ :=
  match turn with
  | .takes session => w.deliverSession h session
  | .disconnects => w.stopKeepAlive
  | _ => w

theorem user_readied (turn : Turn) (w : World σ) : (w.readied turn).user = w.user := by
  cases turn with
  | takes session =>
    unfold readied
    dsimp only
    split <;> rfl
  | closes | closesLink | disconnects | abandons => rfl

theorem link_readied (turn : Turn) (w : World σ) : (w.readied turn).link = w.link := by
  cases turn with
  | takes session =>
    unfold readied
    dsimp only
    split <;> rfl
  | closes | closesLink | disconnects | abandons => rfl

theorem hearsClose_readied (turn : Turn) (w : World σ) :
    (w.readied turn).hearsClose = w.hearsClose := by
  cases turn with
  | takes session =>
    unfold readied
    dsimp only
    split <;> rfl
  | closes | closesLink | disconnects | abandons => rfl

/-- Before a close, nothing changes of a channel but the session, the pings and the activity. -/
theorem channel_readied (turn : Turn) (w : World σ) :
    (w.readied turn).channel =
      { w.channel with
        standing := match turn with
          | .takes session => w.channel.standing.after session
          | _ => w.channel.standing
        keepAlive := (w.readied turn).channel.keepAlive
        lastActivity := (w.readied turn).channel.lastActivity } := by
  cases turn with
  | takes session =>
    unfold readied
    dsimp only
    split <;> rfl
  | closes | closesLink | disconnects | abandons => rfl

theorem standing_readied (turn : Turn) (w : World σ) :
    (w.readied turn).channel.standing =
      match turn with
      | .takes session => w.channel.standing.after session
      | _ => w.channel.standing := by
  rw [channel_readied]

/-- A turn readies the channel, asks the link to close if it is one of those that do, and follows
that up. -/
theorem turned_eq (h : Host σ) (turn : Turn) (w : World σ) :
    w.turned h turn =
      (if turn.rings then ((w.readied turn).closeLink h).2 else w.readied turn).followedUp h
        turn := by
  cases turn with
  | takes session =>
    show w.touch.receiveSession h session = _
    unfold receiveSession readied Turn.rings followedUp
    by_cases hterminal : session.state.isTerminal = true
    · simp only [if_pos hterminal]
    · simp only [if_neg hterminal]
  | closes =>
    show (w.close h).2 = (w.stopKeepAlive.closeLink h).2
    unfold close
    rcases w.stopKeepAlive.closeLink h with ⟨_ | _, u⟩ <;> rfl
  | closesLink | disconnects | abandons => rfl

/-- After a channel was readied for a turn, all that may happen is that the link is closed, that the
pings are stopped, and that the session is delivered which has come in. -/
theorem turned_carries {h : Host σ} {R : World σ → World σ → Prop} {turn : Turn}
    (hrefl : ∀ w, R w w) (htrans : ∀ {u v w}, R u v → R v w → R u w)
    (hclose : ∀ w, R w (w.closeLink h).2) (hstop : ∀ w, R w w.stopKeepAlive)
    (hdeliver : ∀ session, turn = .takes session → ∀ w, R w (w.deliverSession h session))
    (w : World σ) : R (w.readied turn) (w.turned h turn) := by
  rw [turned_eq]
  cases turn with
  | takes session =>
    show R _ (World.deliverSession h session (if session.state.isTerminal then _ else _))
    split
    · exact htrans (hclose _) (hdeliver session rfl _)
    · exact hdeliver session rfl _
  | closes | closesLink => exact hclose _
  | disconnects => exact htrans (hclose _) (hstop _)
  | abandons => exact hrefl _

end World

/-! ## Diaries -/

/-- What a program does, and what is done to it. -/
inductive Deed where
  /-- It does something with the channel, or lets time pass. -/
  | begun (m : Moment)
  /-- One of its callbacks is called. -/
  | called (call : Call)

/-- An entry of a diary: something that was done, and the world as it was. -/
structure Entry (σ : Type) where
  world : World σ
  deed : Deed

/-- The turn that an entry tells of. -/
def Entry.turn? (entry : Entry σ) : Option Turn :=
  match entry.deed with
  | .begun m => entry.world.turn? m
  | .called _ => none

/-- What a program knows that keeps a diary. -/
structure Diary (σ : Type) where
  user : σ
  entries : List (Entry σ) := []

namespace World

/-- The world without the diary. -/
def plain (w : World (Diary σ)) : World σ :=
  w.map Diary.user

def entries (w : World (Diary σ)) : List (Entry σ) :=
  w.user.entries

/-- Writes into the diary. -/
def note (deed : Deed) (w : World (Diary σ)) : World (Diary σ) :=
  { w with user := { w.user with entries := w.user.entries ++ [⟨w.plain, deed⟩] } }

/-- Changes what the program knows, and leaves the diary. -/
def think (user : σ) (w : World (Diary σ)) : World (Diary σ) :=
  { w with user := { w.user with user } }

/-- Lets a moment come, after it has been noted. -/
def beginning (h : Host (Diary σ)) (m : Moment) (w : World (Diary σ)) : World (Diary σ) :=
  (w.note (.begun m)).happen h m

/-- Lets the moments of a run come, each after it has been noted. -/
def recount (h : Host (Diary σ)) (moments : List Moment) (w : World (Diary σ)) :
    World (Diary σ) :=
  moments.foldl (fun w m => w.beginning h m) w

/-- The world with an empty diary. -/
def withDiary (w : World σ) : World (Diary σ) :=
  w.map fun user => { user }

end World

namespace Program

/-- The host of a program with a diary that runs its callbacks by `call`. -/
def diaryHost (program : Program σ) (call : Call → World (Diary σ) → World (Diary σ)) :
    Host (Diary σ) where
  call := call
  transform kind name direction item w :=
    let (item, user) := program.transform kind name direction item w.user.user
    (item, w.think user)

/-- The host of a program whose diary is kept for it: its callbacks are noted, and the requests that
they make. -/
def watched (program : Program σ) : Nat → Host (Diary σ)
  | 0 => program.diaryHost fun call w => w.note (.called call)
  | depth + 1 => program.diaryHost fun call w =>
    let (steps, user) := program.script call w.user.user
    steps.run
      (fun request w => (w.note (.begun (.request request))).perform (program.watched depth) request)
      (fun request reply w => w.record (.answered call.name request reply))
      ((w.note (.called call)).think user)

theorem call_watched_succ (program : Program σ) (depth : Nat) (call : Call)
    (w : World (Diary σ)) :
    (program.watched (depth + 1)).call call w =
      (program.script call w.user.user).1.run
        (fun request w =>
          (w.note (.begun (.request request))).perform (program.watched depth) request)
        (fun request reply w => w.record (.answered call.name request reply))
        ((w.note (.called call)).think (program.script call w.user.user).2) :=
  rfl

/-- A diary makes no difference to what a program does. -/
theorem watched_forgets (program : Program σ) (depth : Nat) :
    (program.watched depth).Forgets Diary.user (program.host depth) := by
  have htransform : ∀ call call' kind name direction item (w : World (Diary σ)),
      (program.hostOf call').transform kind name direction item (w.map Diary.user) =
        World.mapWith Diary.user ((program.diaryHost call).transform kind name direction item w) :=
    fun _ _ _ _ _ _ _ => rfl
  induction depth with
  | zero => exact ⟨fun _ _ => rfl, htransform _ _⟩
  | succ depth ih =>
    refine ⟨fun call w => ?_, htransform _ _⟩
    have hperform : ∀ request (v : World (Diary σ)),
        (v.map Diary.user).perform (program.host depth) request =
          World.mapWith Diary.user
            ((v.note (.begun (.request request))).perform (program.watched depth) request) :=
      fun request v => World.perform_map ih request (v.note (.begun (.request request)))
    have hnote : ∀ request reply (v : World (Diary σ)),
        (v.map Diary.user).record (.answered call.name request reply) =
          (v.record (.answered call.name request reply)).map Diary.user :=
      fun _ _ _ => rfl
    rw [call_host_succ, call_watched_succ]
    exact Script.run_map hperform hnote (program.script call w.user.user).1
      ((w.note (.called call)).think (program.script call w.user.user).2)

end Program

theorem World.recount_plain (program : Program σ) (depth : Nat) (moments : List Moment)
    (w : World (Diary σ)) :
    (w.recount (program.watched depth) moments).plain =
      w.plain.live (program.host depth) moments := by
  induction moments generalizing w with
  | nil => rfl
  | cons m moments ih =>
    have hstep : (w.beginning (program.watched depth) m).plain =
        w.plain.happen (program.host depth) m :=
      (World.happen_map (program.watched_forgets depth) m (w.note (.begun m))).symm
    rw [World.live_cons, ← hstep]
    exact ih _

/-! ## Chronicles -/

/-- All that was done in a run, and where it ended. -/
structure Chronicle (σ : Type) where
  entries : List (Entry σ)
  final : World σ

/-- The chronicle of a run of a program, whose callbacks are nested `depth` levels deep at most. -/
def Program.chronicle (program : Program σ) (depth : Nat) (moments : List Moment) (w : World σ) :
    Chronicle σ where
  entries := (w.withDiary.recount (program.watched depth) moments).entries
  final := w.live (program.host depth) moments

/-- Something is so at every moment of a run: when an entry is written, after those before it, and in
the end. -/
structure Chronicle.Always (chronicle : Chronicle σ) (P : List (Entry σ) → World σ → Prop) :
    Prop where
  within : ∀ k entry, chronicle.entries[k]? = some entry →
    P (chronicle.entries.take k) entry.world
  final : P chronicle.entries chronicle.final

end Courier
