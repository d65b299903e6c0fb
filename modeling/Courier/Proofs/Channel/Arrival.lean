/-
In what order a listener hears of sessions.

Callbacks may hand the channel sessions of their own, and those are delivered while the deliveries
before them are still going on.  A listener that stays registered hears of each session that comes in
exactly once.  But where another in front of it hands one in, it hears of that before it hears of the
one that was to be told of first.  It is in step with what comes in if and only if there are never two
sessions on their way to it (`told_in_step_iff`).
-/
import Courier.Proofs.Channel.Closing
import Mathlib.Data.List.Infix
import Mathlib.Data.List.Nodup

namespace Courier

variable {σ : Type}

/-! ## What a listener is told -/

/-- The session that a call tells a listener of. -/
def Call.told? (name : Name) : Call → Option Session
  | listener other (.envelope (.session session)) => if other = name then some session else none
  | _ => none

def Entry.told? (name : Name) (entry : Entry σ) : Option Session :=
  entry.call?.bind (Call.told? name)

/-- The sessions that a listener has been told of, in order. -/
def toldOf (name : Name) (entries : List (Entry σ)) : List Session :=
  entries.filterMap (Entry.told? name)

/-- There are never two sessions that have come in and that a listener has not been told of. -/
def OneAtATime (name : Name) (entries : List (Entry σ)) : Prop :=
  ∀ seen, seen <+: entries → (sessionsIn seen).length ≤ (toldOf name seen).length + 1

/-- Whenever a listener is told of a session, it has been told of all that have come in, in order. -/
def InStep (name : Name) (entries : List (Entry σ)) : Prop :=
  ∀ seen entry, seen ++ [entry] <+: entries → (entry.told? name).isSome = true →
    toldOf name (seen ++ [entry]) = sessionsIn seen

instance (name : Name) (entries : List (Entry σ)) : Decidable (OneAtATime name entries) :=
  decidable_of_iff
    (∀ seen ∈ entries.inits, (sessionsIn seen).length ≤ (toldOf name seen).length + 1) (by
      simp only [List.mem_inits]
      rfl)

section

variable {name : Name} {entries more : List (Entry σ)} {entry : Entry σ} {session : Session}

theorem toldOf_append (name : Name) (first second : List (Entry σ)) :
    toldOf name (first ++ second) = toldOf name first ++ toldOf name second :=
  List.filterMap_append

theorem toldOf_singleton (name : Name) (entry : Entry σ) :
    toldOf name [entry] = (entry.told? name).toList := by
  unfold toldOf
  cases htold : entry.told? name <;> simp [htold]

theorem OneAtATime.of_prefix (hone : OneAtATime name entries) (hinit : more <+: entries) :
    OneAtATime name more :=
  fun seen hseen => hone seen (hseen.trans hinit)

/-- While a session is on its way to a listener, no other comes in. -/
theorem OneAtATime.not_session (hone : OneAtATime name entries)
    (hinit : more ++ [entry] <+: entries)
    (howed : (toldOf name more).length < (sessionsIn more).length) (hnot : entry.told? name = none) :
    entry.session? = none := by
  have hcount := hone _ hinit
  rw [sessionsIn_snoc, toldOf_append, toldOf_singleton, hnot] at hcount
  cases hsession : entry.session? with
  | none => rfl
  | some session =>
    rw [hsession] at hcount
    simp at hcount
    omega

theorem InStep.nil : InStep name ([] : List (Entry σ)) :=
  fun _ _ hinit => absurd (List.prefix_nil.mp hinit) (by simp)

theorem InStep.snoc (hstep : InStep name entries)
    (htold : (entry.told? name).isSome = true →
      toldOf name (entries ++ [entry]) = sessionsIn entries) : InStep name (entries ++ [entry]) := by
  intro seen other hinit hother
  rcases List.prefix_concat_iff.mp hinit with heq | hinit'
  · obtain ⟨rfl, heq'⟩ := List.append_inj' heq rfl
    cases heq'
    exact htold hother
  · exact hstep seen other hinit' hother

theorem InStep.append (hstep : InStep name entries) (hnone : toldOf name more = []) :
    InStep name (entries ++ more) := by
  induction more generalizing entries with
  | nil => rwa [List.append_nil]
  | cons entry more ih =>
    have hall := List.filterMap_eq_nil_iff.mp hnone
    have hentry : entry.told? name = none := hall entry List.mem_cons_self
    rw [List.append_cons]
    refine ih (hstep.snoc fun htold => ?_) (List.filterMap_eq_nil_iff.mpr fun other hother =>
      hall other (List.mem_cons_of_mem _ hother))
    rw [hentry] at htold
    cases htold

/-- A listener that is in step, and has been told of all there is in the end, is never two sessions
behind: when it is told the next time, it would not be in step. -/
theorem InStep.oneAtATime (hstep : InStep name entries)
    (hall : (sessionsIn entries).length ≤ (toldOf name entries).length) :
    OneAtATime name entries := by
  rintro seen ⟨rest, rfl⟩
  by_contra hbehind
  rw [sessionsIn_append, toldOf_append, List.length_append, List.length_append] at hall
  have hmore : toldOf name rest ≠ [] := by
    intro hnone
    rw [hnone, List.length_nil] at hall
    omega
  obtain ⟨session, later, htold⟩ := List.ne_nil_iff_exists_cons.mp hmore
  obtain ⟨quiet, entry, others, rfl, hquiet, hentry, _⟩ := List.filterMap_eq_cons_iff.mp htold
  have hnone : toldOf name quiet = [] := List.filterMap_eq_nil_iff.mpr hquiet
  have hequal := hstep (seen ++ quiet) entry ⟨others, by simp⟩ (by rw [hentry]; rfl)
  have hlength := congrArg List.length hequal
  rw [toldOf_append, toldOf_append, hnone, toldOf_singleton, hentry, sessionsIn_append] at hlength
  simp at hlength
  omega

end

namespace World

variable {name : Name}

/-- A listener is registered for sessions for good, and every listener once. -/
structure Enlists (name : Name) (w : World σ) : Prop where
  forGood : ⟨.named name, false⟩ ∈ w.channel.sessionListeners.entries
  nodup : w.channel.sessionListeners.listeners.Nodup

theorem Enlists.of_eq {v w : World σ} (hv : v.Enlists name)
    (hlisteners : w.channel.sessionListeners = v.channel.sessionListeners) : w.Enlists name :=
  ⟨hlisteners ▸ hv.forGood, hlisteners ▸ hv.nodup⟩

theorem Enlists.register {w : World σ} (hw : w.Enlists name) (listener : Subscriber) (once : Bool) :
    (w.addSessionListener listener once).2.Enlists name :=
  ⟨Registry.mem_entries_add.mpr (.inl hw.forGood), Registry.nodup_add hw.nodup listener once⟩

theorem Enlists.unregister {w : World σ} (hw : w.Enlists name) {listener : Subscriber}
    (hother : listener ≠ .named name) : (w.removeSessionListener listener).2.Enlists name :=
  ⟨Registry.mem_entries_remove.mpr ⟨hw.forGood, hother.symm⟩, Registry.nodup_remove hw.nodup listener⟩

theorem Enlists.taken {w : World σ} (hw : w.Enlists name) : w.sessionTaken.Enlists name :=
  ⟨Registry.mem_entries_withoutOnce.mpr ⟨hw.forGood, rfl⟩, Registry.nodup_withoutOnce hw.nodup⟩

/-! ## As many as come in -/

variable {first second more : List (Entry σ)} {u v w : World (Diary σ)} {session : Session}

/-- What is written is fair to a listener: it hears of each session that comes in, and of none while
another is on its way to it.  If it was in step it still is. -/
structure Serves (name : Name) (more : List (Entry σ)) (v w : World (Diary σ)) : Prop where
  written : w.user.entries = v.user.entries ++ more
  enlisted : w.Enlists name
  fair : (toldOf name more).Perm (sessionsIn more)
  owed : OneAtATime name w.user.entries →
    (toldOf name v.user.entries).length < (sessionsIn v.user.entries).length → sessionsIn more = []
  order : OneAtATime name w.user.entries →
    toldOf name v.user.entries = sessionsIn v.user.entries → InStep name v.user.entries →
    toldOf name w.user.entries = sessionsIn w.user.entries ∧ InStep name w.user.entries

/-- What is written delivers a session to a listener that has come in before. -/
structure Delivers (name : Name) (session : Session) (more : List (Entry σ))
    (v w : World (Diary σ)) : Prop where
  written : w.user.entries = v.user.entries ++ more
  enlisted : w.Enlists name
  fair : (toldOf name more).Perm (session :: sessionsIn more)
  order : OneAtATime name w.user.entries →
    toldOf name v.user.entries ++ [session] = sessionsIn v.user.entries →
    InStep name v.user.entries →
    toldOf name w.user.entries = sessionsIn w.user.entries ∧ InStep name w.user.entries

/-- As long as a listener stays registered, what is done is fair to it. -/
def Served (name : Name) (v w : World (Diary σ)) : Prop :=
  v.Enlists name → ∃ more, Serves name more v w

/-- No sessions come in, and the listener is told of none. -/
theorem Serves.of_quiet (hwritten : w.user.entries = v.user.entries ++ more)
    (henlisted : w.Enlists name) (hsessions : sessionsIn more = []) (htold : toldOf name more = []) :
    Serves name more v w where
  written := hwritten
  enlisted := henlisted
  fair := by rw [htold, hsessions]
  owed _ _ := hsessions
  order _ hequal hstep := by
    rw [hwritten, toldOf_append, sessionsIn_append, htold, hsessions, List.append_nil,
      List.append_nil]
    exact ⟨hequal, hstep.append htold⟩

theorem Serves.told_eq_nil (ha : Serves name more v w) (hsessions : sessionsIn more = []) :
    toldOf name more = [] := by
  have hfair := ha.fair
  rw [hsessions] at hfair
  exact List.perm_nil.mp hfair

theorem Serves.trans (huv : Serves name first u v) (hvw : Serves name second v w) :
    Serves name (first ++ second) u w where
  written := by rw [hvw.written, huv.written, List.append_assoc]
  enlisted := hvw.enlisted
  fair := by
    rw [toldOf_append, sessionsIn_append]
    exact huv.fair.append hvw.fair
  owed hone howed := by
    have hone' := hone.of_prefix ⟨second, hvw.written.symm⟩
    have hfirst := huv.owed hone' howed
    have hsecond := hvw.owed hone (by
      rwa [huv.written, toldOf_append, sessionsIn_append, hfirst, huv.told_eq_nil hfirst,
        List.append_nil, List.append_nil])
    rw [sessionsIn_append, hfirst, hsecond]
    rfl
  order hone hequal hstep := by
    have hone' := hone.of_prefix ⟨second, hvw.written.symm⟩
    obtain ⟨hequal', hstep'⟩ := huv.order hone' hequal hstep
    exact hvw.order hone hequal' hstep'

theorem Served.trans (huv : Served name u v) (hvw : Served name v w) : Served name u w := by
  intro hu
  obtain ⟨first, hfirst⟩ := huv hu
  obtain ⟨second, hsecond⟩ := hvw hfirst.enlisted
  exact ⟨first ++ second, hfirst.trans hsecond⟩

theorem Served.of_unwritten (huser : w.user.entries = v.user.entries)
    (henlists : v.Enlists name → w.Enlists name) : Served name v w :=
  fun hv => ⟨[], .of_quiet (by rw [huser, List.append_nil]) (henlists hv) rfl rfl⟩

theorem served_note {deed : Deed} {w : World (Diary σ)}
    (hsession : Entry.session? ⟨w.plain, deed⟩ = none)
    (htold : Entry.told? name ⟨w.plain, deed⟩ = none) : Served name w (w.note deed) := by
  refine fun hw => ⟨[⟨w.plain, deed⟩], .of_quiet rfl (hw.of_eq rfl) ?_ ?_⟩
  · rw [sessionsIn_cons, hsession]
    rfl
  · rw [toldOf_singleton, htold]
    rfl

theorem minds_served (name : Name) : Minds (· = name) (@Served σ name) where
  same hsame := .of_unwritten (congrArg Diary.entries hsame.user) (·.of_eq hsame.sessionListeners)
  trans := .trans
  think _ _ := .of_unwritten rfl (·.of_eq rfl)
  register listener once _ := .of_unwritten rfl (·.register listener once)
  unregister listener _ hspared := .of_unwritten rfl (·.unregister (hspared name rfl))
  taken _ := .of_unwritten rfl (·.taken)
  called call w hplain := by
    refine served_note rfl ?_
    show call.told? name = none
    cases call with
    | stage | outcome => rfl
    | listener other notice =>
      cases notice with
      | closed => rfl
      | envelope envelope => cases envelope <;> first | rfl | cases hplain
  begun m w hturn := by
    have hentry : Entry.turn? ⟨w.plain, .begun m⟩ = none := hturn
    exact served_note (by rw [Entry.session?, hentry]) rfl

/-! ### Deliveries -/

theorem Delivers.after (huv : Serves name first u v) (hvw : Delivers name session second v w) :
    Delivers name session (first ++ second) u w where
  written := by rw [hvw.written, huv.written, List.append_assoc]
  enlisted := hvw.enlisted
  fair := by
    rw [toldOf_append, sessionsIn_append]
    exact (huv.fair.append hvw.fair).trans List.perm_middle
  order hone hequal hstep := by
    have hone' := hone.of_prefix ⟨second, hvw.written.symm⟩
    have howed : (toldOf name u.user.entries).length < (sessionsIn u.user.entries).length := by
      rw [← hequal, List.length_append]
      exact Nat.lt_succ_self _
    have hfirst := huv.owed hone' howed
    have hnone := huv.told_eq_nil hfirst
    refine hvw.order hone ?_ ?_
    · rwa [huv.written, toldOf_append, sessionsIn_append, hfirst, hnone, List.append_nil,
        List.append_nil]
    · rw [huv.written]
      exact hstep.append hnone

theorem Delivers.andThen (huv : Delivers name session first u v) (hvw : Serves name second v w) :
    Delivers name session (first ++ second) u w where
  written := by rw [hvw.written, huv.written, List.append_assoc]
  enlisted := hvw.enlisted
  fair := by
    rw [toldOf_append, sessionsIn_append]
    exact huv.fair.append hvw.fair
  order hone hequal hstep := by
    have hone' := hone.of_prefix ⟨second, hvw.written.symm⟩
    obtain ⟨hequal', hstep'⟩ := huv.order hone' hequal hstep
    exact hvw.order hone hequal' hstep'

/-- A session that has come in is delivered. -/
theorem Delivers.arrived {entry : Entry σ} (hsession : entry.session? = some session)
    (htold : entry.told? name = none) (hv : v.user.entries = u.user.entries ++ [entry])
    (hvw : Delivers name session more v w) : Serves name (entry :: more) u w where
  written := by rw [hvw.written, hv, List.append_assoc]; rfl
  enlisted := hvw.enlisted
  fair := by
    rw [← List.singleton_append, toldOf_append, toldOf_singleton, htold, sessionsIn_append,
      sessionsIn_cons, hsession]
    exact hvw.fair
  owed hone howed := by
    have hinit : u.user.entries ++ [entry] <+: w.user.entries := by
      rw [hvw.written, hv]
      exact List.prefix_append _ _
    rw [hone.not_session hinit howed htold] at hsession
    cases hsession
  order hone hequal hstep := by
    have hnone : toldOf name [entry] = [] := by rw [toldOf_singleton, htold]; rfl
    refine hvw.order hone ?_ ?_
    · rw [hv, toldOf_append, hnone, sessionsIn_snoc, hsession, hequal, List.append_nil]
      rfl
    · rw [hv]
      exact hstep.append hnone

section

variable {quiet : Call → Prop} {h : Host (Diary σ)}
  (hf : Obeys h (@Served σ name))
include hf

theorem callOut_served {call : Call} (hother : call.told? name = none) (w : World (Diary σ)) :
    Served name w (w.callOut h call) :=
  callOut_noted (minds_served name) hf (fun _ => served_note rfl hother) w

/-- The listener is told of the session, and may then do what it likes. -/
theorem callOut_delivers (session : Session) {w : World (Diary σ)} (hw : w.Enlists name) :
    ∃ more, Delivers name session more w
      (w.callOut h (.listener name (.envelope (.session session)))) := by
  let call := Call.listener name (.envelope (.session session))
  let entry : Entry σ := ⟨({ w with depth := w.depth + 1 } : World (Diary σ)).plain, .called call⟩
  have hdone : Served name (w.entered call) (w.callOut h call) :=
    callOut_obeys (minds_served name) hf _ w
  obtain ⟨more, hmore⟩ := hdone (hw.of_eq rfl)
  have htold : entry.told? name = some session := if_pos rfl
  have hentered : (w.entered call).user.entries = w.user.entries ++ [entry] := rfl
  refine ⟨entry :: more, ?_, hmore.enlisted, ?_, fun hone hequal hstep => ?_⟩
  · rw [hmore.written, hentered, List.append_assoc]
    rfl
  · rw [← List.singleton_append, toldOf_append, toldOf_singleton, htold]
    exact hmore.fair.cons session
  · refine hmore.order hone ?_ ?_
    · rw [hentered, toldOf_append, toldOf_singleton, htold, sessionsIn_snoc]
      exact hequal.trans (List.append_nil _).symm
    · rw [hentered]
      refine hstep.snoc fun _ => ?_
      rw [toldOf_append, toldOf_singleton, htold]
      exact hequal

/-- Those in front of the listener are told before it, and those behind it afterwards. -/
theorem deliverSession_delivers (session : Session) {w : World (Diary σ)} (hw : w.Enlists name) :
    ∃ more, Delivers name session more w (w.deliverSession h session) := by
  have hc := hf.carries (minds_served name)
  have hmem : Subscriber.named name ∈ w.channel.sessionListeners.listeners :=
    Registry.mem_listeners_iff.mpr ⟨false, hw.forGood⟩
  obtain ⟨front, back, hsplit⟩ := List.append_of_mem hmem
  have hnodup := hw.nodup
  rw [hsplit, List.nodup_middle, List.nodup_cons, List.mem_append, not_or] at hnodup
  have hothers : ∀ subscriber, subscriber ≠ .named name → ∀ w : World (Diary σ),
      Served name w (w.tellSession h session subscriber) := by
    intro subscriber hother w
    cases subscriber with
    | named other =>
      have hnone : (Call.listener other (.envelope (.session session))).told? name = none :=
        if_neg fun heq => hother (congrArg Subscriber.named heq)
      exact (hc.still (still_record _ w)).trans (callOut_served hf hnone _)
    | handshake number => exact handshakeReceives_carries hc number session w
  have hfold : w.deliverSession h session = back.foldl (fun w subscriber =>
      w.tellSession h session subscriber) ((front.foldl (fun w subscriber =>
        w.tellSession h session subscriber) w.sessionTaken).tellSession h session (.named name)) := by
    show w.channel.sessionListeners.listeners.foldl _ w.sessionTaken = _
    rw [hsplit, List.foldl_append, List.foldl_cons]
  let event := Event.notified name (.envelope (.session session))
  have hfront : Served name w ((front.foldl (fun w subscriber =>
      w.tellSession h session subscriber) w.sessionTaken).record event) :=
    ((hc.taken w).trans (foldl_hears hc.toHears
      (fun a ha => hothers a fun heq => hnodup.1.1 (heq ▸ ha)) _)).trans
      (hc.still (still_record event _))
  obtain ⟨first, hfirst⟩ := hfront hw
  obtain ⟨told, htold⟩ := callOut_delivers hf session hfirst.enlisted
  obtain ⟨last, hlast⟩ := foldl_hears hc.toHears
    (fun a ha => hothers a fun heq => hnodup.1.2 (heq ▸ ha)) _ htold.enlisted
  rw [hfold]
  exact ⟨first ++ (told ++ last), Delivers.after hfirst (htold.andThen hlast)⟩

theorem closeLink_served (w : World (Diary σ)) : Served name w (w.closeLink h).2 := by
  have hc := hf.carries (minds_served name)
  have hstruck : Served name w w.struck :=
    .of_unwritten (congrArg Diary.entries (user_struck w)) (·.of_eq (by rw [channel_struck]))
  rw [closeLink_eq]
  split
  · exact hstruck.trans (deliverClose_hears hc.toHears (fun _ _ => callOut_served hf rfl) _)
  · exact hstruck

theorem turned_served {m : Moment} {turn : Turn} {w : World (Diary σ)}
    (hturn : w.turn? m = some turn) : Served name w ((w.note (.begun m)).turned h turn) := by
  let entry : Entry σ := ⟨w.plain, .begun m⟩
  let ready := (w.note (.begun m)).readied turn
  have hentry : entry.turn? = some turn := hturn
  have hready : ready.user.entries = w.user.entries ++ [entry] :=
    congrArg Diary.entries (user_readied _ _)
  have henlists : (w.note (.begun m)).Enlists name → ready.Enlists name :=
    (·.of_eq (by rw [channel_readied]))
  by_cases htakes : ∃ session, turn = .takes session
  · obtain ⟨session, rfl⟩ := htakes
    have hsession : entry.session? = some session := by rw [Entry.session?, hentry]
    have hclosed : Served name ready
        (if session.state.isTerminal then (ready.closeLink h).2 else ready) := by
      split
      · exact closeLink_served hf ready
      · exact .of_unwritten rfl id
    intro hw
    obtain ⟨closing, hclosing⟩ := hclosed (henlists (hw.of_eq rfl))
    obtain ⟨told, htold⟩ := deliverSession_delivers hf session hclosing.enlisted
    rw [turned_eq]
    exact ⟨_, (Delivers.after hclosing htold).arrived hsession rfl hready⟩
  · have hm := minds_served (σ := σ) name
    have hsession : entry.session? = none := by
      rw [Entry.session?, hentry]
      cases turn <;> first | rfl | exact absurd ⟨_, rfl⟩ htakes
    have hquiet : Served name w ready :=
      (served_note hsession rfl).trans (.of_unwritten hready henlists)
    exact hquiet.trans (turned_carries hm.refl hm.trans (closeLink_served hf)
      (fun _ => .of_unwritten rfl (·.of_eq rfl))
      (fun session heq => absurd ⟨session, heq⟩ htakes) _)

end

end World

namespace Program

variable {name : Name} {moments : List Moment} {w : World σ}

/-- Of a listener that nobody unregisters, whatever is done is fair to it. -/
theorem serves_chronicle (program : Program σ)
    (hscript : ∀ call user, (program.script call user).1.All
      fun request => request.dismissed? ≠ some name)
    (hmoments : ∀ m ∈ moments, m.dismissed? ≠ some name) (hw : w.Enlists name) (depth : Nat) :
    let entries := (program.chronicle depth moments w).entries
    (toldOf name entries).Perm (sessionsIn entries) ∧
      (OneAtATime name entries →
        toldOf name entries = sessionsIn entries ∧ InStep name entries) := by
  have hm := World.minds_served (σ := σ) name
  have hspares : ∀ m : Moment, m.dismissed? ≠ some name →
      ∀ other, m.dismissed? = some other → ¬other = name := by
    rintro m hm other hother rfl
    exact hm hother
  obtain ⟨more, hmore⟩ := World.recount_obeys hm hspares
    (fun _ hf _ _ _ hturn => World.turned_served hf hturn) hscript depth hmoments w.withDiary
    ⟨hw.forGood, hw.nodup⟩
  have hentries : (program.chronicle depth moments w).entries = more := hmore.written
  exact ⟨hentries ▸ hmore.fair, fun hone => hmore.order hone rfl .nil⟩

/-- In every run, a listener that is registered for sessions for good hears of each session that
comes in exactly once, whatever the callbacks do.  It hears of them in the order in which they come
in, each before another has come in, if and only if no two of them are ever on their way to it; and
then the channel is in the state of a session when it hears of it. -/
theorem told_in_step_iff (program : Program σ)
    (hscript : ∀ call user, (program.script call user).1.All
      fun request => request.dismissed? ≠ some name)
    (hmoments : ∀ m ∈ moments, m.dismissed? ≠ some name) (hw : w.Enlists name) (depth : Nat) :
    let c := program.chronicle depth moments w
    (toldOf name c.entries).Perm (sessionsIn c.entries) ∧
    (InStep name c.entries ↔ OneAtATime name c.entries) ∧
    (OneAtATime name c.entries →
      toldOf name c.entries = sessionsIn c.entries ∧
      ∀ seen entry session, seen ++ [entry] <+: c.entries → entry.told? name = some session →
        entry.world.channel.standing.state = session.state) := by
  intro c
  obtain ⟨hfair, hordered⟩ := program.serves_chronicle hscript hmoments hw depth
  refine ⟨hfair, ⟨fun hstep => ?_, fun hone => (hordered hone).2⟩, fun hone => ?_⟩
  · exact hstep.oneAtATime (Nat.le_of_eq hfair.length_eq.symm)
  · obtain ⟨hequal, hstep⟩ := hordered hone
    refine ⟨hequal, fun seen entry session hinit htold => ?_⟩
    have hseen : toldOf name seen ++ [session] = sessionsIn seen := by
      have hnow := hstep seen entry hinit (by rw [htold]; rfl)
      rwa [toldOf_append, toldOf_singleton, htold] at hnow
    obtain ⟨rest, hrest⟩ := hinit
    have hget : c.entries[seen.length]? = some entry := by
      rw [← hrest, List.append_assoc, List.getElem?_append_right (Nat.le_refl _), Nat.sub_self]
      rfl
    have htake : c.entries.take seen.length = seen := by
      rw [← hrest, List.append_assoc, List.take_left]
    have hreckoned := (program.always_reckoned depth moments w).within _ _ hget
    rw [htake] at hreckoned
    rw [hreckoned.standing, ← hseen, List.foldl_append]
    exact Standing.state_after _ session

end Program

/-- A program whose listener `A` hands the channel a session when it is first told of one. -/
def eager : Program Bool where
  script call spent :=
    if call.name = "A" ∧ spent = false then
      (.ask (.receive (.session { header := { id := some "s" }, state := .authenticating }))
        fun _ => .done, true)
    else (.done, spent)
  transform _ _ _ item spent := (some item, spent)

/-- A session comes in that two listeners are told of. -/
def negotiation : List Moment :=
  [.request (.receive (.session { header := { id := some "s" }, state := .negotiating }))]

/-- A listener in front of the eager one is in step. -/
theorem Program.told_in_step_iff_eager :
    let w : World Bool :=
      { user := false
        channel := { sessionListeners := ⟨[⟨.named "B", false⟩, ⟨.named "A", false⟩]⟩ } }
    let c := eager.chronicle 2 negotiation w
    OneAtATime "B" c.entries ∧
      (toldOf "B" c.entries).map (·.state) = [.negotiating, .authenticating] := by
  intro w c
  have hscript : ∀ call user, (eager.script call user).1.All
      fun request => request.dismissed? ≠ some "B" := by
    intro call user
    unfold eager
    dsimp only
    split
    · exact ⟨(by decide), fun _ => trivial⟩
    · trivial
  have hmoments : ∀ m ∈ negotiation, m.dismissed? ≠ some "B" := by
    intro m hm
    cases List.mem_singleton.mp hm
    exact fun heq => by cases heq
  have hw : w.Enlists "B" := ⟨List.mem_cons_self, by decide⟩
  obtain ⟨_, _, htold⟩ := eager.told_in_step_iff hscript hmoments hw 2
  have hone : OneAtATime "B" c.entries := by decide
  refine ⟨hone, ?_⟩
  rw [(htold hone).1]
  rfl

/-- A listener behind the eager one hears of the second session first, and of the first when the
channel is in the state of the second. -/
theorem Program.told_out_of_step :
    let w : World Bool :=
      { user := false
        channel := { sessionListeners := ⟨[⟨.named "A", false⟩, ⟨.named "B", false⟩]⟩ } }
    let c := eager.chronicle 2 negotiation w
    (sessionsIn c.entries).map (·.state) = [.negotiating, .authenticating] ∧
      (c.entries.filterMap fun entry => (entry.told? "B").map fun session =>
        (session.state, entry.world.channel.standing.state)) =
        [(.authenticating, .authenticating), (.negotiating, .authenticating)] :=
  ⟨rfl, rfl⟩

end Courier
