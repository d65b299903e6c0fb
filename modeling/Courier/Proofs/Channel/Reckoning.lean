/-
What can be reckoned from the chronicle of a run.

Where an endpoint stands in its session, how often its link was asked to close, whether the link is
still open and whether the pings have been stopped depend on nothing but the turns that have been
taken: at every moment of every run, also while callbacks are running, they are what the turns so far
make of the start (`always_reckoned`).
-/
import Courier.Proofs.Channel.Watching

namespace Courier

variable {σ : Type}

/-! ## Reading an entry -/

namespace Entry

/-- The session that comes in. -/
def session? (entry : Entry σ) : Option Session :=
  match entry.turn? with
  | some (.takes session) => some session
  | _ => none

/-- Whether the link is asked to close. -/
def rings (entry : Entry σ) : Bool :=
  entry.turn?.any Turn.rings

/-- Whether the link is asked to close and does not fail to. -/
def closes (entry : Entry σ) : Bool :=
  entry.rings && !entry.world.link.failsToClose

/-- Whether the pings are stopped.  What the program does to the link behind the back of the channel
stops them only if the channel hears of it. -/
def stops (entry : Entry σ) : Bool :=
  match entry.turn? with
  | some .closesLink => entry.world.hearsClose
  | some .abandons => true
  | _ => entry.rings

end Entry

/-- When the pings were first stopped. -/
def stopTime? (entries : List (Entry σ)) : Option Nat :=
  (entries.find? Entry.stops).map (·.world.now)

/-- The sessions that have come in, in order. -/
def sessionsIn (entries : List (Entry σ)) : List Session :=
  entries.filterMap Entry.session?

/-- How things stand after some entries have been written. -/
structure Reckoned (start : World σ) (entries : List (Entry σ)) (w : World σ) : Prop where
  standing : w.channel.standing = (sessionsIn entries).foldl Standing.after start.channel.standing
  closeCalls : w.link.closeCalls = start.link.closeCalls + entries.countP Entry.rings
  connected : w.link.connected = (start.link.connected && !entries.any Entry.closes)
  keepAlive : w.channel.keepAlive =
    (stopTime? entries).elim start.channel.keepAlive start.channel.keepAlive.stop

/-- What an entry makes of how things stood. -/
structure Entry.Moves (entry : Entry σ) (v w : World σ) : Prop where
  standing : w.channel.standing =
    entry.session?.elim v.channel.standing (v.channel.standing.after ·)
  closeCalls : w.link.closeCalls = v.link.closeCalls + if entry.rings then 1 else 0
  connected : w.link.connected = (v.link.connected && !entry.closes)
  keepAlive : w.channel.keepAlive =
    if entry.stops then v.channel.keepAlive.stop entry.world.now else v.channel.keepAlive

theorem sessionsIn_cons (entry : Entry σ) (entries : List (Entry σ)) :
    sessionsIn (entry :: entries) = entry.session?.toList ++ sessionsIn entries := by
  unfold sessionsIn
  cases hsession : entry.session? <;> simp [hsession]

theorem sessionsIn_append (first second : List (Entry σ)) :
    sessionsIn (first ++ second) = sessionsIn first ++ sessionsIn second :=
  List.filterMap_append

theorem sessionsIn_snoc (entries : List (Entry σ)) (entry : Entry σ) :
    sessionsIn (entries ++ [entry]) = sessionsIn entries ++ entry.session?.toList := by
  rw [sessionsIn_append, sessionsIn_cons]
  exact congrArg _ (List.append_nil _)

theorem Reckoned.snoc {start v w : World σ} {entries : List (Entry σ)} {entry : Entry σ}
    (hv : Reckoned start entries v) (hmoves : entry.Moves v w) :
    Reckoned start (entries ++ [entry]) w where
  standing := by
    rw [hmoves.standing, hv.standing, sessionsIn_snoc]
    cases entry.session? <;> simp
  closeCalls := by
    rw [hmoves.closeCalls, hv.closeCalls, List.countP_append, List.countP_singleton, Nat.add_assoc]
  connected := by
    rw [hmoves.connected, hv.connected]
    simp [Bool.and_assoc]
  keepAlive := by
    rw [hmoves.keepAlive, hv.keepAlive]
    unfold stopTime?
    rw [List.find?_append]
    cases hfound : entries.find? Entry.stops <;> cases hstops : entry.stops <;> simp [hstops]

theorem Reckoned.same {start v w : World σ} {entries : List (Entry σ)}
    (hv : Reckoned start entries v) (hstanding : w.channel.standing = v.channel.standing)
    (hkeepAlive : w.channel.keepAlive = v.channel.keepAlive)
    (hconnected : w.link.connected = v.link.connected)
    (hcloseCalls : w.link.closeCalls = v.link.closeCalls) : Reckoned start entries w where
  standing := hstanding.trans hv.standing
  closeCalls := hcloseCalls.trans hv.closeCalls
  connected := hconnected.trans hv.connected
  keepAlive := hkeepAlive.trans hv.keepAlive

theorem Reckoned.keepAlive_of_stops {start w : World σ} {entries : List (Entry σ)}
    {entry : Entry σ} (hw : Reckoned start entries w) (hmem : entry ∈ entries)
    (hstops : entry.stops = true) :
    ∃ time, w.channel.keepAlive = start.channel.keepAlive.stop time := by
  obtain ⟨first, hfirst⟩ := Option.isSome_iff_exists.mp (List.find?_isSome.mpr ⟨_, hmem, hstops⟩)
  refine ⟨first.world.now, hw.keepAlive.trans ?_⟩
  rw [stopTime?, hfirst]
  rfl

theorem Entry.moves_of_quiet {entry : Entry σ} (hturn : entry.turn? = none) (w : World σ) :
    entry.Moves w w where
  standing := by simp [Entry.session?, hturn]
  closeCalls := by simp [Entry.rings, hturn]
  connected := by simp [Entry.closes, Entry.rings, hturn]
  keepAlive := by simp [Entry.stops, Entry.rings, hturn]

/-! ## At every moment -/

/-- The chronicle that a diary is. -/
def World.chronicled (w : World (Diary σ)) : Chronicle σ where
  entries := w.entries
  final := w.plain

theorem Program.chronicle_eq (program : Program σ) (depth : Nat) (moments : List Moment)
    (w : World σ) :
    program.chronicle depth moments w =
      (w.withDiary.recount (program.watched depth) moments).chronicled :=
  congrArg (Chronicle.mk _) (World.recount_plain program depth moments w.withDiary).symm

namespace Chronicle.Always

variable {chronicle : Chronicle σ} {P : List (Entry σ) → World σ → Prop}

/-- As long as nothing is written, only the present changes. -/
theorem kept (halways : chronicle.Always P) {w : World σ} (hw : P chronicle.entries w) :
    (Chronicle.mk chronicle.entries w).Always P :=
  ⟨halways.within, hw⟩

theorem and {Q : List (Entry σ) → World σ → Prop} (hP : chronicle.Always P)
    (hQ : chronicle.Always Q) : chronicle.Always fun entries w => P entries w ∧ Q entries w :=
  ⟨fun k entry hget => ⟨hP.within k entry hget, hQ.within k entry hget⟩, hP.final, hQ.final⟩

theorem snoc (halways : chronicle.Always P) {deed : Deed} {w : World σ}
    (hw : P (chronicle.entries ++ [Entry.mk chronicle.final deed]) w) :
    (Chronicle.mk (chronicle.entries ++ [Entry.mk chronicle.final deed]) w).Always P where
  within k entry hget := by
    have hget' : (chronicle.entries ++ [Entry.mk chronicle.final deed])[k]? = some entry := hget
    rcases Nat.lt_or_ge k chronicle.entries.length with hlt | hge
    · rw [List.getElem?_append_left hlt] at hget'
      show P ((chronicle.entries ++ [Entry.mk chronicle.final deed]).take k) entry.world
      rw [List.take_append_of_le_length (Nat.le_of_lt hlt)]
      exact halways.within k entry hget'
    · rw [List.getElem?_append_right hge, List.getElem?_singleton] at hget'
      split at hget'
      · cases hget'
        have hlast : k = chronicle.entries.length := by omega
        show P ((chronicle.entries ++ [Entry.mk chronicle.final deed]).take k) chronicle.final
        rw [hlast, List.take_left]
        exact halways.final
      · cases hget'
  final := hw

end Chronicle.Always

namespace World

variable {start : World σ}

/-- Things are at every moment as they can be reckoned. -/
def Reckons (start : World σ) (w : World (Diary σ)) : Prop :=
  w.chronicled.Always (Reckoned start)

theorem always_withDiary {P : List (Entry σ) → World σ → Prop} {w : World σ} (hw : P [] w) :
    w.withDiary.chronicled.Always P where
  within k entry hget := by
    have hnil : ([] : List (Entry σ))[k]? = some entry := hget
    cases hnil
  final := hw

theorem reckons_withDiary (w : World σ) : Reckons w w.withDiary :=
  always_withDiary ⟨rfl, rfl, (Bool.and_true _).symm, rfl⟩

theorem Reckons.kept {v w : World (Diary σ)} (hv : Reckons start v) (huser : w.user.entries = v.user.entries)
    (hstanding : w.channel.standing = v.channel.standing)
    (hkeepAlive : w.channel.keepAlive = v.channel.keepAlive)
    (hconnected : w.link.connected = v.link.connected)
    (hcloseCalls : w.link.closeCalls = v.link.closeCalls) : Reckons start w := by
  have hnow : Reckoned start v.entries w.plain :=
    hv.final.same hstanding hkeepAlive hconnected hcloseCalls
  have hw := Chronicle.Always.kept hv hnow
  unfold Reckons chronicled entries
  rw [huser]
  exact hw

/-- What a turn does at once can be reckoned. -/
theorem Reckons.moved {v w : World (Diary σ)} (hv : Reckons start v) (deed : Deed)
    (huser : w.user.entries = (v.note deed).user.entries)
    (hmoves : Entry.Moves ⟨v.plain, deed⟩ v.plain w.plain) : Reckons start w := by
  have hw := Chronicle.Always.snoc hv (hv.final.snoc hmoves)
  unfold Reckons chronicled entries
  rw [huser]
  exact hw

/-- More may be written into the diary, and what could be reckoned still can be. -/
structure Continues (start : World σ) (v w : World (Diary σ)) : Prop where
  grown : v.user.entries <+: w.user.entries
  reckons : Reckons start v → Reckons start w

theorem Continues.of_same {v w : World (Diary σ)} (huser : w.user.entries = v.user.entries)
    (hstanding : w.channel.standing = v.channel.standing)
    (hkeepAlive : w.channel.keepAlive = v.channel.keepAlive)
    (hconnected : w.link.connected = v.link.connected)
    (hcloseCalls : w.link.closeCalls = v.link.closeCalls) : Continues start v w where
  grown := huser ▸ List.prefix_refl _
  reckons hv := hv.kept huser hstanding hkeepAlive hconnected hcloseCalls

theorem continues_note {deed : Deed} {w : World (Diary σ)}
    (hquiet : Entry.turn? ⟨w.plain, deed⟩ = none) : Continues start w (w.note deed) where
  grown := List.prefix_append _ _
  reckons hw := hw.moved deed rfl (Entry.moves_of_quiet hquiet _)

theorem minds_continues (start : World σ) : Minds (fun _ => False) (Continues start) where
  same hsame := .of_same (congrArg Diary.entries hsame.user) hsame.standing hsame.keepAlive
    hsame.connected hsame.closeCalls
  trans huv hvw := ⟨huv.grown.trans hvw.grown, fun hu => hvw.reckons (huv.reckons hu)⟩
  think _ _ := .of_same rfl rfl rfl rfl rfl
  register _ _ _ := .of_same rfl rfl rfl rfl rfl
  unregister _ _ _ := .of_same rfl rfl rfl rfl rfl
  taken _ := .of_same rfl rfl rfl rfl rfl
  called _ _ _ := continues_note rfl
  begun _ _ hturn := continues_note hturn

/-- What a turn that asks for a close makes of how things stood, once the pings are as they should
be. -/
theorem moves_struck {m : Moment} {turn : Turn} {u w : World (Diary σ)}
    (hturn : w.turn? m = some turn) (hrings : turn.rings = true)
    (hstanding : u.channel.standing =
      ((w.note (.begun m)).readied turn).struck.channel.standing)
    (hlink : u.link = ((w.note (.begun m)).readied turn).struck.link)
    (hkeepAlive : u.channel.keepAlive =
      if Entry.stops ⟨w.plain, .begun m⟩ then w.channel.keepAlive.stop w.now
      else w.channel.keepAlive) :
    Entry.Moves ⟨w.plain, .begun m⟩ w.plain u.plain := by
  have hentry : Entry.turn? ⟨w.plain, .begun m⟩ = some turn := hturn
  have hrung : Entry.rings ⟨w.plain, .begun m⟩ = true := by
    rw [Entry.rings, hentry]
    exact hrings
  refine ⟨?_, ?_, ?_, hkeepAlive⟩
  · show u.channel.standing = _
    rw [hstanding, channel_struck, standing_readied, Entry.session?, hentry]
    cases turn <;> rfl
  · show u.link.closeCalls = _
    rw [hlink, closeCalls_struck, link_readied, hrung]
    rfl
  · show u.link.connected = _
    rw [hlink, connected_struck, link_readied, Entry.closes, hrung, Bool.true_and, Bool.not_not]
    rfl

/-- What a turn does before anybody is told of it can be reckoned.  A silent channel may stop its
pings only after the close. -/
theorem Reckons.struck {m : Moment} {turn : Turn} {w : World (Diary σ)} (hw : Reckons start w)
    (hturn : w.turn? m = some turn) (hrings : turn.rings = true)
    (hheard : turn = .disconnects → w.hearsClose = true) :
    Reckons start ((w.note (.begun m)).readied turn).struck := by
  have hentry : Entry.turn? ⟨w.plain, .begun m⟩ = some turn := hturn
  refine hw.moved (.begun m) ?_ (moves_struck hturn hrings rfl rfl ?_)
  · rw [user_struck, user_readied]
  rw [keepAlive_struck, hearsClose_readied, Entry.stops, Entry.rings, hentry, Option.any_some, hrings]
  cases turn with
  | takes session =>
    have hterminal : session.state.isTerminal = true := hrings
    have hstopped : ((w.note (.begun m)).readied (.takes session)).channel.keepAlive =
        w.channel.keepAlive.stop w.now := by
      unfold readied
      dsimp only
      rw [if_pos hterminal]
      rfl
    rw [hstopped, KeepAlive.stop_stop, ite_self]
    rfl
  | closes =>
    show (if _ then (w.channel.keepAlive.stop w.now).stop _ else w.channel.keepAlive.stop w.now) = _
    rw [KeepAlive.stop_stop, ite_self]
    rfl
  | closesLink => rfl
  | disconnects =>
    have hheard' : (w.note (.begun m)).hearsClose = true := hheard rfl
    rw [hheard']
    rfl
  | abandons => cases hrings

/-- After a silence that is too long, the pings stop whether or not the channel hears of the close. -/
theorem Reckons.silenced {m : Moment} {w : World (Diary σ)} (hw : Reckons start w)
    (hturn : w.turn? m = some .disconnects) :
    Reckons start (w.note (.begun m)).struck.stopKeepAlive := by
  have hentry : Entry.turn? ⟨w.plain, .begun m⟩ = some .disconnects := hturn
  refine hw.moved (.begun m) (congrArg Diary.entries (user_struck _))
    (moves_struck hturn rfl rfl rfl ?_)
  show (w.note (.begun m)).struck.channel.keepAlive.stop (w.note (.begun m)).struck.now = _
  rw [keepAlive_struck, now_struck, Entry.stops, Entry.rings, hentry, apply_ite (KeepAlive.stop _),
    KeepAlive.stop_stop, ite_self]
  rfl

/-- A turn that asks for no close can be reckoned, too. -/
theorem Reckons.readied {m : Moment} {turn : Turn} {w : World (Diary σ)} (hw : Reckons start w)
    (hturn : w.turn? m = some turn) (hquiet : turn.rings = false) :
    Reckons start ((w.note (.begun m)).readied turn) := by
  have hentry : Entry.turn? ⟨w.plain, .begun m⟩ = some turn := hturn
  have hunrung : Entry.rings ⟨w.plain, .begun m⟩ = false := by
    rw [Entry.rings, hentry]
    exact hquiet
  refine hw.moved (.begun m) ?_ ⟨?_, ?_, ?_, ?_⟩
  · rw [user_readied]
  · show ((w.note (.begun m)).readied turn).channel.standing = _
    rw [standing_readied, Entry.session?, hentry]
    cases turn <;> rfl
  · show ((w.note (.begun m)).readied turn).link.closeCalls = _
    rw [link_readied, hunrung]
    rfl
  · show ((w.note (.begun m)).readied turn).link.connected = _
    rw [link_readied, Entry.closes, hunrung]
    exact (Bool.and_true _).symm
  · show ((w.note (.begun m)).readied turn).channel.keepAlive = _
    rw [Entry.stops, hentry, hunrung]
    cases turn with
    | takes session =>
      have hgoing : session.state.isTerminal ≠ true := Bool.eq_false_iff.mp hquiet
      unfold World.readied
      dsimp only
      rw [if_neg hgoing]
      rfl
    | abandons => rfl
    | closes | closesLink | disconnects => cases hquiet

/-! ## Turns that can be reckoned -/

section

variable {m : Moment} {turn : Turn} {w : World (Diary σ)} (hturn : w.turn? m = some turn)
include hturn

theorem struck_continues (hrings : turn.rings = true)
    (hheard : turn = .disconnects → w.hearsClose = true) :
    Continues start w ((w.note (.begun m)).readied turn).struck := by
  refine ⟨?_, fun hw => hw.struck hturn hrings hheard⟩
  rw [user_struck, user_readied]
  exact List.prefix_append _ _

theorem readied_continues (hquiet : turn.rings = false) :
    Continues start w ((w.note (.begun m)).readied turn) := by
  refine ⟨?_, fun hw => hw.readied hturn hquiet⟩
  rw [user_readied]
  exact List.prefix_append _ _

end

theorem silenced_continues {m : Moment} {w : World (Diary σ)}
    (hturn : w.turn? m = some .disconnects) :
    Continues start w (w.note (.begun m)).struck.stopKeepAlive := by
  refine ⟨?_, fun hw => hw.silenced hturn⟩
  show _ <+: (w.note (.begun m)).struck.user.entries
  rw [user_struck]
  exact List.prefix_append _ _

section

variable {h : Host (Diary σ)} (hf : Obeys h (Continues start))
include hf

theorem callOut_continues (call : Call) (w : World (Diary σ)) :
    Continues start w (w.callOut h call) :=
  callOut_noted (minds_continues start) hf (fun _ => continues_note rfl) w

theorem deliverSession_continues (session : Session) (w : World (Diary σ)) :
    Continues start w (w.deliverSession h session) :=
  deliverSession_carries (hf.carries (minds_continues start)) session
    (fun _ => callOut_continues hf _) w

theorem deliverClose_continues (w : World (Diary σ)) : Continues start w (w.deliverClose h) :=
  deliverClose_hears (hf.carries (minds_continues start)).toHears
    (fun _ _ => callOut_continues hf _) w

/-- What comes of a turn can be reckoned. -/
theorem turned_continues {m : Moment} {turn : Turn} {w : World (Diary σ)}
    (hturn : w.turn? m = some turn) : Continues start w ((w.note (.begun m)).turned h turn) := by
  have hm := minds_continues start
  rw [turned_eq, closeLink_eq, hearsClose_readied]
  have hclosed : turn.rings = true → turn ≠ .disconnects → Continues start w
      (if (w.note (.begun m)).hearsClose then
        ((w.note (.begun m)).readied turn).struck.deliverClose h
      else ((w.note (.begun m)).readied turn).struck) := by
    intro hrings hne
    have hstruck : Continues start w ((w.note (.begun m)).readied turn).struck :=
      struck_continues hturn hrings fun hdisconnects => absurd hdisconnects hne
    split
    · exact hm.trans hstruck (deliverClose_continues hf _)
    · exact hstruck
  cases turn with
  | takes session =>
    refine hm.trans ?_ (deliverSession_continues hf session _)
    split
    · rename_i hterminal
      exact hclosed hterminal nofun
    · rename_i hgoing
      exact readied_continues hturn (Bool.eq_false_iff.mpr hgoing)
  | closes | closesLink => exact hclosed rfl nofun
  | disconnects =>
    show Continues start w (World.stopKeepAlive (if (w.note (.begun m)).hearsClose then
      (w.note (.begun m)).struck.deliverClose h else (w.note (.begun m)).struck))
    split
    · rename_i hhears
      have hstruck : Continues start w (w.note (.begun m)).struck :=
        struck_continues hturn rfl fun _ => hhears
      have htold : Continues start _ _ := deliverClose_continues hf (w.note (.begun m)).struck
      refine ⟨(hm.trans hstruck htold).grown, fun hw => ?_⟩
      -- The channel has heard of the close, so the pings have been stopped already.
      have hu := htold.reckons (hstruck.reckons hw)
      have hmem : ⟨w.plain, .begun m⟩ ∈ ((w.note (.begun m)).struck.deliverClose h).user.entries := by
        refine htold.grown.subset ?_
        rw [user_struck]
        exact List.mem_append_right _ (List.mem_singleton.mpr rfl)
      have hentry : Entry.turn? ⟨w.plain, .begun m⟩ = some .disconnects := hturn
      have hstops : Entry.stops ⟨w.plain, .begun m⟩ = true := by
        rw [Entry.stops, Entry.rings, hentry]
        rfl
      obtain ⟨time, hstopped⟩ := hu.final.keepAlive_of_stops hmem hstops
      refine hu.kept rfl rfl ?_ rfl rfl
      show ((w.note (.begun m)).struck.deliverClose h).channel.keepAlive.stop _ = _
      exact (congrArg (KeepAlive.stop _) hstopped).trans
        ((KeepAlive.stop_stop _ _ _).trans hstopped.symm)
    · exact silenced_continues hturn
  | abandons => exact readied_continues hturn rfl

end

end World

/-- At every moment of a run, also while callbacks are running, the session, the link and the pings
are as they can be reckoned from what has been done so far. -/
theorem Program.always_reckoned (program : Program σ) (depth : Nat) (moments : List Moment)
    (w : World σ) : (program.chronicle depth moments w).Always (Reckoned w) := by
  rw [chronicle_eq]
  exact (World.recount_within (World.minds_continues w)
    (fun _ hf _ _ _ hturn => World.turned_continues hf hturn) depth moments w.withDiary).reckons
    (World.reckons_withDiary w)

end Courier
