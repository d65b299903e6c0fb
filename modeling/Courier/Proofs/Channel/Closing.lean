/-
Who hears of the close of the link, and when.

The link may be asked to close any number of times, but its listeners are told once, when it is open
and a close does not fail for the first time.  They are told of the state of the session at that
moment, and nobody is ever told again (`turned_notifies`).
-/
import Courier.Proofs.Channel.Reckoning

namespace Courier

variable {σ : Type}

/-! ## Notices -/

/-- The call that an entry tells of. -/
def Entry.call? (entry : Entry σ) : Option Call :=
  match entry.deed with
  | .called call => some call
  | .begun _ => none

/-- The calls that have been made, in order. -/
def callsIn (entries : List (Entry σ)) : List Call :=
  entries.filterMap Entry.call?

/-- Whether a call gives notice of the close of the link. -/
def Call.tellsClose : Call → Bool
  | listener _ (.closed _) => true
  | _ => false

/-- The notices of the close that have been given. -/
def closeNotices (entries : List (Entry σ)) : List Call :=
  (callsIn entries).filter Call.tellsClose

/-- The state in which the session is, once that is in which comes in. -/
def Entry.state (entry : Entry σ) : SessionState :=
  entry.session?.elim entry.world.channel.standing.state (·.state)

/-- The notices that are due if an entry closes the link.  A channel that is gone gives none. -/
def Entry.farewells (entry : Entry σ) : List Call :=
  if entry.world.alive then entry.world.channel.closeListeners.notices (.closed entry.state) else []

/-- The notices of the close that are due: the first close of an open link that does not fail is told
to all who listen then. -/
def closeNoticesDue (start : World σ) (entries : List (Entry σ)) : List Call :=
  if start.link.connected then (entries.find? Entry.closes).elim [] Entry.farewells else []

theorem callsIn_append (first second : List (Entry σ)) :
    callsIn (first ++ second) = callsIn first ++ callsIn second :=
  List.filterMap_append

theorem closeNotices_append (first second : List (Entry σ)) :
    closeNotices (first ++ second) = closeNotices first ++ closeNotices second := by
  rw [closeNotices, callsIn_append, List.filter_append]
  rfl

theorem closeNotices_singleton {entry : Entry σ}
    (hsilent : ∀ call, entry.call? = some call → call.tellsClose = false) :
    closeNotices [entry] = [] := by
  unfold closeNotices callsIn
  cases hcall : entry.call? with
  | none => simp [hcall]
  | some call => simp [hcall, hsilent call hcall]

/-- Once the link is closed, nothing that happens makes further notices due. -/
theorem closeNoticesDue_append {start : World σ} {entries : List (Entry σ)}
    (hcut : (start.link.connected && !entries.any Entry.closes) = false) (more : List (Entry σ)) :
    closeNoticesDue start (entries ++ more) = closeNoticesDue start entries := by
  unfold closeNoticesDue
  cases hopen : start.link.connected with
  | false => rfl
  | true =>
    rw [hopen, Bool.true_and, Bool.not_eq_false'] at hcut
    obtain ⟨entry, hmem, hcloses⟩ := List.any_eq_true.mp hcut
    have hfound : (entries.find? Entry.closes).isSome = true :=
      List.find?_isSome.mpr ⟨entry, hmem, hcloses⟩
    obtain ⟨first, hfirst⟩ := Option.isSome_iff_exists.mp hfound
    rw [List.find?_append, hfirst]
    rfl

/-- As long as the link is open, no notices are due but those of an entry that closes it. -/
theorem closeNoticesDue_snoc {start : World σ} {entries : List (Entry σ)}
    (hopen : (start.link.connected && !entries.any Entry.closes) = true) (entry : Entry σ) :
    closeNoticesDue start entries = [] ∧
      closeNoticesDue start (entries ++ [entry]) = if entry.closes then entry.farewells else [] := by
  rw [Bool.and_eq_true, Bool.not_eq_true'] at hopen
  have hnone : entries.find? Entry.closes = none :=
    List.find?_eq_none.mpr (List.any_eq_false.mp hopen.2)
  unfold closeNoticesDue
  rw [if_pos hopen.1, if_pos hopen.1, List.find?_append, hnone]
  refine ⟨rfl, ?_⟩
  cases hcloses : entry.closes <;> simp [hcloses]

/-- An entry that closes nothing makes no notices due. -/
theorem closeNoticesDue_of_not_closes (start : World σ) (entries : List (Entry σ)) {entry : Entry σ}
    (hnot : entry.closes = false) :
    closeNoticesDue start (entries ++ [entry]) = closeNoticesDue start entries := by
  unfold closeNoticesDue
  rw [List.find?_append]
  simp [hnot]

namespace World

/-! ## Notices of the close -/

section

variable {start : World σ} {first second : List Call} {u v w : World (Diary σ)}

/-- At every moment, those notices have been given that are due, in order, or the first of them. -/
def Informs (start : World σ) (w : World (Diary σ)) : Prop :=
  w.chronicled.Always fun entries _ => closeNotices entries <+: closeNoticesDue start entries

/-- All notices have been given that are due. -/
def Informed (start : World σ) (w : World (Diary σ)) : Prop :=
  closeNotices w.user.entries = closeNoticesDue start w.user.entries

/-- Nothing goes wrong with the notices, and none is given once the link is closed. -/
structure Notifies (start : World σ) (v w : World (Diary σ)) : Prop extends Continues start v w where
  silent : Reckons start v → v.link.connected = false →
    closeNotices w.user.entries = closeNotices v.user.entries
  informs : Reckons start v → Informs start v → Informs start w
  informed : Reckons start v → Informed start v → Informed start w

/-- After the link is closed, some notices are given of it that are still due. -/
structure Spreads (start : World σ) (calls : List Call) (v w : World (Diary σ)) : Prop
    extends Continues start v w where
  given : Reckons start v → v.link.connected = false →
    closeNotices w.user.entries = closeNotices v.user.entries ++ calls
  informs : Reckons start v → v.link.connected = false →
    closeNotices v.user.entries ++ calls <+: closeNoticesDue start v.user.entries →
    Informs start v → Informs start w

/-- The link stays closed, and nothing else becomes due. -/
theorem Continues.cut (hc : Continues start v w) (hv : Reckons start v)
    (hcut : v.link.connected = false) :
    w.link.connected = false ∧
      closeNoticesDue start w.user.entries = closeNoticesDue start v.user.entries := by
  have hcut' : (start.link.connected && !v.user.entries.any Entry.closes) = false :=
    hv.final.connected.symm.trans hcut
  obtain ⟨more, hmore⟩ := hc.grown
  refine ⟨?_, ?_⟩
  · have hconnected : w.link.connected =
        (start.link.connected && !w.user.entries.any Entry.closes) :=
      (hc.reckons hv).final.connected
    rw [hconnected, ← hmore, List.any_append]
    revert hcut'
    cases start.link.connected <;> cases v.user.entries.any Entry.closes <;> simp
  · rw [← hmore]
    exact closeNoticesDue_append hcut' more

theorem Informs.written {deed : Deed} (hv : Informs start v)
    (huser : w.user.entries = (v.note deed).user.entries)
    (hgiven : closeNotices w.user.entries <+: closeNoticesDue start w.user.entries) :
    Informs start w := by
  rw [huser] at hgiven
  have hw : Chronicle.Always ⟨v.entries ++ [⟨v.plain, deed⟩], w.plain⟩ _ :=
    Chronicle.Always.snoc hv hgiven
  unfold Informs chronicled entries
  rw [huser]
  exact hw

theorem Informs.kept (hv : Informs start v) (huser : w.user.entries = v.user.entries) :
    Informs start w := by
  have hw := Chronicle.Always.kept hv (w := w.plain) hv.final
  unfold Informs chronicled entries
  rw [huser]
  exact hw

/-! ### Nothing goes wrong -/

/-- What is written matters only. -/
theorem Notifies.congr (hn : Notifies start u v) (hc : Continues start u w)
    (huser : w.user.entries = v.user.entries) : Notifies start u w where
  toContinues := hc
  silent hu hcut := by
    rw [huser]
    exact hn.silent hu hcut
  informs hu hinforms := (hn.informs hu hinforms).kept huser
  informed hu hinformed := by
    have hv := hn.informed hu hinformed
    unfold Informed at hv ⊢
    rwa [huser]

theorem Notifies.refl (start : World σ) (w : World (Diary σ)) : Notifies start w w where
  toContinues := .of_same rfl rfl rfl rfl rfl
  silent _ _ := rfl
  informs _ := id
  informed _ := id

theorem Notifies.trans (huv : Notifies start u v) (hvw : Notifies start v w) :
    Notifies start u w where
  toContinues := (minds_continues start).trans huv.toContinues hvw.toContinues
  silent hu hcut := by
    have hv := huv.toContinues.cut hu hcut
    rw [hvw.silent (huv.reckons hu) hv.1, huv.silent hu hcut]
  informs hu hinforms := hvw.informs (huv.reckons hu) (huv.informs hu hinforms)
  informed hu hinformed := hvw.informed (huv.reckons hu) (huv.informed hu hinformed)

/-- What is written is no notice of the close, and makes none due. -/
theorem Notifies.written {deed : Deed} (hc : Continues start v w)
    (huser : w.user.entries = (v.note deed).user.entries)
    (hnotice : closeNotices [Entry.mk v.plain deed] = [])
    (hdue : Reckons start v → closeNoticesDue start (v.note deed).user.entries =
      closeNoticesDue start v.user.entries) :
    Notifies start v w := by
  have hgiven : closeNotices w.user.entries = closeNotices v.user.entries := by
    rw [huser]
    show closeNotices (v.user.entries ++ [⟨v.plain, deed⟩]) = _
    rw [closeNotices_append, hnotice, List.append_nil]
  refine ⟨hc, fun _ _ => hgiven, fun hv hinforms => ?_, fun hv hinformed => ?_⟩
  · refine hinforms.written huser ?_
    rw [hgiven, huser, hdue hv]
    exact hinforms.final
  · unfold Informed at hinformed ⊢
    rw [hgiven, huser, hdue hv]
    exact hinformed

theorem notifies_note {deed : Deed} {w : World (Diary σ)}
    (hquiet : Entry.turn? ⟨w.plain, deed⟩ = none)
    (hnotice : closeNotices [Entry.mk w.plain deed] = []) : Notifies start w (w.note deed) := by
  refine .written (continues_note hquiet) rfl hnotice fun _ => ?_
  refine closeNoticesDue_of_not_closes _ _ ?_
  rw [Entry.closes, Entry.rings, hquiet]
  rfl

theorem minds_notifies (start : World σ) : Minds (fun _ => False) (Notifies start) := by
  have hm := minds_continues start
  refine ⟨fun hsame => ?_, .trans, fun _ _ => ?_, fun _ _ _ => ?_, fun _ _ _ => ?_, fun _ => ?_,
    fun call w hplain => ?_, fun m w hturn => ?_⟩
  · exact (Notifies.refl start _).congr (hm.same hsame) (congrArg Diary.entries hsame.user)
  · exact (Notifies.refl start _).congr (hm.think _ _) rfl
  · exact (Notifies.refl start _).congr (hm.register _ _ _) rfl
  · exact (Notifies.refl start _).congr (hm.unregister _ _ fun _ => False.elim) rfl
  · exact (Notifies.refl start _).congr (hm.taken _) rfl
  · refine notifies_note rfl (closeNotices_singleton fun _ heq => ?_)
    cases heq
    cases call with
    | listener name notice => cases notice <;> first | rfl | cases hplain
    | stage | outcome => rfl
  · exact notifies_note hturn (closeNotices_singleton fun _ heq => by cases heq)

/-! ### After the close -/

theorem Notifies.spreads (hn : Notifies start v w) : Spreads start [] v w where
  toContinues := hn.toContinues
  given hv hcut := by rw [hn.silent hv hcut, List.append_nil]
  informs hv _ _ := hn.informs hv

theorem Spreads.trans (huv : Spreads start first u v) (hvw : Spreads start second v w) :
    Spreads start (first ++ second) u w where
  toContinues := (minds_continues start).trans huv.toContinues hvw.toContinues
  given hu hcut := by
    have hv := huv.toContinues.cut hu hcut
    rw [hvw.given (huv.reckons hu) hv.1, huv.given hu hcut, List.append_assoc]
  informs hu hcut hinit hinforms := by
    rw [← List.append_assoc] at hinit
    have hv := huv.toContinues.cut hu hcut
    have hinforms' := huv.informs hu hcut ((List.prefix_append _ _).trans hinit) hinforms
    refine hvw.informs (huv.reckons hu) hv.1 ?_ hinforms'
    rwa [huv.given hu hcut, hv.2]

section

variable {h : Host (Diary σ)} (hf : Obeys h (Notifies start))
include hf

theorem callOut_notifies {call : Call} (hother : call.tellsClose = false) (w : World (Diary σ)) :
    Notifies start w (w.callOut h call) := by
  refine callOut_noted (minds_notifies start) hf (fun w => ?_) w
  refine notifies_note rfl (closeNotices_singleton fun _ heq => ?_)
  cases heq
  exact hother

/-- A notice of the close is given, and whatever its listener does, it is the only one. -/
theorem callOut_spreads (name : Name) (state : SessionState) (w : World (Diary σ)) :
    Spreads start [.listener name (.closed state)] w
      (w.callOut h (.listener name (.closed state))) := by
  have hm := minds_notifies start
  let call := Call.listener name (.closed state)
  let deeper := { w with depth := w.depth + 1 }
  have hdeeper : Spreads start [] w deeper := (hm.deeper w).spreads
  have hnoted : Spreads start [call] deeper (deeper.note (.called call)) := by
    have hgiven : closeNotices (deeper.note (.called call)).user.entries =
        closeNotices deeper.user.entries ++ [call] := closeNotices_append _ _
    have hc : Continues start deeper (deeper.note (.called call)) := continues_note rfl
    refine ⟨hc, fun _ _ => hgiven, fun hv hcut hinit hinforms => hinforms.written rfl ?_⟩
    rw [hgiven, (hc.cut hv hcut).2]
    exact hinit
  exact (hdeeper.trans hnoted).trans (callOut_obeys hm hf _ w).spreads

theorem deliverSession_notifies (session : Session) (w : World (Diary σ)) :
    Notifies start w (w.deliverSession h session) :=
  deliverSession_carries (hf.carries (minds_notifies start)) session
    (fun _ => callOut_notifies hf rfl) w

theorem deliverClose_spreads (w : World (Diary σ)) :
    Spreads start (w.channel.closeListeners.notices (.closed w.channel.standing.state)) w
      (w.deliverClose h) :=
  deliverClose_notices Spreads.trans (hf.carries (minds_notifies start)).toHears
    Notifies.spreads (callOut_spreads hf) w

end

/-! ### Turns -/

/-- A close that the channel does not hear of makes no notices due. -/
theorem closeNoticesDue_unheard {m : Moment} (hunheard : w.hearsClose = false)
    (hw : Reckons start w) :
    closeNoticesDue start (w.note (.begun m)).user.entries =
      closeNoticesDue start w.user.entries := by
  have hconnected : w.link.connected = (start.link.connected && !w.user.entries.any Entry.closes) :=
    hw.final.connected
  cases hopen : w.link.connected with
  | false => exact closeNoticesDue_append (hconnected.symm.trans hopen) _
  | true =>
    cases hfails : w.link.failsToClose with
    | true =>
      refine closeNoticesDue_of_not_closes _ _ ?_
      show (_ && !w.link.failsToClose) = false
      rw [hfails, Bool.not_true, Bool.and_false]
    | false =>
      have hgone : w.alive = false := by
        simpa [hearsClose, hopen, hfails] using hunheard
      have hdue := closeNoticesDue_snoc (hconnected.symm.trans hopen) ⟨w.plain, .begun m⟩
      have hfarewells : Entry.farewells ⟨w.plain, .begun m⟩ = [] :=
        if_neg (by show ¬w.alive = true; rw [hgone]; exact Bool.false_ne_true)
      rw [hfarewells, ite_self] at hdue
      exact hdue.2.trans hdue.1.symm

theorem unheard_notifies {m : Moment} {v : World (Diary σ)} (hc : Continues start w v)
    (huser : v.user = (w.note (.begun m)).user) (hunheard : w.hearsClose = false) :
    Notifies start w v :=
  .written hc (congrArg Diary.entries huser) rfl (closeNoticesDue_unheard hunheard)

section

variable {m : Moment} {turn : Turn} (hturn : w.turn? m = some turn)
include hturn

theorem notices_struck (halive : w.alive = true) :
    let struck := ((w.note (.begun m)).readied turn).struck
    struck.channel.closeListeners.notices (.closed struck.channel.standing.state) =
      Entry.farewells ⟨w.plain, .begun m⟩ := by
  have hentry : Entry.turn? ⟨w.plain, .begun m⟩ = some turn := hturn
  have hstate : ((w.note (.begun m)).readied turn).channel.standing.state =
      Entry.state ⟨w.plain, .begun m⟩ := by
    rw [standing_readied, Entry.state, Entry.session?, hentry]
    cases turn <;> first | rfl | exact Standing.state_after _ _
  have hlisteners : ((w.note (.begun m)).readied turn).channel.closeListeners =
      w.channel.closeListeners := by
    rw [channel_readied]
    rfl
  dsimp only
  rw [channel_struck, hlisteners, hstate]
  exact (if_pos halive).symm

variable (hrings : turn.rings = true) (hheard : w.hearsClose = true)
include hrings hheard

theorem closeNoticesDue_heard (hw : Reckons start w) :
    closeNoticesDue start w.user.entries = [] ∧
      closeNoticesDue start (w.note (.begun m)).user.entries =
        Entry.farewells ⟨w.plain, .begun m⟩ := by
  simp only [hearsClose, Bool.and_eq_true] at hheard
  have hentry : Entry.turn? ⟨w.plain, .begun m⟩ = some turn := hturn
  have hcloses : Entry.closes ⟨w.plain, .begun m⟩ = true := by
    rw [Entry.closes, Entry.rings, hentry, Option.any_some, hrings]
    exact hheard.1.1
  have hdue := closeNoticesDue_snoc (hw.final.connected.symm.trans hheard.1.2) ⟨w.plain, .begun m⟩
  rwa [if_pos hcloses] at hdue

/-- When the channel hears of a close, all who listen are told, and that is all that is ever due. -/
theorem heard_notifies {h : Host (Diary σ)} (hf : Obeys h (Notifies start)) :
    Notifies start w (((w.note (.begun m)).readied turn).struck.deliverClose h) := by
  let struck := ((w.note (.begun m)).readied turn).struck
  have hheard' := hheard
  simp only [hearsClose, Bool.and_eq_true, Bool.not_eq_true'] at hheard'
  obtain ⟨⟨hsound, hopen⟩, halive⟩ := hheard'
  have hstruck : Continues start w struck := struck_continues hturn hrings fun _ => hheard
  have hentries : struck.user.entries = (w.note (.begun m)).user.entries :=
    congrArg Diary.entries ((user_struck _).trans (user_readied _ _))
  have hcut : struck.link.connected = false := by
    show ((w.note (.begun m)).readied turn).struck.link.connected = false
    rw [connected_struck, link_readied]
    show (w.link.connected && w.link.failsToClose) = false
    rw [hsound, Bool.and_false]
  have hspreads := deliverClose_spreads hf struck
  rw [notices_struck hturn halive] at hspreads
  have hgiven : closeNotices struck.user.entries = closeNotices w.user.entries := by
    rw [hentries]
    exact (closeNotices_append _ _).trans (List.append_nil _)
  refine ⟨(minds_continues start).trans hstruck hspreads.toContinues, fun _ hcut' => ?_,
    fun hw hinforms => ?_, fun hw hinformed => ?_⟩
  · rw [hopen] at hcut'
    cases hcut'
  · obtain ⟨hbefore, hafter⟩ := closeNoticesDue_heard hturn hrings hheard hw
    have hnone : closeNotices w.user.entries = [] := by
      have hinit : closeNotices w.user.entries <+: closeNoticesDue start w.user.entries :=
        hinforms.final
      rw [hbefore] at hinit
      exact List.prefix_nil.mp hinit
    have hinforms' : Informs start struck := by
      refine hinforms.written hentries ?_
      rw [hgiven, hnone]
      exact List.nil_prefix
    refine hspreads.informs (hstruck.reckons hw) hcut ?_ hinforms'
    rw [hgiven, hnone, hentries, hafter]
    exact List.prefix_refl _
  · obtain ⟨hbefore, hafter⟩ := closeNoticesDue_heard hturn hrings hheard hw
    have hnone : closeNotices w.user.entries = [] := hinformed.trans hbefore
    show closeNotices _ = closeNoticesDue start _
    rw [(hspreads.toContinues.cut (hstruck.reckons hw) hcut).2,
      hspreads.given (hstruck.reckons hw) hcut, hgiven, hnone, hentries, hafter]
    rfl

end

theorem turned_notifies {h : Host (Diary σ)} (hf : Obeys h (Notifies start))
    {m : Moment} {turn : Turn} (hturn : w.turn? m = some turn) :
    Notifies start w ((w.note (.begun m)).turned h turn) := by
  have hclosed : turn.rings = true → turn ≠ .disconnects → Notifies start w
      (if (w.note (.begun m)).hearsClose then
        ((w.note (.begun m)).readied turn).struck.deliverClose h
      else ((w.note (.begun m)).readied turn).struck) := by
    intro hrings hne
    split
    · rename_i hheard
      exact heard_notifies hturn hrings hheard hf
    · rename_i hunheard
      refine unheard_notifies ?_ ((user_struck _).trans (user_readied _ _))
        (Bool.eq_false_iff.mpr hunheard)
      exact struck_continues hturn hrings fun hdisconnects => absurd hdisconnects hne
  have hquiet : turn.rings = false → Notifies start w ((w.note (.begun m)).readied turn) := by
    intro hquiet
    have hentry : Entry.turn? ⟨w.plain, .begun m⟩ = some turn := hturn
    have hopen : Entry.closes ⟨w.plain, .begun m⟩ = false := by
      rw [Entry.closes, Entry.rings, hentry, Option.any_some, hquiet]
      rfl
    exact .written (readied_continues hturn hquiet) (congrArg Diary.entries (user_readied _ _)) rfl
      fun _ => closeNoticesDue_of_not_closes _ _ hopen
  have hcontinues := turned_continues (hf.mono Notifies.toContinues) hturn
  rw [turned_eq, closeLink_eq, hearsClose_readied] at hcontinues ⊢
  cases turn with
  | takes session =>
    refine Notifies.trans ?_ (deliverSession_notifies hf session _)
    split
    · rename_i hterminal
      exact hclosed hterminal fun heq => by cases heq
    · rename_i hgoing
      exact hquiet (Bool.eq_false_iff.mpr hgoing)
  | closes | closesLink => exact hclosed rfl fun heq => by cases heq
  | disconnects =>
    by_cases hheard : (w.note (.begun m)).hearsClose = true
    · refine (heard_notifies hturn rfl hheard hf).congr hcontinues ?_
      rw [if_pos hheard]
      rfl
    · refine unheard_notifies (m := m) hcontinues ?_ (Bool.eq_false_iff.mpr hheard)
      rw [if_neg hheard]
      exact user_struck _
  | abandons => exact hquiet rfl

end

end World
end Courier
