/-
Whether a handshake is told its outcome.

A delivery takes the handshakes out of the registry, and one that expects another session is
registered again when it is its turn.  Whenever no delivery is going on, a handshake is therefore
over or registered (`Attentive`), and a session that ends it is not missed, whatever the callbacks
do.

In between it is not registered.  If a listener before it hands the channel a last session, that one
is delivered without the handshake; and its other registration, for the close of the link, is of no
use where the session was over before the link was closed.  So there are runs in which it hears of
neither (`outcome_missed`), and `outcome_told_iff` says when it does.
-/
import Courier.Channel.Playbook
import Courier.Proofs.Channel.Outcome

namespace Courier

/-- Whether a session in a state ends a handshake for good or bad. -/
def SessionState.isConclusive : SessionState → Bool
  | .established | .finished | .failed => true
  | _ => false

namespace World

variable {σ : Type} {v w : World σ} {h : Host σ} {n : Nat}

/-- Whether an outcome of a handshake was told to whom it concerns. -/
def HasOutcome (n : Nat) (w : World σ) : Prop :=
  ∃ handshake outcome, w.channel.handshakes[n]? = some handshake ∧ handshake.finished = true ∧
    match handshake.reporter with
    | .callback name => (n, name, outcome) ∈ w.conclusions
    | .waiting name => (name, outcome) ∈ w.answers

/-- Whether a handshake has been started. -/
def Started (n : Nat) (w : World σ) : Prop :=
  n < w.channel.handshakes.length

/-- A handshake is over or registered for the next session, if it has been started. -/
def Attentive (n : Nat) (w : World σ) : Prop :=
  Started n w → Finished n w ∨ Listens n w

/-- A handshake is over or registered for the close, as long as the link is open. -/
def Watchful (n : Nat) (w : World σ) : Prop :=
  w.link.connected = true → Pending n w → AwaitsClose n w

/-- A handshake that is over has an outcome. -/
def Reported (n : Nat) (w : World σ) : Prop :=
  Finished n w → HasOutcome n w

/-! ## What holds at every moment -/

theorem kept_started (n : Nat) : KeptAlways (@Started σ n) where
  alike halike hv := by rwa [Started, halike.handshakes]
  start _ _ _ _ hw := lt_started hw
  register _ hw := hw
  note _ _ _ _ hw := by rwa [Started, handshakes_noted, List.length_set]
  refuse _ _ _ hw := hw
  cut hw := hw
  takeClose _ hw := hw
  takeSession hw := hw

theorem kept_finished (n : Nat) : KeptAlways (@Finished σ n) where
  alike halike hv := halike.finished.mpr hv
  start _ _ _ _ hw := finished_started.mpr hw
  register _ hw := hw
  note _ _ hget _ hw := (finished_noted hget).mpr (.inl hw)
  refuse _ _ _ hw := hw
  cut hw := hw
  takeClose _ hw := hw
  takeSession hw := hw

theorem kept_watchful (n : Nat) : KeptAlways (@Watchful σ n) where
  alike halike hv := by
    intro hconnected hpending
    have hold := halike.pending.mp hpending
    rw [halike.awaitsClose n hold.lt]
    exact hv (halike.connected ▸ hconnected) hold
  start _ _ _ _ hw := by
    intro hconnected hpending
    rw [awaitsClose_started]
    rcases pending_started.mp hpending with hold | hnew
    · exact .inl (hw hconnected hold)
    · exact .inr hnew
  register _ hw := hw
  note _ w hget _ hw := by
    intro hconnected hpending
    obtain ⟨hold, hne⟩ := (pending_noted hget).mp hpending
    rw [connected_noted] at hconnected
    exact awaitsClose_noted.mpr ⟨hw hconnected hold, hne⟩
  refuse _ _ _ hw := hw
  cut _ := fun hconnected => nomatch hconnected
  takeClose hcut _ := fun hconnected _ => absurd (hcut.symm.trans hconnected) Bool.false_ne_true
  takeSession hw := hw

theorem hasOutcome_of_more (hw : HasOutcome n w)
    (hhandshake : ∀ handshake, w.channel.handshakes[n]? = some handshake →
      handshake.finished = true → v.channel.handshakes[n]? = some handshake)
    (hconclusions : w.conclusions ⊆ v.conclusions) (hanswers : w.answers ⊆ v.answers) :
    HasOutcome n v := by
  obtain ⟨handshake, outcome, hget, hover, htold⟩ := hw
  refine ⟨handshake, outcome, hhandshake handshake hget hover, hover, ?_⟩
  cases hreporter : handshake.reporter with
  | callback name =>
    rw [hreporter] at htold
    exact hconclusions htold
  | waiting name =>
    rw [hreporter] at htold
    exact hanswers htold

theorem hasOutcome_noted {handshake : Handshake} (outcome : Outcome)
    (hget : w.channel.handshakes[n]? = some handshake) :
    HasOutcome n (w.noted n handshake outcome) := by
  refine ⟨{ handshake with finished := true }, outcome, ?_, rfl, ?_⟩
  · rw [handshakes_noted, List.getElem?_set_self (getElem?_lt hget)]
  · rw [conclusions_noted, answers_noted]
    cases hreporter : handshake.reporter with
    | callback name => simp
    | waiting name => simp

theorem kept_reported (n : Nat) : KeptAlways (@Reported σ n) where
  alike halike hv := by
    intro hover
    refine hasOutcome_of_more (hv (halike.finished.mp hover)) (fun _ hget _ => ?_) ?_ ?_
    · rwa [halike.handshakes]
    · rw [halike.conclusions]
      exact List.Subset.refl _
    · rw [halike.answers]
      exact List.Subset.refl _
  start _ _ _ _ hw := fun hover =>
    hasOutcome_of_more (hw (finished_started.mp hover))
      (fun _ hget _ => by
        rw [handshakes_started, List.getElem?_append_left (getElem?_lt hget)]
        exact hget)
      (List.Subset.refl _) (List.Subset.refl _)
  register _ hw := hw
  note outcome w hget hpending hw := by
    intro hover
    rename_i number handshake
    rcases (finished_noted hget).mp hover with hold | rfl
    · have hne : number ≠ n := by
        rintro rfl
        exact not_pending_of_finished hold ⟨handshake, hget, hpending⟩
      refine hasOutcome_of_more (hw hold) (fun other hother _ => ?_) ?_ ?_
      · rw [handshakes_noted, List.getElem?_set_ne hne]
        exact hother
      · rw [conclusions_noted]
        exact List.subset_append_left _ _
      · rw [answers_noted]
        exact List.subset_append_left _ _
    · exact hasOutcome_noted outcome hget
  refuse _ _ _ hw := fun hover =>
    hasOutcome_of_more (hw hover) (fun _ hget _ => hget) (List.Subset.refl _) (by
      simp only [answers, ← List.append_assoc]
      exact List.subset_append_left _ _)
  cut hw := hw
  takeClose _ hw := hw
  takeSession hw := hw

/-! ## What a handshake does when it is told -/

theorem finished_conclude (hh : h.IsLawful) (hpending : Pending n w) (outcome : Outcome) :
    Finished n (w.conclude h n outcome) := by
  obtain ⟨handshake, hget, hfinished⟩ := hpending
  rw [conclude_of_pending hget hfinished]
  exact announced_keeps (kept_finished n).toKept (hh.keeps (kept_finished n)) _ _
    ((finished_noted hget).mpr (.inr rfl))

/-- A handshake that is told of a session is over or registered again afterwards. -/
theorem attentive_handshakeReceives (hh : h.IsLawful) (session : Session) :
    Attentive n (w.handshakeReceives h n session) := by
  intro hstarted
  by_cases hpending : Pending n w
  · obtain ⟨handshake, hget, hfinished⟩ := hpending
    rw [handshakeReceives_of_pending hget hfinished]
    split
    · exact .inl (finished_conclude hh ⟨handshake, hget, hfinished⟩ _)
    · rename_i step _
      split
      · have halike := alike_performStep handshake.establishment step
          (w.addSessionListener (.handshake n) true).2
        split
        · rename_i heq
          rw [heq] at halike
          exact .inr ((halike.listens n (getElem?_lt hget)).mpr (listens_register.mpr (.inr rfl)))
        · rename_i heq
          rw [heq] at halike
          have hpending' := halike.pending.mpr ⟨handshake, hget, hfinished⟩
          exact .inl (finished_conclude hh hpending' _)
      · exact .inl (finished_conclude hh ⟨handshake, hget, hfinished⟩ _)
  · rw [handshakeReceives_of_not_pending hpending] at hstarted ⊢
    exact .inl ((finished_or_pending hstarted).resolve_right hpending)

/-- A session that ends a handshake ends it, if the handshake is told of it. -/
theorem finished_handshakeReceives (hh : h.IsLawful) {session : Session}
    (hends : session.state.isConclusive = true) (hstarted : Started n w) :
    Finished n (w.handshakeReceives h n session) := by
  by_cases hpending : Pending n w
  · obtain ⟨handshake, hget, hfinished⟩ := hpending
    have hnext : handshake.establishment.next session = .ok .complete := by
      unfold Establishment.next
      cases hstate : session.state <;> rw [hstate] at hends <;> first | rfl | cases hends
    rw [handshakeReceives_of_pending hget hfinished, hnext]
    exact finished_conclude hh ⟨handshake, hget, hfinished⟩ _
  · rw [handshakeReceives_of_not_pending hpending]
    exact (finished_or_pending hstarted).resolve_right hpending

/-- The close of the link ends a handshake, if the handshake is told of it and the session was not
over before. -/
theorem finished_handshakeCloses (hh : h.IsLawful) {state : SessionState}
    (hstate : state.isTerminal = false) (hstarted : Started n w) :
    Finished n (w.handshakeCloses h n state) := by
  unfold handshakeCloses
  rw [hstate, if_neg Bool.false_ne_true]
  by_cases hpending : Pending n w
  · exact finished_conclude hh hpending _
  · rw [conclude_of_not_pending hpending]
    exact (finished_or_pending hstarted).resolve_right hpending

/-! ## Deliveries -/

/-- Somebody who is told in a delivery is told in its course, after some others, and before the
rest. -/
theorem foldl_reaches {α : Type} {tell : World σ → α → World σ} {called : List α} {a : α}
    {Q : World σ → Prop} (P : World σ → Prop) (hmem : a ∈ called)
    (hbefore : ∀ b ∈ called, ∀ w, P w → P (tell w b)) (htold : ∀ w, P w → Q (tell w a))
    (hafter : ∀ b ∈ called, ∀ w, Q w → Q (tell w b)) (hw : P w) : Q (called.foldl tell w) := by
  obtain ⟨first, rest, rfl⟩ := List.append_of_mem hmem
  rw [List.foldl_append, List.foldl_cons]
  have hfirst := foldl_keeps (fun b hb => hbefore b (List.mem_append_left _ hb)) hw
  exact foldl_keeps
    (fun b hb => hafter b (List.mem_append_right _ (List.mem_cons_of_mem a hb)))
    (htold _ hfirst)

theorem kept_attentive (n : Nat) : Kept (@Attentive σ n) where
  alike halike hv := by
    intro hstarted
    rw [Started, halike.handshakes] at hstarted
    rw [halike.finished, halike.listens n hstarted]
    exact hv hstarted
  start _ _ w _ hw := by
    intro hstarted
    rw [finished_started, listens_started]
    rw [Started, handshakes_started, List.length_append] at hstarted
    rcases Nat.lt_succ_iff_lt_or_eq.mp hstarted with hlt | heq
    · exact (hw hlt).imp_right .inl
    · exact .inr (.inr heq)
  register _ hw := fun hstarted => (hw hstarted).imp_right fun hl => listens_register.mpr (.inl hl)
  note outcome u hget hpending hw := by
    intro hstarted
    rename_i number handshake
    rw [Started, handshakes_noted, List.length_set] at hstarted
    rw [finished_noted hget, listens_noted]
    by_cases heq : n = number
    · exact .inl (.inr heq)
    · exact (hw hstarted).imp .inl fun hl => ⟨hl, heq⟩
  refuse _ _ _ hw := hw
  cut hw := hw
  takeClose _ hw := hw

/-- A delivery leaves a handshake over or registered, though it is neither in between. -/
theorem attentive_deliverSession (hh : h.IsLawful) (hkeeps : h.Keeps (Attentive n))
    (session : Session) (hw : Attentive n w) : Attentive n (w.deliverSession h session) := by
  have htold : ∀ subscriber (u : World σ), Attentive n u →
      Attentive n (u.tellSession h session subscriber) :=
    fun subscriber _ hu => tellSession_keeps (kept_attentive n) hkeeps session subscriber hu
  by_cases hlistens : Listens n w
  -- Taken out with the others, it is neither over nor registered until it is its turn: nothing is
  -- known of what comes before, and what comes after keeps it.
  · exact foldl_reaches (fun _ => True) hlistens (fun _ _ _ _ => trivial)
      (fun _ _ => attentive_handshakeReceives hh session) (fun b _ u hu => htold b u hu) trivial
  · refine foldl_keeps (fun b _ u hu => htold b u hu) fun hstarted => ?_
    exact .inl ((hw hstarted).resolve_right hlistens)

/-- A delivery of a session that ends a handshake ends it, if it was over or registered before. -/
theorem finished_deliverSession (hh : h.IsLawful) {session : Session}
    (hends : session.state.isConclusive = true) (hstarted : Started n w) (hw : Attentive n w) :
    Finished n (w.deliverSession h session) := by
  have hfinished := hh.keeps (kept_finished n)
  rcases hw hstarted with hover | hlistens
  · exact (kept_finished n).deliverSession hfinished session hover
  · exact foldl_reaches (Started n) hlistens
      (fun b _ _ hu => tellSession_keeps (kept_started n).toKept
        (hh.keeps (kept_started n)) session b hu)
      (fun _ hu => finished_handshakeReceives hh hends hu)
      (fun b _ _ hu => tellSession_keeps (kept_finished n).toKept hfinished session b hu)
      ((kept_started n).takeSession hstarted)

theorem finished_deliverClose (hh : h.IsLawful)
    (hstate : w.channel.standing.state.isTerminal = false) (hstarted : Started n w)
    (hawaits : AwaitsClose n w) : Finished n (w.deliverClose h) :=
  foldl_reaches (Started n) hawaits
    (fun b _ _ hu => tellClose_keeps (kept_started n).toKept
      (hh.keeps (kept_started n)) _ b hu)
    (fun _ hu => finished_handshakeCloses hh hstate hu)
    (fun b _ _ hu => tellClose_keeps (kept_finished n).toKept
      (hh.keeps (kept_finished n)) _ b hu)
    hstarted

/-! ## When the outcome is told -/

/-- A lawful host leaves a handshake over or registered. -/
theorem keeps_attentive (hh : h.IsLawful) : h.Keeps (Attentive n) :=
  Host.Within.keeps hh (kept_attentive n) (fun _ _ => trivial)
    fun _ hh hkeeps session _ => attentive_deliverSession hh hkeeps session

theorem finished_receive (hh : h.IsLawful) {session : Session}
    (hends : session.state.isConclusive = true) (hstarted : Started n w) (hw : Attentive n w) :
    Finished n (w.receive h (.session session)).2 := by
  have hadmitted : Attentive n (w.touch.admitted h session) :=
    admitted_keeps (kept_attentive n) (keeps_attentive hh) session hw
  have hstill : Started n (w.touch.admitted h session) :=
    admitted_keeps (kept_started n).toKept (hh.keeps (kept_started n)) session hstarted
  exact finished_deliverSession hh hends hstill hadmitted

theorem finished_closeLink (hh : h.IsLawful) (hw : Closable w)
    (hstate : w.channel.standing.state.isTerminal = false) (hstarted : Started n w)
    (hawaits : AwaitsClose n w) : Finished n (w.closeLink h).2 := by
  rw [closeLink_of_closable hw]
  exact finished_deliverClose hh hstate hstarted hawaits

/-! ## When it is not told -/

/-- A handshake that is going on, and does not hear of the next session. -/
def Deaf (n : Nat) (w : World σ) : Prop :=
  Pending n w ∧ ¬ Listens n w

theorem pending_conclude_silent {m : Nat} (hne : m ≠ n) (outcome : Outcome) (hw : Pending n w) :
    Pending n (w.conclude .silent m outcome) := by
  by_cases hpending : Pending m w
  · obtain ⟨handshake, hget, hfinished⟩ := hpending
    have hnoted : Pending n (w.noted m handshake outcome) :=
      (pending_noted hget).mpr ⟨hw, hne.symm⟩
    rw [conclude_of_pending hget hfinished]
    cases handshake.reporter with
    | callback name => exact hnoted
    | waiting name => exact hnoted
  · rw [conclude_of_not_pending hpending]
    exact hw

theorem pending_tellSession_silent {subscriber : Subscriber} (hne : subscriber ≠ .handshake n)
    (session : Session) (hw : Pending n w) :
    Pending n (w.tellSession .silent session subscriber) := by
  cases subscriber with
  | named name => exact hw
  | handshake m =>
    have hm : m ≠ n := fun heq => hne (congrArg Subscriber.handshake heq)
    show Pending n (w.handshakeReceives .silent m session)
    by_cases hpending : Pending m w
    · obtain ⟨handshake, hget, hfinished⟩ := hpending
      rw [handshakeReceives_of_pending hget hfinished]
      split
      · exact pending_conclude_silent hm _ hw
      · rename_i step _
        split
        · have halike := alike_performStep handshake.establishment step
            (w.addSessionListener (.handshake m) true).2
          have hperformed := halike.pending.mpr hw
          split <;> rename_i heq <;> rw [heq] at hperformed
          · exact hperformed
          · exact pending_conclude_silent hm _ hperformed
        · exact pending_conclude_silent hm _ hw
    · rw [handshakeReceives_of_not_pending hpending]
      exact hw

theorem pending_tellClose_silent {subscriber : Subscriber} (hne : subscriber ≠ .handshake n)
    (state : SessionState) (hw : Pending n w) :
    Pending n (w.tellClose .silent state subscriber) := by
  cases subscriber with
  | named name => exact hw
  | handshake m =>
    have hm : m ≠ n := fun heq => hne (congrArg Subscriber.handshake heq)
    show Pending n (w.handshakeCloses .silent m state)
    unfold handshakeCloses
    split
    · exact hw
    · exact pending_conclude_silent hm _ hw

/-- The close of a link is nothing to a handshake when the session is over. -/
theorem tellClose_terminal {P : World σ → Prop} {state : SessionState}
    (hstate : state.isTerminal = true) (subscriber : Subscriber)
    (hnamed : ∀ name, P (w.tellClose .silent state (.named name))) (hw : P w) :
    P (w.tellClose .silent state subscriber) := by
  cases subscriber with
  | named name => exact hnamed name
  | handshake m =>
    show P (w.handshakeCloses .silent m state)
    unfold handshakeCloses
    rw [if_pos hstate]
    exact hw

theorem pending_closeLink_silent (hw : Closable w) (hpending : Pending n w)
    (hunheard : ¬ AwaitsClose n w ∨ w.channel.standing.state.isTerminal = true) :
    Pending n (w.closeLink .silent).2 := by
  rw [closeLink_of_closable hw]
  refine foldl_keeps (fun subscriber hmem u hu => ?_) hpending
  rcases hunheard with hawaits | hstate
  · have hne : subscriber ≠ .handshake n := by
      rintro rfl
      exact hawaits hmem
    exact pending_tellClose_silent hne _ hu
  · exact tellClose_terminal hstate subscriber (fun _ => hu) hu

theorem deaf_closeLink_silent (hstate : w.channel.standing.state.isTerminal = true)
    (hw : Deaf n w) : Deaf n (w.closeLink .silent).2 := by
  have hdelivered : ∀ u : World σ, u.channel.standing.state.isTerminal = true → Deaf n u →
      Deaf n (u.deliverClose .silent) := fun u hu hdeaf =>
    foldl_keeps (P := Deaf n)
      (fun subscriber _ _ hdeaf => tellClose_terminal hu subscriber (fun _ => hdeaf) hdeaf) hdeaf
  unfold closeLink
  dsimp only
  split
  · exact hw
  · unfold disconnect linkClosed
    split
    · split
      · exact hdelivered _ hstate hw
      · exact hw
    · exact hw

theorem pending_receive_silent (session : Session) (hw : Deaf n w) :
    Pending n (w.receive .silent (.session session)).2 := by
  have hadmitted : Deaf n (w.touch.admitted .silent session) := by
    unfold admitted
    dsimp only
    split
    · rename_i hterminal
      refine deaf_closeLink_silent ?_ hw
      show (w.channel.standing.after session).state.isTerminal = true
      rw [Standing.state_after]
      exact hterminal
    · exact hw
  show Pending n ((w.touch.admitted .silent session).deliverSession .silent session)
  refine foldl_keeps (fun subscriber hmem u hu => ?_) hadmitted.1
  have hne : subscriber ≠ .handshake n := by
    rintro rfl
    exact hadmitted.2 hmem
  exact pending_tellSession_silent hne session hu

theorem not_hasOutcome_of_pending (hpending : Pending n w) : ¬ HasOutcome n w := by
  rintro ⟨handshake, _, hget, hover, _⟩
  exact not_pending_of_finished ⟨handshake, hget, hover⟩ hpending

/-! ## When exactly it is told -/

/-- What is told of a handshake from now on, its outcome comes with. -/
theorem reported_of_pending (hpending : Pending n w) : Reported n w :=
  fun hover => absurd hpending (not_pending_of_finished hover)

theorem hasOutcome_receive (hh : h.IsLawful) {session : Session}
    (hends : session.state.isConclusive = true) (hstarted : Started n w) (hw : Attentive n w)
    (hreported : Reported n w) : HasOutcome n (w.receive h (.session session)).2 := by
  have hkeeps := hh.keeps (kept_reported n)
  have hafter : Reported n (w.receive h (.session session)).2 :=
    receive_keeps (kept_reported n).toKept hkeeps
      (fun session _ => (kept_reported n).deliverSession hkeeps session) _ hreported
  exact hafter (finished_receive hh hends hstarted hw)

theorem hasOutcome_closeLink (hh : h.IsLawful) (hw : Closable w)
    (hstate : w.channel.standing.state.isTerminal = false) (hstarted : Started n w)
    (hawaits : AwaitsClose n w) (hreported : Reported n w) :
    HasOutcome n (w.closeLink h).2 := by
  have hafter : Reported n (w.closeLink h).2 :=
    closeLink_keeps (kept_reported n).toKept (hh.keeps (kept_reported n)) hreported
  exact hafter (finished_closeLink hh hw hstate hstarted hawaits)

/-- At any moment, a session that ends a handshake is sure to bring its outcome if and only if the
handshake is registered for the session. -/
theorem hasOutcome_receive_iff (hpending : Pending n w) {session : Session}
    (hends : session.state.isConclusive = true) :
    (∀ g : Host σ, g.IsLawful → HasOutcome n (w.receive g (.session session)).2) ↔
      Listens n w := by
  constructor
  · intro htold
    by_cases hlistens : Listens n w
    · exact hlistens
    · exact absurd (htold .silent Host.silent_isLawful)
        (not_hasOutcome_of_pending (pending_receive_silent session ⟨hpending, hlistens⟩))
  · intro hlistens g hg
    exact hasOutcome_receive hg hends hpending.lt (fun _ => .inr hlistens)
      (reported_of_pending hpending)

/-- At any moment, the close of the link is sure to bring the outcome of a handshake if and only if
the handshake is registered for the close and the session is not over. -/
theorem hasOutcome_closeLink_iff (hpending : Pending n w) (hw : Closable w) :
    (∀ g : Host σ, g.IsLawful → HasOutcome n (w.closeLink g).2) ↔
      AwaitsClose n w ∧ w.channel.standing.state.isTerminal = false := by
  constructor
  · intro htold
    have hsilent := htold .silent Host.silent_isLawful
    have hheard : ¬ (¬ AwaitsClose n w ∨ w.channel.standing.state.isTerminal = true) :=
      fun hunheard => not_hasOutcome_of_pending
        (pending_closeLink_silent hw hpending hunheard) hsilent
    simpa using hheard
  · rintro ⟨hawaits, hstate⟩ g hg
    exact hasOutcome_closeLink hg hw hstate hpending.lt hawaits (reported_of_pending hpending)

/-- In a run of a new channel, no handshake is lost while no callback is running. -/
theorem attentive_after {settings : ChannelSettings} {standing : Standing} {link : Link}
    {driven : Bool} {user : σ} (hcreate : create settings standing link driven user = .ok w)
    (hh : h.IsLawful) (steps : List Step) (n : Nat) :
    Attentive n (w.after h steps) ∧ Watchful n (w.after h steps) ∧
      Reported n (w.after h steps) := by
  have hnone : ¬ Started n w := by
    unfold create at hcreate
    split at hcreate
    · cases hcreate
    · cases hcreate
      exact Nat.not_lt_zero n
  have hnotFinished : ¬ Finished n w := fun hover => hnone hover.lt
  have hnotPending : ¬ Pending n w := fun hpending => hnone hpending.lt
  have hkeeps : h.Keeps (Attentive n) := keeps_attentive hh
  refine ⟨?_, ?_, ?_⟩
  · exact after_keeps (kept_attentive n) hkeeps
      (fun session _ => attentive_deliverSession hh hkeeps session) steps
      (fun hstarted => absurd hstarted hnone)
  · exact (kept_watchful n).after hh (fun _ _ => trivial) steps
      (fun _ hpending => absurd hpending hnotPending)
  · exact (kept_reported n).after hh (fun _ _ => trivial) steps
      (fun hover => absurd hover hnotFinished)

/-- Between the steps of a run, the close of the link brings the outcome of a handshake that has
none if and only if the session is not over. -/
theorem hasOutcome_closeLink_iff_of_watchful (hw : Closable w) (hstarted : Started n w)
    (hwatchful : Watchful n w) (hreported : Reported n w) :
    (∀ g : Host σ, g.IsLawful → HasOutcome n (w.closeLink g).2) ↔
      HasOutcome n w ∨ w.channel.standing.state.isTerminal = false := by
  rcases finished_or_pending hstarted with hover | hpending
  · have hafter : ∀ g : Host σ, g.IsLawful → HasOutcome n (w.closeLink g).2 := by
      intro g hg
      have hkeeps := (@kept_reported σ n).and (kept_finished n)
      have hclosed := closeLink_keeps hkeeps.toKept (hg.keeps hkeeps)
        ⟨hreported, hover⟩
      exact hclosed.1 hclosed.2
    exact ⟨fun _ => .inl (hreported hover), fun _ => hafter⟩
  · have hnone : ¬ HasOutcome n w := not_hasOutcome_of_pending hpending
    have hawaits : AwaitsClose n w := hwatchful hw.connected hpending
    rw [hasOutcome_closeLink_iff hpending hw]
    simp [hnone, hawaits]

/-- When a handshake is told its outcome.

Between the steps of a run, a session that ends handshakes brings the outcome of all that have been
started, whatever the callbacks do.  The close of the link does so too, but for a session that is
over already.

At any moment whatever, also while callbacks run, it depends on the registrations of the
handshake. -/
theorem outcome_told_iff {settings : ChannelSettings} {standing : Standing} {link : Link}
    {driven : Bool} {user : σ} (hcreate : create settings standing link driven user = .ok w)
    (hh : h.IsLawful) (steps : List Step) (n : Nat) :
    let now := w.after h steps
    (Started n now →
      (∀ session : Session, session.state.isConclusive = true →
        ∀ g : Host σ, g.IsLawful → HasOutcome n (now.receive g (.session session)).2) ∧
      (Closable now →
        ((∀ g : Host σ, g.IsLawful → HasOutcome n (now.closeLink g).2) ↔
          HasOutcome n now ∨ now.channel.standing.state.isTerminal = false))) ∧
    ∀ v : World σ, Pending n v →
      (∀ session : Session, session.state.isConclusive = true →
        ((∀ g : Host σ, g.IsLawful → HasOutcome n (v.receive g (.session session)).2) ↔
          Listens n v)) ∧
      (Closable v →
        ((∀ g : Host σ, g.IsLawful → HasOutcome n (v.closeLink g).2) ↔
          AwaitsClose n v ∧ v.channel.standing.state.isTerminal = false)) := by
  intro now
  obtain ⟨hattentive, hwatchful, hreported⟩ := attentive_after hcreate hh steps n
  refine ⟨fun hstarted => ⟨fun session hends g hg => ?_, fun hclosable => ?_⟩,
    fun v hpending => ⟨fun session hends => hasOutcome_receive_iff hpending hends,
      fun hclosable => hasOutcome_closeLink_iff hpending hclosable⟩⟩
  · exact hasOutcome_receive hg hends hstarted hattentive hreported
  · exact hasOutcome_closeLink_iff_of_watchful hclosable hstarted hwatchful hreported

/-- A handshake of the insistent program, and the session that ends it. -/
theorem outcome_told_iff_insistent :
    let w := ({ user := () } : World Unit).after (insistent.host 3)
      [.request (.establish aliceAsGuest "door")]
    Started 0 w ∧ Closable w ∧
      HasOutcome 0 (w.receive (insistent.host 3) (.session { state := .finished })).2 ∧
      HasOutcome 0 (w.closeLink (insistent.host 3)).2 := by
  intro w
  have hstarted : Started 0 w := Nat.zero_lt_one
  have hclosable : Closable w := ⟨rfl, rfl, rfl⟩
  have hcreate : create {} {} {} false () = .ok ({ user := () } : World Unit) := rfl
  have hh := insistent.host_isLawful 3
  obtain ⟨hsession, hclose⟩ := (outcome_told_iff hcreate hh
    [.request (.establish aliceAsGuest "door")] 0).1 hstarted
  exact ⟨hstarted, hclosable, hsession { state := .finished } rfl _ hh,
    (hclose hclosable).mpr (.inr rfl) _ hh⟩

/-- A listener that hands the channel a last session when it is told of one, in front of a
handshake. -/
def hasty : Playbook where
  listeners := [("A", [[.receive (.session { header := { id := some "s" }, state := .failed })]])]

/-- What goes on around it: the handshake is started, the server negotiates while the link cannot be
closed, and later the link is closed. -/
def hastyNegotiation : List Step :=
  [.request (.addListener .session "A" false),
    .request (.establish aliceAsGuest "E"),
    .request (.failToClose true),
    .request (.receive (.session { header := { id := some "s" }, state := .negotiating }))]

/-- The handshake hears neither of the session that failed nor of the close: it has been started,
the session has failed, the link was open and is closed, and no outcome was told. -/
theorem outcome_missed :
    let failed := ({ user := [] } : World (List Role)).after hasty.host hastyNegotiation
    let closed := failed.after hasty.host [.request (.failToClose false), .request .closeLink]
    Pending 0 failed ∧ failed.channel.standing.state = .failed ∧ ¬ HasOutcome 0 failed ∧
      failed.link.connected = true ∧ closed.link.connected = false ∧ ¬ HasOutcome 0 closed := by
  intro failed closed
  have hfailed : Pending 0 failed := ⟨_, rfl, rfl⟩
  have hclosed : Pending 0 closed := ⟨_, rfl, rfl⟩
  exact ⟨hfailed, rfl, not_hasOutcome_of_pending hfailed, rfl, rfl,
    not_hasOutcome_of_pending hclosed⟩

end World
end Courier
