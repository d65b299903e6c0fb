/-
Relations that hold throughout a watched run.

A relation between worlds with a diary that looks at the session, the link, the session listeners and
the diary only (`Minds`) holds of all that a program does, as deep as its callbacks are nested, if it
holds across turns (`recount_obeys`).  It may be that it only holds as long as some things are not
asked for, such as to take a listener out of the session registry.
-/
import Courier.Proofs.Channel.Chronicle

namespace Courier

variable {σ : Type}

/-- All that a script may ever ask for is such. -/
def Script.All {ρ α : Type} (P : ρ → Prop) : Script ρ α → Prop
  | done => True
  | ask request next => P request ∧ ∀ reply, (next reply).All P

theorem Script.All.of_forall {ρ α : Type} {P : ρ → Prop} (hP : ∀ request, P request) :
    ∀ steps : Script ρ α, steps.All P
  | .done => trivial
  | .ask request next => ⟨hP request, fun reply => of_forall hP (next reply)⟩

/-- The listener that a moment may take out of the session registry. -/
def Moment.dismissed? : Moment → Option Name
  | .request asked => asked.dismissed?
  | _ => none

namespace World

/-- Two worlds are the same as far as the session, the link, the session listeners and the program
are concerned. -/
structure Same (v w : World σ) : Prop where
  standing : w.channel.standing = v.channel.standing
  keepAlive : w.channel.keepAlive = v.channel.keepAlive
  connected : w.link.connected = v.link.connected
  closeCalls : w.link.closeCalls = v.link.closeCalls
  sessionListeners : w.channel.sessionListeners = v.channel.sessionListeners
  user : w.user = v.user

theorem Same.refl (w : World σ) : Same w w :=
  ⟨rfl, rfl, rfl, rfl, rfl, rfl⟩

theorem Same.trans {u v w : World σ} (huv : Same u v) (hvw : Same v w) : Same u w where
  standing := hvw.standing.trans huv.standing
  keepAlive := hvw.keepAlive.trans huv.keepAlive
  connected := hvw.connected.trans huv.connected
  closeCalls := hvw.closeCalls.trans huv.closeCalls
  sessionListeners := hvw.sessionListeners.trans huv.sessionListeners
  user := hvw.user.trans huv.user

theorem Still.same {v w : World σ} (hstill : Still v w) : Same v w where
  standing := hstill.standing
  keepAlive := congrArg Pulse.keepAlive hstill.pulse
  connected := congrArg Pulse.connected hstill.pulse
  closeCalls := congrArg Pulse.closeCalls hstill.pulse
  sessionListeners := hstill.sessionListeners
  user := hstill.user

theorem same_transmit (envelope : Envelope) (isActivity : Bool) (w : World σ) :
    Same w (w.transmit envelope isActivity).2 := by
  have htouch : Same w (if isActivity then w.touch else w) := by
    cases isActivity <;> exact ⟨rfl, rfl, rfl, rfl, rfl, rfl⟩
  refine htouch.trans ?_
  unfold transmit Link.send
  generalize (if isActivity = true then w.touch else w) = u
  dsimp only
  cases u.link.sendFault? <;> exact ⟨rfl, rfl, rfl, rfl, rfl, rfl⟩

/-- A callback is entered, which is noted. -/
def entered (call : Call) (w : World (Diary σ)) : World (Diary σ) :=
  { w with depth := w.depth + 1 }.note (.called call)

/-- A relation that looks at the session, the link, the session listeners and the diary.  Nothing is
said of turns, nor of notices of a session or of the close. -/
structure Minds (spared : Name → Prop) (R : World (Diary σ) → World (Diary σ) → Prop) : Prop where
  same : ∀ {v w}, Same v w → R v w
  trans : ∀ {u v w}, R u v → R v w → R u w
  think : ∀ user w, R w (w.think user)
  register : ∀ listener once w, R w (w.addSessionListener listener once).2
  unregister : ∀ listener w, (∀ name, spared name → listener ≠ .named name) →
    R w (w.removeSessionListener listener).2
  taken : ∀ w, R w w.sessionTaken
  called : ∀ call w, call.isPlain = true → R w (w.note (.called call))
  begun : ∀ m w, w.turn? m = none → R w (w.note (.begun m))

/-- From where it is noted on, what a callback of a host does is within a relation. -/
structure Obeys (h : Host (Diary σ)) (R : World (Diary σ) → World (Diary σ) → Prop) : Prop where
  call : ∀ call w, R (w.note (.called call)) (h.call call w)
  transform : ∀ kind name direction item w,
    ∃ user, (h.transform kind name direction item w).2 = w.think user

theorem Obeys.mono {h : Host (Diary σ)} {R R' : World (Diary σ) → World (Diary σ) → Prop}
    (hf : Obeys h R) (hR : ∀ {v w}, R v w → R' v w) : Obeys h R' where
  call call w := hR (hf.call call w)
  transform := hf.transform

section

variable {R : World (Diary σ) → World (Diary σ) → Prop} {spared : Name → Prop}
  {h : Host (Diary σ)} {w : World (Diary σ)}

theorem Minds.refl (hm : Minds spared R) (w : World (Diary σ)) : R w w :=
  hm.same (.refl w)

theorem Minds.deeper (hm : Minds spared R) (w : World (Diary σ)) :
    R w { w with depth := w.depth + 1 } :=
  hm.same ⟨rfl, rfl, rfl, rfl, rfl, rfl⟩

variable (hm : Minds spared R) (hf : Obeys h R)
include hm hf

theorem callOut_obeys (call : Call) (w : World (Diary σ)) : R (w.entered call) (w.callOut h call) :=
  hm.trans (hf.call call _) (hm.same ⟨rfl, rfl, rfl, rfl, rfl, rfl⟩)

/-- A call that may be noted may be made. -/
theorem callOut_noted {call : Call} (hnoted : ∀ w : World (Diary σ), R w (w.note (.called call)))
    (w : World (Diary σ)) : R w (w.callOut h call) :=
  hm.trans (hm.trans (hm.deeper w) (hnoted _)) (callOut_obeys hm hf call w)

theorem Obeys.carries : Carries spared h R where
  still hstill := hm.same hstill.same
  trans := hm.trans
  call call w hcall := callOut_noted hm hf (fun w => hm.called call w hcall) w
  retire number handshake w := by
    have hremoved := hm.unregister (.handshake number) w fun _ _ => nofun
    exact hm.trans hremoved (hm.same ⟨rfl, rfl, rfl, rfl, rfl, rfl⟩)
  transform kind name direction item w := by
    obtain ⟨user, huser⟩ := hf.transform kind name direction item w
    rw [huser]
    exact hm.think user w
  transmit envelope w := hm.same (same_transmit envelope true w)
  register := hm.register
  unregister := hm.unregister
  taken := hm.taken

/-! ## Moments that are no turns -/

theorem perform_quiet {request : Request} (hturn : w.turn? (.request request) = none)
    (hspares : ∀ name, request.dismissed? = some name → ¬spared name) :
    R w (w.perform h request).2 := by
  by_cases hrefused : w.refuses request = true
  · rw [perform_of_refused hrefused]
    exact hm.refl w
  unfold turn? at hturn
  dsimp only at hturn
  rw [if_neg hrefused] at hturn
  by_cases hcase : request.isPlain = true
  · have hbegun : Same w (w.begun request) := by
      unfold begun opened
      rw [if_neg hrefused]
      cases request with
      | receive envelope => cases envelope <;> first | exact ⟨rfl, rfl, rfl, rfl, rfl, rfl⟩ | cases hcase
      | raise envelope =>
        dsimp only
        split
        · cases envelope <;> first | exact ⟨rfl, rfl, rfl, rfl, rfl, rfl⟩ | cases hcase
        · exact .refl w
      | close => cases hcase
      | _ => exact ⟨rfl, rfl, rfl, rfl, rfl, rfl⟩
    exact hm.trans (hm.same hbegun) (perform_carries (hf.carries hm) hcase hspares w)
  -- A session that the link delivers when the channel is gone.
  · rw [perform_of_not_refused hrefused]
    cases request with
    | raise envelope =>
      cases envelope with
      | session s =>
        have hgone : w.alive ≠ true := fun halive => by simp [halive] at hturn
        show R w (w.raise h (.session s))
        unfold raise
        rw [if_neg hgone]
        exact hm.refl w
      | message | notification | command => exact absurd rfl hcase
    | receive envelope =>
      cases envelope with
      | session => cases hturn
      | message | notification | command => exact absurd rfl hcase
    | close | closeLink => cases hturn
    | _ => exact absurd rfl hcase

theorem happen_quiet {m : Moment} (hturn : w.turn? m = none)
    (hspares : ∀ name, m.dismissed? = some name → ¬spared name) : R w (w.happen h m) := by
  have hc := hf.carries hm
  cases m with
  | request request => exact perform_quiet hm hf hturn hspares
  | await establishment name =>
    show R w (if w.held then w.await establishment name else w)
    split
    · refine hm.trans (hm.same ?_) (await_carries hc establishment name w)
      exact ⟨rfl, rfl, rfl, rfl, rfl, rfl⟩
    · exact hm.refl w
  | settle =>
    show R w w.settle
    rw [settle_eq]
    exact hm.same ⟨rfl, rfl, rfl, rfl, rfl, rfl⟩
  | pass duration => exact hm.same ⟨rfl, rfl, rfl, rfl, rfl, rfl⟩
  | tick ahead =>
    show R w (if w.Heeds ahead then w.tick h else w)
    unfold turn? at hturn
    dsimp only at hturn
    split
    · rename_i hheeds
      rw [if_pos hheeds] at hturn
      unfold tick
      split
      · rename_i hgone
        rw [if_pos hgone] at hturn
        cases hturn
      · rename_i halive
        rw [if_neg halive] at hturn
        split
        · rename_i hsilent
          rw [if_pos hsilent] at hturn
          cases hturn
        · split
          · refine hm.trans (hm.same ?_) (sendUnchecked_carries hc
              (fun envelope w => hm.same (same_transmit envelope false w)) .command _ w.drawId.2)
            exact ⟨rfl, rfl, rfl, rfl, rfl, rfl⟩
          · exact hm.refl w
    · exact hm.refl w

end

/-! ## Watched runs -/

theorem beginning_of_turn {h : Host (Diary σ)} {m : Moment} {turn : Turn} {w : World (Diary σ)}
    (hturn : w.turn? m = some turn) : w.beginning h m = (w.note (.begun m)).turned h turn :=
  happen_of_turn hturn

section

variable {R : World (Diary σ) → World (Diary σ) → Prop} {spared : Name → Prop}
  {ok : Moment → Prop} {program : Program σ}
  (hm : Minds spared R)
  (hspares : ∀ m, ok m → ∀ name, m.dismissed? = some name → ¬spared name)
  (hturn : ∀ depth, Obeys (program.watched depth) R → ∀ m turn (w : World (Diary σ)),
    w.turn? m = some turn → R w ((w.note (.begun m)).turned (program.watched depth) turn))
include hm hspares hturn

theorem beginning_obeys {depth : Nat} (hf : Obeys (program.watched depth) R) {m : Moment}
    (hok : ok m) (w : World (Diary σ)) : R w (w.beginning (program.watched depth) m) := by
  cases hcase : w.turn? m with
  | none =>
    refine hm.trans (hm.begun m w hcase) ?_
    exact happen_quiet hm hf (w := w.note (.begun m)) hcase (hspares m hok)
  | some turn =>
    rw [beginning_of_turn hcase]
    exact hturn depth hf m turn w hcase

variable (hscript : ∀ call user, (program.script call user).1.All fun request => ok (.request request))
include hscript

/-- What holds across turns holds of all that callbacks do, however deep they are nested. -/
theorem watched_obeys (depth : Nat) : Obeys (program.watched depth) R := by
  have htransform : ∀ depth kind name direction item (w : World (Diary σ)),
      ∃ user, ((program.watched depth).transform kind name direction item w).2 = w.think user := by
    intro depth
    cases depth <;> exact fun _ _ _ _ _ => ⟨_, rfl⟩
  induction depth with
  | zero => exact ⟨fun _ _ => hm.refl _, htransform 0⟩
  | succ depth ih =>
    refine ⟨fun call w => ?_, htransform _⟩
    have hrun : ∀ (steps : Script Request Reply) (v : World (Diary σ)),
        steps.All (fun request => ok (.request request)) → R v
          (steps.run
            (fun request w =>
              (w.note (.begun (.request request))).perform (program.watched depth) request)
            (fun request reply w => w.record (.answered call.name request reply)) v) := by
      intro steps
      induction steps with
      | done => exact fun v _ => hm.refl v
      | ask request next ihnext =>
        intro v hall
        have hbegun := beginning_obeys hm hspares hturn ih hall.1 v
        refine hm.trans hbegun (hm.trans ?_ (ihnext _ _ (hall.2 _)))
        exact hm.same ⟨rfl, rfl, rfl, rfl, rfl, rfl⟩
    rw [Program.call_watched_succ]
    exact hm.trans (hm.think _ _) (hrun _ _ (hscript call w.user.user))

/-- From the beginning of a run to its end, a relation holds that holds across turns. -/
theorem recount_obeys (depth : Nat) {moments : List Moment} (hok : ∀ m ∈ moments, ok m)
    (w : World (Diary σ)) : R w (w.recount (program.watched depth) moments) := by
  have hf := watched_obeys hm hspares hturn hscript depth
  induction moments generalizing w with
  | nil => exact hm.refl w
  | cons m moments ih =>
    have hfirst := beginning_obeys hm hspares hturn hf (hok m List.mem_cons_self) w
    exact hm.trans hfirst (ih (fun m hmem => hok m (List.mem_cons_of_mem _ hmem)) _)

end

section

variable {R : World (Diary σ) → World (Diary σ) → Prop} {program : Program σ}
  (hm : Minds (fun _ => False) R)
  (hturn : ∀ depth, Obeys (program.watched depth) R → ∀ m turn (w : World (Diary σ)),
    w.turn? m = some turn → R w ((w.note (.begun m)).turned (program.watched depth) turn))
include hm hturn

/-- The same of callbacks, whatever they ask for. -/
theorem watched_within (depth : Nat) : Obeys (program.watched depth) R := by
  have hspares : ∀ m : Moment, True → ∀ name, m.dismissed? = some name → ¬False :=
    fun _ _ _ _ => id
  exact watched_obeys hm hspares hturn (fun _ _ => .of_forall (fun _ => trivial) _) depth

/-- The same of runs, whatever is asked for in them. -/
theorem recount_within (depth : Nat) (moments : List Moment) (w : World (Diary σ)) :
    R w (w.recount (program.watched depth) moments) := by
  have hspares : ∀ m : Moment, True → ∀ name, m.dismissed? = some name → ¬False :=
    fun _ _ _ _ => id
  exact recount_obeys hm hspares hturn (fun _ _ => .of_forall (fun _ => trivial) _) depth
    (fun _ _ => trivial) w

end

end World
end Courier
