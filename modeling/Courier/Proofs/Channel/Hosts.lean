/-
What the callbacks of a program may do: they make requests.

A callback runs in the middle of an operation of the channel, and may use the channel again.  `Acts`
says what can come of it.  The requests that it makes are answered with callbacks in turn, which are
held to the same, in the worlds where they may be entered.

The programs of `Program` are within this at every depth (`Program.host_within`), so that what is
proved of lawful hosts holds of them.
-/
import Courier.Proofs.Channel.Invariants

namespace Courier

variable {σ : Type} {P R : World σ → Prop} {h : Host σ} {v w : World σ}

/-- What a callback may make of a world: it thinks, and it makes requests.  Nothing is known of the
callbacks of a request but in worlds of `R`. -/
inductive World.Acts (R : World σ → Prop) : World σ → World σ → Prop where
  | rest (w : World σ) : Acts R w w
  | think {v w : World σ} (user : σ) : Acts R { v with user } w → Acts R v w
  | ask {v w : World σ} (h : Host σ) (name : Name) (request : Request)
      (call : ∀ call u, R u → Acts R u (h.call call u))
      (transform : ∀ kind name direction item u, R u →
        ∃ user, (h.transform kind name direction item u).2 = { u with user }) :
      Acts R
        ((v.perform h request).2.record (.answered name request (v.perform h request).1)) w →
      Acts R v w

/-- A host whose callbacks make requests only, as far as they are entered in worlds of `R`.  What
they do elsewhere is not known, so what is proved of all such hosts also says that their callbacks
are entered nowhere else. -/
structure Host.Within (h : Host σ) (R : World σ → Prop) : Prop where
  call : ∀ call (w : World σ), R w → World.Acts R w (h.call call w)
  transform : ∀ kind name direction item (w : World σ), R w →
    ∃ user, (h.transform kind name direction item w).2 = { w with user }

/-- A host whose callbacks make requests only. -/
def Host.IsLawful (h : Host σ) : Prop :=
  h.Within fun _ => True

namespace World

/-- Less is asked of hosts that are entered in fewer worlds. -/
theorem Acts.mono {R' : World σ → Prop} (hR : ∀ w, R' w → R w) (hacts : Acts R v w) :
    Acts R' v w := by
  induction hacts with
  | rest w => exact .rest w
  | think user _ ih => exact .think user ih
  | ask h name request _ htransform _ ihcall ih =>
    exact .ask h name request (fun call u hu => ihcall call u (hR u hu))
      (fun kind name direction item u hu => htransform kind name direction item u (hR u hu)) ih

/-- What requests keep, callbacks keep. -/
theorem Acts.keeps (hk : Kept P) (hR : ∀ w, P w → R w)
    (hsession : ∀ h : Host σ, h.Within R → h.Keeps P → ∀ session w, P w →
      P (w.deliverSession h session))
    (hacts : Acts R v w) : P v → P w := by
  induction hacts with
  | rest w => exact id
  | think user _ ih =>
    intro hv
    exact ih (hk.of_eq hv rfl rfl rfl rfl rfl rfl)
  | ask h name request hcall htransform _ ihcall ih =>
    intro hv
    -- The callbacks of a request are acts of their own, with the same property by induction.
    have hh : h.Keeps P := by
      refine ⟨fun call u hu => ihcall call u (hR u hu) hu, ?_⟩
      intro kind name direction item u hu
      obtain ⟨user, huser⟩ := htransform kind name direction item u (hR u hu)
      rw [huser]
      exact hk.of_eq hu rfl rfl rfl rfl rfl rfl
    have hperformed := perform_keeps hk hh (hsession h ⟨hcall, htransform⟩ hh) request hv
    exact ih (hk.alike (alike_record rfl rfl _) hperformed)

end World

theorem Host.Within.mono {R' : World σ → Prop} (hR : ∀ w, R' w → R w) (hh : h.Within R) :
    h.Within R' where
  call call w hw := (hh.call call w (hR w hw)).mono hR
  transform kind name direction item w hw := hh.transform kind name direction item w (hR w hw)

theorem Host.IsLawful.within (hh : h.IsLawful) (R : World σ → Prop) : h.Within R :=
  hh.mono fun _ _ => trivial

theorem Host.Within.keeps (hh : h.Within R) (hk : World.Kept P) (hR : ∀ w, P w → R w)
    (hsession : ∀ h : Host σ, h.Within R → h.Keeps P → ∀ session w, P w →
      P (w.deliverSession h session)) :
    h.Keeps P where
  call call w hw := (hh.call call w (hR w hw)).keeps hk hR hsession hw
  transform kind name direction item w hw := by
    obtain ⟨user, huser⟩ := hh.transform kind name direction item w (hR w hw)
    rw [huser]
    exact hk.of_eq hw rfl rfl rfl rfl rfl rfl

/-- At every moment, also inside the callbacks, a lawful host keeps what is kept at every moment. -/
theorem Host.Within.keeps_always (hh : h.Within R) (hk : World.KeptAlways P)
    (hR : ∀ w, P w → R w) : h.Keeps P :=
  hh.keeps hk.toKept hR fun _ _ hh session _ hw => hk.deliverSession hh session hw

theorem Host.IsLawful.keeps (hh : h.IsLawful) (hk : World.KeptAlways P) : h.Keeps P :=
  Host.Within.keeps_always hh hk fun _ _ => trivial

theorem World.KeptAlways.after (hk : World.KeptAlways P) (hh : h.Within R) (hR : ∀ w, P w → R w)
    (steps : List Step) (hw : P w) : P (w.after h steps) :=
  have hkeeps := hh.keeps_always hk hR
  World.after_keeps hk.toKept hkeeps (fun session _ hw => hk.deliverSession hkeeps session hw)
    steps hw

/-- A program whose callbacks do nothing. -/
def Host.silent : Host σ where
  call _ w := w
  transform _ _ _ item w := (some item, w)

theorem Host.silent_isLawful : (@Host.silent σ).IsLawful :=
  ⟨fun _ w _ => .rest w, fun _ _ _ _ w _ => ⟨w.user, rfl⟩⟩

/-! ## Programs -/

/-- Running a script is making requests. -/
theorem Script.acts_run (hh : h.Within R) (name : Name) (script : Script Request Reply)
    (w : World σ) :
    World.Acts R w (script.run (World.perform h)
      (fun request reply w => w.record (.answered name request reply)) w) := by
  induction script generalizing w with
  | done => exact .rest w
  | ask request next ih => exact .ask h name request hh.call hh.transform (ih _ _)

/-- A callback runs its script, and its requests are answered one level deeper. -/
theorem Program.call_host_succ (program : Program σ) (depth : Nat) (call : Call) (w : World σ) :
    (program.host (depth + 1)).call call w =
      (program.script call w.user).1.run (World.perform (program.host depth))
        (fun request reply w => w.record (.answered call.name request reply))
        { w with user := (program.script call w.user).2 } :=
  rfl

/-- The callbacks of a program make requests only, however deep they are nested. -/
theorem Program.host_isLawful (program : Program σ) (depth : Nat) :
    (program.host depth).IsLawful := by
  have htransform : ∀ depth kind name direction item (w : World σ),
      ∃ user, ((program.host depth).transform kind name direction item w).2 =
        { w with user } :=
    fun _ _ _ _ _ _ => ⟨_, rfl⟩
  induction depth with
  | zero => exact ⟨fun _ w _ => .rest w, fun _ _ _ _ w _ => htransform 0 _ _ _ _ w⟩
  | succ depth ih =>
    refine ⟨fun call w _ => ?_, fun _ _ _ _ w _ => htransform _ _ _ _ _ w⟩
    rw [call_host_succ]
    exact .think _ (Script.acts_run ih call.name _ _)

end Courier
