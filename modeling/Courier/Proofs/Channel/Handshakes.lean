/-
What a world shows of its handshakes, and which operations of a channel leave it as it is.

Almost all that happens in a world leaves the handshakes alone: `Alike` says so of two worlds, and
here is a lemma for each operation that does.
-/
import Courier.Channel.Requests
import Courier.Proofs.Registry

namespace Courier

/-- The outcome that an event tells of, the handshake it belongs to, and who is told. -/
def World.Event.conclusion? : World.Event → Option (Nat × Name × Outcome)
  | .concluded number name outcome => some (number, name, outcome)
  | _ => none

/-- The outcome that an event tells one who waited for it. -/
def World.Event.resolution? : World.Event → Option (Name × Outcome)
  | .resolved name outcome => some (name, outcome)
  | _ => none

namespace World

variable {σ : Type} {v w : World σ} {h : Host σ} {n : Nat}

/-! ## What a world shows of its handshakes -/

/-- Whether a handshake is registered for the next session. -/
def Listens (n : Nat) (w : World σ) : Prop :=
  .handshake n ∈ w.channel.sessionListeners.listeners

/-- Whether a handshake is registered for the close of the link. -/
def AwaitsClose (n : Nat) (w : World σ) : Prop :=
  .handshake n ∈ w.channel.closeListeners.listeners

/-- Whether a handshake has been started and not been told its outcome. -/
def Pending (n : Nat) (w : World σ) : Prop :=
  ∃ handshake, w.channel.handshakes[n]? = some handshake ∧ handshake.finished = false

/-- Whether a handshake has been told its outcome. -/
def Finished (n : Nat) (w : World σ) : Prop :=
  ∃ handshake, w.channel.handshakes[n]? = some handshake ∧ handshake.finished = true

/-- The outcomes that listeners of the program were told, in order. -/
def conclusions (w : World σ) : List (Nat × Name × Outcome) :=
  w.trace.filterMap Event.conclusion?

/-- The outcomes of those who wait, told or about to be told. -/
def answers (w : World σ) : List (Name × Outcome) :=
  w.trace.filterMap Event.resolution? ++ w.arrived

/-- Two worlds that show the same of the handshakes that have been started.  Others may have been
unregistered, but none was registered. -/
structure Alike (v w : World σ) : Prop where
  handshakes : w.channel.handshakes = v.channel.handshakes
  listens : ∀ n < v.channel.handshakes.length, (Listens n w ↔ Listens n v)
  awaitsClose : ∀ n < v.channel.handshakes.length, (AwaitsClose n w ↔ AwaitsClose n v)
  listened : ∀ n, Listens n w → Listens n v
  awaitedClose : ∀ n, AwaitsClose n w → AwaitsClose n v
  connected : w.link.connected = v.link.connected
  conclusions : w.conclusions = v.conclusions
  answers : w.answers = v.answers

theorem Alike.refl (w : World σ) : Alike w w :=
  ⟨rfl, fun _ _ => Iff.rfl, fun _ _ => Iff.rfl, fun _ => id, fun _ => id, rfl, rfl, rfl⟩

theorem Alike.trans {u : World σ} (huv : Alike u v) (hvw : Alike v w) : Alike u w where
  handshakes := hvw.handshakes.trans huv.handshakes
  listens n hn := (hvw.listens n (by rwa [huv.handshakes])).trans (huv.listens n hn)
  awaitsClose n hn := (hvw.awaitsClose n (by rwa [huv.handshakes])).trans (huv.awaitsClose n hn)
  listened n hw := huv.listened n (hvw.listened n hw)
  awaitedClose n hw := huv.awaitedClose n (hvw.awaitedClose n hw)
  connected := hvw.connected.trans huv.connected
  conclusions := hvw.conclusions.trans huv.conclusions
  answers := hvw.answers.trans huv.answers

/-! ## Operations that leave the handshakes alone -/

/-- A world that differs in other things than these shows the same of its handshakes. -/
theorem alike_of_eq (hhandshakes : w.channel.handshakes = v.channel.handshakes)
    (hsession : w.channel.sessionListeners = v.channel.sessionListeners)
    (hclose : w.channel.closeListeners = v.channel.closeListeners)
    (hconnected : w.link.connected = v.link.connected)
    (htrace : w.trace = v.trace) (harrived : w.arrived = v.arrived) : Alike v w where
  handshakes := hhandshakes
  listens n _ := by rw [Listens, Listens, hsession]
  awaitsClose n _ := by rw [AwaitsClose, AwaitsClose, hclose]
  listened n hw := by rwa [Listens, hsession] at hw
  awaitedClose n hw := by rwa [AwaitsClose, hclose] at hw
  connected := hconnected
  conclusions := by rw [conclusions, conclusions, htrace]
  answers := by rw [answers, answers, htrace, harrived]

theorem conclusions_record {event : Event} (hconclusion : event.conclusion? = none) (w : World σ) :
    (w.record event).conclusions = w.conclusions := by
  simp [conclusions, record, List.filterMap_append, hconclusion]

theorem alike_record {event : Event} (hconclusion : event.conclusion? = none)
    (hresolution : event.resolution? = none) (w : World σ) : Alike w (w.record event) where
  handshakes := rfl
  listens _ _ := Iff.rfl
  awaitsClose _ _ := Iff.rfl
  listened _ := id
  awaitedClose _ := id
  connected := rfl
  conclusions := conclusions_record hconclusion w
  answers := by
    simp [answers, record, List.filterMap_append, hresolution]

theorem alike_setLink {link : Link} (h : link.connected = w.link.connected) :
    Alike w { w with link } :=
  alike_of_eq rfl rfl rfl h rfl rfl

theorem alike_touch (w : World σ) : Alike w w.touch :=
  alike_of_eq rfl rfl rfl rfl rfl rfl

theorem alike_stopKeepAlive (w : World σ) : Alike w w.stopKeepAlive :=
  alike_of_eq rfl rfl rfl rfl rfl rfl

theorem connected_send (link : Link) (envelope : Envelope) :
    (link.send envelope).2.connected = link.connected := by
  unfold Link.send
  dsimp only
  split <;> rfl

theorem alike_transmit (envelope : Envelope) (isActivity : Bool) (w : World σ) :
    Alike w (w.transmit envelope isActivity).2 := by
  have htouch : Alike w (if isActivity then w.touch else w) := by
    cases isActivity
    · exact Alike.refl w
    · exact alike_touch w
  refine htouch.trans ?_
  unfold transmit
  generalize (if isActivity = true then w.touch else w) = u
  have hconnected := connected_send u.link envelope
  dsimp only
  cases hsend : u.link.send envelope with
  | mk result link =>
    rw [hsend] at hconnected
    have hlink : Alike u { u with link } := alike_setLink hconnected
    cases result with
    | ok => exact hlink.trans (alike_record rfl rfl _)
    | error fault => exact hlink.trans (alike_record rfl rfl _)

theorem alike_sendSession (session : Session) (w : World σ) :
    Alike w (w.sendSession session).2 :=
  alike_transmit _ _ _

theorem alike_negotiate (compression : Compression) (encryption : Encryption) (w : World σ) :
    Alike w (w.negotiate compression encryption).2 := by
  unfold negotiate
  split
  · exact Alike.refl w
  · exact alike_sendSession _ w

theorem alike_authenticate (identity : Identity) (authentication : Authentication)
    (place : Option String) (w : World σ) :
    Alike w (w.authenticate identity authentication place).2 := by
  unfold authenticate
  split
  · exact Alike.refl w
  · split
    · exact Alike.refl w
    · exact alike_sendSession _ w

theorem alike_finishSession (w : World σ) : Alike w w.finishSession.2 := by
  unfold finishSession
  split
  · exact Alike.refl w
  · exact alike_sendSession _ w

theorem connected_setCompression (link : Link) (compression : Compression) :
    (link.setCompression compression).2.connected = link.connected := by
  unfold Link.setCompression
  split <;> rfl

theorem connected_setEncryption (link : Link) (encryption : Encryption) :
    (link.setEncryption encryption).2.connected = link.connected := by
  unfold Link.setEncryption
  split <;> rfl

theorem alike_configure_none (encryption : Option Encryption) (w : World σ) :
    Alike w (w.configure none encryption).2 := by
  unfold configure
  dsimp only
  split
  · exact Alike.refl w
  · rename_i value
    have hset : Alike w
        ({ w with link := (w.link.setEncryption value).2 }.record (.encryptionSet value)) :=
      (alike_setLink (connected_setEncryption w.link value)).trans (alike_record rfl rfl _)
    split
    · exact Alike.refl w
    · split <;> exact hset

/-- A compression is set first, and the rest is as if there were none to set. -/
theorem configure_some (compression : Compression) (encryption : Option Encryption)
    (w : World σ) :
    w.configure (some compression) encryption =
      if w.link.compression = compression then w.configure none encryption
      else
        let set := w.link.setCompression compression
        let w := { w with link := set.2 }.record (.compressionSet compression)
        match set.1 with
        | .error fault => (.error (.transport fault), w)
        | .ok () => w.configure none encryption := by
  unfold configure
  dsimp only
  by_cases h : w.link.compression = compression
  · simp only [if_pos h]
  · cases (w.link.setCompression compression).1 <;> simp only [if_neg h]

theorem alike_configure (compression : Option Compression) (encryption : Option Encryption)
    (w : World σ) : Alike w (w.configure compression encryption).2 := by
  cases compression with
  | none => exact alike_configure_none encryption w
  | some value =>
    have hset : Alike w
        ({ w with link := (w.link.setCompression value).2 }.record (.compressionSet value)) :=
      (alike_setLink (connected_setCompression w.link value)).trans (alike_record rfl rfl _)
    rw [configure_some]
    split
    · exact alike_configure_none encryption w
    · dsimp only
      split
      · exact hset
      · exact hset.trans (alike_configure_none encryption _)

theorem alike_performStep (establishment : Establishment) (step : HandshakeStep) (w : World σ) :
    Alike w (w.performStep establishment step).2 := by
  cases step with
  | negotiate compression encryption => exact alike_negotiate _ _ w
  | configure compression encryption => exact alike_configure _ _ w
  | authenticate => exact alike_authenticate _ _ _ w
  | complete => exact Alike.refl w

theorem alike_setSessionListeners {registry : Registry Subscriber}
    (h : ∀ n, .handshake n ∈ registry.listeners ↔ Listens n w) :
    Alike w (w.modify fun channel => { channel with sessionListeners := registry }) :=
  ⟨rfl, fun n _ => h n, fun _ _ => Iff.rfl, fun n => (h n).mp, fun _ => id, rfl, rfl, rfl⟩

theorem alike_setCloseListeners {registry : Registry Subscriber}
    (h : ∀ n, .handshake n ∈ registry.listeners ↔ AwaitsClose n w) :
    Alike w (w.modify fun channel => { channel with closeListeners := registry }) :=
  ⟨rfl, fun _ _ => Iff.rfl, fun n _ => h n, fun _ => id, fun n => (h n).mp, rfl, rfl, rfl⟩

/-- The listeners of the program are no handshakes. -/
theorem mem_add_named {registry : Registry Subscriber} {name : Name} {once : Bool} :
    .handshake n ∈ (registry.add (.named name) once).2.listeners ↔
      .handshake n ∈ registry.listeners := by
  rw [Registry.mem_add]
  simp

theorem mem_remove_named {registry : Registry Subscriber} {name : Name} :
    .handshake n ∈ (registry.remove (.named name)).2.listeners ↔
      .handshake n ∈ registry.listeners := by
  rw [Registry.mem_remove]
  simp

theorem alike_addSessionListener (name : Name) (once : Bool) (w : World σ) :
    Alike w (w.addSessionListener (.named name) once).2 :=
  alike_setSessionListeners fun _ => mem_add_named

theorem alike_removeSessionListener (name : Name) (w : World σ) :
    Alike w (w.removeSessionListener (.named name)).2 :=
  alike_setSessionListeners fun _ => mem_remove_named

theorem alike_addListener (audience : Audience) (name : Name) (once : Bool) (w : World σ) :
    Alike w (w.addListener audience name once).2 := by
  cases audience with
  | traffic kind => exact alike_of_eq rfl rfl rfl rfl rfl rfl
  | session => exact alike_addSessionListener name once w
  | close => exact alike_setCloseListeners fun _ => mem_add_named

theorem alike_removeListener (audience : Audience) (name : Name) (w : World σ) :
    Alike w (w.removeListener audience name).2 := by
  cases audience with
  | traffic kind => exact alike_of_eq rfl rfl rfl rfl rfl rfl
  | session => exact alike_removeSessionListener name w
  | close => exact alike_setCloseListeners fun _ => mem_remove_named

theorem alike_startSession (name : Name) (w : World σ) :
    Alike w (w.startSession (.named name)).2 := by
  have hsent : Alike w
      ((w.addSessionListener (.named name) true).2.sendSession { state := .new }).2 :=
    (alike_addSessionListener name true w).trans (alike_sendSession _ _)
  unfold startSession
  split
  · exact Alike.refl w
  · split
    · rename_i heq
      rwa [heq] at hsent
    · rename_i heq
      rw [heq] at hsent
      exact hsent.trans (alike_removeSessionListener name _)

theorem settle_eq (w : World σ) : w.settle = { w with
    trace := w.trace ++ w.arrived.map fun (name, outcome) => .resolved name outcome
    arrived := []
    waiting := w.waiting - w.arrived.length } := by
  have hseen : ∀ (arrived : List (Name × Outcome)) (v : World σ),
      arrived.foldl (fun w (name, outcome) => w.record (.resolved name outcome)) v =
        { v with trace :=
            v.trace ++ arrived.map fun (name, outcome) => .resolved name outcome } := by
    intro arrived
    induction arrived with
    | nil => intro v; simp
    | cons told arrived ih =>
      intro v
      rw [List.foldl_cons, ih]
      simp [record]
  unfold settle
  rw [hseen]

/-- Those who wait have seen what has arrived; it is the same that they were told. -/
theorem alike_settle (w : World σ) : Alike w w.settle := by
  rw [settle_eq]
  refine ⟨rfl, fun _ _ => Iff.rfl, fun _ _ => Iff.rfl, fun _ => id, fun _ => id, rfl, ?_, ?_⟩
  · simp [conclusions, List.filterMap_append, List.filterMap_map, Function.comp_def,
      Event.conclusion?]
  · simp [answers, List.filterMap_append, List.filterMap_map, Function.comp_def,
      Event.resolution?]

end World
end Courier
