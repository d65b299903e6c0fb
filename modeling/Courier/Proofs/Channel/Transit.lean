/-
How items go through the modules of a program.

Modules that leave the channel alone are functions of the items that enter them and of the state of
the program (`Treatment`).  What a row of them makes of an item can be told without any channel
(`Treatment.transit`), and that is what both pipelines of a kind do, on the way out
(`through_sending_treated`) and on the way in (`through_receiving_treated`).  The module that
notifies receipt lets everything pass on its way out; on its way in it sends, and so is no such
module.
-/
import Courier.Proofs.Channel.Vigil

namespace Courier

variable {σ : Type} {h : Host σ}

/-- What modules make of the items that enter them, as functions with a state. -/
abbrev Treatment (σ : Type) :=
  (kind : Traffic) → Name → Direction → kind.Item → σ → Option kind.Item × σ

/-- What has come of an item on its way through modules. -/
structure Transit (α σ : Type) where
  /-- The modules that were entered, in order. -/
  entered : List Name
  /-- What the last module has made of the item, unless one of them swallowed it. -/
  item : Option α
  user : σ

/-- An item goes through modules.  Each is entered with what the one before has made of the item, and
none is entered after one that swallows it. -/
def Treatment.transit (treat : Treatment σ) (kind : Traffic) (direction : Direction) :
    List Name → kind.Item → σ → Transit kind.Item σ
  | [], item, user => ⟨[], some item, user⟩
  | name :: names, item, user =>
    match treat kind name direction item user with
    | (none, user) => ⟨[name], none, user⟩
    | (some item, user) =>
      let rest := treat.transit kind direction names item user
      { rest with entered := name :: rest.entered }

/-- The modules of a host treat items so, and change nothing but the state of the program. -/
def Host.Treats (h : Host σ) (treat : Treatment σ) : Prop :=
  ∀ kind name direction item (w : World σ),
    h.transform kind name direction item
        (w.callOut h (.stage name direction (kind.envelope item))) =
      ((treat kind name direction item w.user).1,
        { w with user := (treat kind name direction item w.user).2 })

/-- The modules that items of a kind go through one way treat them as functions with a state. -/
def Host.TreatsOn (h : Host σ) (treat : Treatment σ) (kind : Traffic) (direction : Direction) :
    Prop :=
  ∀ name item (w : World σ),
    h.transform kind name direction item
        (w.callOut h (.stage name direction (kind.envelope item))) =
      ((treat kind name direction item w.user).1,
        { w with user := (treat kind name direction item w.user).2 })

theorem Host.Treats.on {treat : Treatment σ} (ht : h.Treats treat) (kind : Traffic)
    (direction : Direction) : h.TreatsOn treat kind direction :=
  fun name => ht kind name direction

/-- What the modules of a program do, where they ask for nothing. -/
def Program.treatment (program : Program σ) : Treatment σ :=
  fun kind name direction item user =>
    program.transform kind name direction item
      (program.script (.stage name direction (kind.envelope item)) user).2

/-- Modules whose scripts ask for nothing are functions with a state, whatever the listeners of the
program do. -/
theorem Program.host_treats {program : Program σ}
    (hdone : ∀ name direction envelope user,
      (program.script (.stage name direction envelope) user).1 = .done) (depth : Nat) :
    (program.host (depth + 1)).Treats program.treatment := by
  intro kind name direction item w
  unfold World.callOut
  rw [call_host_succ, hdone]
  rfl

/-- A program that counts what enters its modules.  A module named `gate` swallows every second item;
the others put their names into the ids of the items. -/
def countingProgram : Program Nat where
  script _ count := (.done, count)
  transform kind name _ item count :=
    if name = "gate" then (if count % 2 = 1 then none else some item, count + 1)
    else (some (kind.modifyHeader (fun header => { header with id := some name }) item), count + 1)

theorem countingProgram_treats :
    (countingProgram.host 1).Treats countingProgram.treatment :=
  Program.host_treats (fun _ _ _ _ => rfl) 0

namespace World

/-- The modules of the program that items of a kind go through. -/
def modulesOf (kind : Traffic) (w : World σ) : List Name :=
  (w.channel.pipelines.get kind).modules.filterMap Stage.name?

/-- An item has gone through modules. -/
def passed (direction : Direction) {α : Type} (transit : Transit α σ) (w : World σ) : World σ :=
  { w with
    user := transit.user
    trace := w.trace ++ transit.entered.map fun name => .entered name direction }

section Treated

variable {treat : Treatment σ} {kind : Traffic} {direction : Direction}
  {step : Stage → kind.Item → World σ → Option kind.Item × World σ}

/-- Whatever takes an item through a single module as the treatment says takes it through a row of
them as the transit says. -/
theorem through_treated
    (hnamed : ∀ name item w, step (.named name) item w =
      ((treat kind name direction item w.user).1,
        { w.record (.entered name direction) with
          user := (treat kind name direction item w.user).2 }))
    {stages : List Stage}
    (hreceipt : Stage.receipt ∈ stages → ∀ item w, step .receipt item w = (some item, w))
    (item : kind.Item) (w : World σ) :
    Pipeline.through step stages item w =
      ((treat.transit kind direction (stages.filterMap Stage.name?) item w.user).item,
        w.passed direction
          (treat.transit kind direction (stages.filterMap Stage.name?) item w.user)) := by
  induction stages generalizing item w with
  | nil => simp [Pipeline.through, Treatment.transit, passed]
  | cons stage stages ih =>
    have hrest : Stage.receipt ∈ stages → ∀ item w, step .receipt item w = (some item, w) :=
      fun hmem => hreceipt (List.mem_cons_of_mem stage hmem)
    cases stage with
    | receipt =>
      have hpass := hreceipt List.mem_cons_self item w
      rw [Pipeline.through, hpass]
      exact ih hrest item w
    | named name =>
      have hnames : (Stage.named name :: stages).filterMap Stage.name? =
          name :: stages.filterMap Stage.name? := rfl
      rw [Pipeline.through, hnamed, hnames, Treatment.transit]
      rcases treat kind name direction item w.user with ⟨result | result, user⟩
      · rfl
      · dsimp only
        rw [ih hrest]
        simp [passed, record, List.append_assoc]

/-- What is sent goes through the modules of its kind, and through no other. -/
theorem through_sending_treated (ht : h.TreatsOn treat kind .sending) (item : kind.Item)
    (w : World σ) :
    Pipeline.through (sendingStep h kind) (w.channel.pipelines.get kind).modules item w =
      ((treat.transit kind .sending (w.modulesOf kind) item w.user).item,
        w.passed .sending (treat.transit kind .sending (w.modulesOf kind) item w.user)) := by
  apply through_treated
  · intro name item w
    exact ht name item (w.record (.entered name .sending))
  · intro _ item w
    rfl

/-- What is received goes through the modules of its kind, where none of them notifies receipt. -/
theorem through_receiving_treated (ht : h.TreatsOn treat kind .receiving) {w : World σ}
    (hstages : Stage.receipt ∉ (w.channel.pipelines.get kind).modules) (item : kind.Item) :
    Pipeline.through (receivingStep h kind) (w.channel.pipelines.get kind).modules item w =
      ((treat.transit kind .receiving (w.modulesOf kind) item w.user).item,
        w.passed .receiving (treat.transit kind .receiving (w.modulesOf kind) item w.user)) := by
  apply through_treated
  · intro name item w
    exact ht name item (w.record (.entered name .receiving))
  · intro hmem
    exact absurd hmem hstages

end Treated

/-! ## What is sent in the course of a reception -/

/-- An item has gone through the modules that items of its kind are sent through.  What came out of
them was handed to the link; nothing was, if the item was swallowed. -/
def posted (treat : Treatment σ) (kind : Traffic) (item : kind.Item) (w : World σ) : World σ :=
  let transit := treat.transit kind .sending (w.modulesOf kind) item w.user
  { w with
    user := transit.user
    link := transit.item.elim w.link fun result => (w.link.send (kind.envelope result)).2
    trace := w.trace ++ (transit.entered.map fun name => .entered name .sending) ++
      transit.item.toList.map fun result => handing w.link (kind.envelope result) }

/-- Whoever sends while something is received counts as active already, so that only the link and
the program notice. -/
theorem sendUnchecked_posted {treat : Treatment σ} {kind : Traffic}
    (ht : h.TreatsOn treat kind .sending) (item : kind.Item) (w : World σ) :
    (w.touch.sendUnchecked h kind item true).2 = w.touch.posted treat kind item := by
  unfold sendUnchecked posted
  rw [through_sending_treated ht]
  dsimp only
  cases (treat.transit kind .sending (w.touch.modulesOf kind) item w.touch.user).item with
  | none => simp [passed]
  | some result => exact transmit_unnoted (kind.envelope result) _

end World
end Courier
