/-
Pipelines: what an envelope goes through on its way out or in.

A pipeline is a list of modules, in which a module may stand several times.  Each module passes an
item on, changed or not, or swallows it, and then no later module sees it.  An item goes through the
modules that are in the pipeline when it starts, whatever they do to the pipeline.
-/
import Courier.Script

namespace Courier

/-- The way an item goes. -/
inductive Direction where
  | sending
  | receiving
  deriving DecidableEq, Repr, Inhabited

/-- Modules in the order in which items go through them. -/
structure Pipeline (ι : Type) where
  modules : List ι := []
  deriving DecidableEq, Repr

namespace Pipeline

variable {ι β ω : Type}

instance : Inhabited (Pipeline ι) := ⟨{}⟩

def size (pipeline : Pipeline ι) : Nat :=
  pipeline.modules.length

def isEmpty (pipeline : Pipeline ι) : Bool :=
  pipeline.modules.isEmpty

/-- Puts a module at the end. -/
def add (pipeline : Pipeline ι) (m : ι) : Pipeline ι :=
  ⟨pipeline.modules ++ [m]⟩

/-- Takes a module out, wherever it stands. -/
def remove [DecidableEq ι] (pipeline : Pipeline ι) (m : ι) : Bool × Pipeline ι :=
  let rest := pipeline.modules.filter (· ≠ m)
  (rest.length != pipeline.modules.length, ⟨rest⟩)

/-- Takes an item through modules, up to the first that swallows it. -/
def through (step : ι → β → ω → Option β × ω) : List ι → β → ω → Option β × ω
  | [], item, w => (some item, w)
  | m :: ms, item, w =>
    match step m item w with
    | (some item, w) => through step ms item w
    | (none, w) => (none, w)

/-- What every module keeps, the pipeline keeps. -/
theorem through_induction {step : ι → β → ω → Option β × ω} {P : ω → Prop}
    (hstep : ∀ m item w, P w → P (step m item w).2) (ms : List ι) (item : β) {w : ω} (h : P w) :
    P (through step ms item w).2 := by
  induction ms generalizing item w with
  | nil => exact h
  | cons m ms ih =>
    have hm := hstep m item w h
    simp only [through]
    split <;> rename_i heq <;> rw [heq] at hm
    · exact ih _ hm
    · exact hm

/-! ## Modules that use the pipeline they are in -/

variable {σ : Type}

/-- What one may ask of a pipeline. -/
inductive Request (ι β : Type) where
  | add (m : ι)
  | remove (m : ι)
  | size
  | isEmpty
  | pass (direction : Direction) (item : β)
  deriving Repr

inductive Reply (β : Type) where
  | done
  | flag (b : Bool)
  | count (n : Nat)
  | passed (item : Option β)
  deriving DecidableEq, Repr

/-- What happens in a pipeline, as far as the modules see it. -/
inductive Event (ι β : Type) where
  | entered (m : ι) (direction : Direction) (item : β)
  | answered (m : ι) (request : Request ι β) (reply : Reply β)

/-- A pipeline, what has happened in it, and the state of its modules. -/
structure World (ι β σ : Type) where
  pipeline : Pipeline ι := {}
  trace : List (Event ι β) := []
  user : σ

/-- How the modules of a pipeline behave: what they do when an item enters, and what they make of
it. -/
structure Behaviour (ι β σ : Type) where
  /-- Whether a module leaves a trace of the items that enter. -/
  traced : ι → Bool
  script : ι → Direction → β → σ → Script (Request ι β) (Reply β) × σ
  transform : ι → Direction → β → σ → Option β × σ

namespace World

def record (event : Event ι β) (w : World ι β σ) : World ι β σ :=
  { w with trace := w.trace ++ [event] }

/-- Takes an item through a module. -/
def step (behaviour : Behaviour ι β σ) (call : ι × Direction × β → World ι β σ → World ι β σ)
    (direction : Direction) (m : ι) (item : β) (w : World ι β σ) : Option β × World ι β σ :=
  let w := if behaviour.traced m then w.record (.entered m direction item) else w
  let w := call (m, direction, item) w
  let (item, user) := behaviour.transform m direction item w.user
  (item, { w with user })

variable [DecidableEq ι]

/-- Answers a request. -/
def perform (behaviour : Behaviour ι β σ)
    (call : ι × Direction × β → World ι β σ → World ι β σ) (request : Request ι β)
    (w : World ι β σ) : Reply β × World ι β σ :=
  match request with
  | .add m => (.done, { w with pipeline := w.pipeline.add m })
  | .remove m =>
    let (removed, pipeline) := w.pipeline.remove m
    (.flag removed, { w with pipeline })
  | .size => (.count w.pipeline.size, w)
  | .isEmpty => (.flag w.pipeline.isEmpty, w)
  | .pass direction item =>
    let (item, w) := through (step behaviour call direction) w.pipeline.modules item w
    (.passed item, w)

/-- Answers a request, with modules that do what their scripts say, `depth` levels deep. -/
def run (behaviour : Behaviour ι β σ) (depth : Nat) :
    Request ι β → World ι β σ → Reply β × World ι β σ :=
  reenter (perform behaviour)
    (fun call w =>
      let (steps, user) := behaviour.script call.1 call.2.1 call.2.2 w.user
      (steps, { w with user }))
    (fun call request reply w => w.record (.answered call.1 request reply)) depth

end World
end Pipeline
end Courier
