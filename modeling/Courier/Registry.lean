/-
Registries: who is to be told of what comes in.

A registry lists its listeners in the order of their registration, each of them once.  A listener is
registered for good or for one delivery.  A delivery goes to the listeners that are registered when
it begins; those of one delivery are unregistered before the first of them is called, and whatever
the calls do to the registry, the delivery goes on as it began.
-/
import Courier.Script

namespace Courier

/-- A listener, and whether it is registered for one delivery only. -/
structure Registration (ι : Type) where
  listener : ι
  once : Bool
  deriving DecidableEq, Repr

/-- Listeners in the order of their registration. -/
structure Registry (ι : Type) where
  entries : List (Registration ι) := []
  deriving DecidableEq, Repr

namespace Registry

variable {ι : Type}

instance : Inhabited (Registry ι) := ⟨{}⟩

/-- The listeners in the order of their registration. -/
def listeners (registry : Registry ι) : List ι :=
  registry.entries.map (·.listener)

def size (registry : Registry ι) : Nat :=
  registry.entries.length

def isEmpty (registry : Registry ι) : Bool :=
  registry.entries.isEmpty

/-- What is left when a delivery has taken its listeners. -/
def withoutOnce (registry : Registry ι) : Registry ι :=
  ⟨registry.entries.filter fun entry => !entry.once⟩

/-- The listeners that a delivery leaves are still distinct. -/
theorem nodup_withoutOnce {registry : Registry ι} (h : registry.listeners.Nodup) :
    registry.withoutOnce.listeners.Nodup :=
  h.sublist (List.filter_sublist.map _)

variable [DecidableEq ι]

def contains (registry : Registry ι) (listener : ι) : Bool :=
  registry.entries.any fun entry => entry.listener = listener

/-- Registers a listener, unless it is registered already. -/
def add (registry : Registry ι) (listener : ι) (once : Bool) : Bool × Registry ι :=
  if registry.contains listener then (false, registry)
  else (true, ⟨registry.entries ++ [⟨listener, once⟩]⟩)

/-- Unregisters a listener, if it is registered. -/
def remove (registry : Registry ι) (listener : ι) : Bool × Registry ι :=
  let rest := registry.entries.filter fun entry => entry.listener ≠ listener
  (rest.length != registry.entries.length, ⟨rest⟩)

@[simp] theorem contains_iff {registry : Registry ι} {listener : ι} :
    registry.contains listener = true ↔ listener ∈ registry.listeners := by
  simp [contains, listeners]

/-! ## The listeners stay distinct -/

theorem nodup_add {registry : Registry ι} (h : registry.listeners.Nodup) (listener : ι)
    (once : Bool) : (registry.add listener once).2.listeners.Nodup := by
  unfold add
  split
  · exact h
  · rename_i hnot
    rw [contains_iff] at hnot
    simp only [listeners, List.map_append, List.map_cons, List.map_nil]
    refine List.nodup_append.mpr ⟨h, by simp, ?_⟩
    rintro a ha b hb rfl
    exact hnot (by simpa [listeners, List.mem_singleton.mp hb] using ha)

theorem nodup_remove {registry : Registry ι} (h : registry.listeners.Nodup) (listener : ι) :
    (registry.remove listener).2.listeners.Nodup :=
  h.sublist (List.filter_sublist.map _)

end Registry

/-! ## Listeners that use the registry they are called from -/

namespace Registry

variable {ι β σ : Type}

/-- What one may ask of a registry. -/
inductive Request (ι β : Type) where
  | add (listener : ι) (once : Bool)
  | remove (listener : ι)
  | contains (listener : ι)
  | size
  | isEmpty
  | dispatch (item : β)
  deriving Repr

inductive Reply where
  | flag (b : Bool)
  | count (n : Nat)
  deriving DecidableEq, Repr

/-- What happens to a registry, as far as the listeners see it. -/
inductive Event (ι β : Type) where
  | called (listener : ι) (item : β)
  | answered (listener : ι) (request : Request ι β) (reply : Reply)

/-- A registry, what has happened to it, and the state of its listeners. -/
structure World (ι β σ : Type) where
  registry : Registry ι := {}
  trace : List (Event ι β) := []
  user : σ

namespace World

def record (event : Event ι β) (w : World ι β σ) : World ι β σ :=
  { w with trace := w.trace ++ [event] }

/-- Delivers an item to the listeners that are registered now, and counts them. -/
def dispatch (call : ι × β → World ι β σ → World ι β σ) (item : β) (w : World ι β σ) :
    Nat × World ι β σ :=
  let called := w.registry.listeners
  let start := { w with registry := w.registry.withoutOnce }
  (called.length,
    called.foldl (fun w listener => call (listener, item) (w.record (.called listener item))) start)

variable [DecidableEq ι]

/-- Answers a request. -/
def perform (call : ι × β → World ι β σ → World ι β σ) (request : Request ι β)
    (w : World ι β σ) : Reply × World ι β σ :=
  match request with
  | .add listener once =>
    let (added, registry) := w.registry.add listener once
    (.flag added, { w with registry })
  | .remove listener =>
    let (removed, registry) := w.registry.remove listener
    (.flag removed, { w with registry })
  | .contains listener => (.flag (w.registry.contains listener), w)
  | .size => (.count w.registry.size, w)
  | .isEmpty => (.flag w.registry.isEmpty, w)
  | .dispatch item =>
    let (count, w) := w.dispatch call item
    (.count count, w)

/-- Answers a request, with listeners that do what their scripts say, `depth` levels deep. -/
def run (script : ι → β → σ → Script (Request ι β) Reply × σ) (depth : Nat) :
    Request ι β → World ι β σ → Reply × World ι β σ :=
  reenter perform
    (fun call w =>
      let (steps, user) := script call.1 call.2 w.user
      (steps, { w with user }))
    (fun call request reply w => w.record (.answered call.1 request reply)) depth

end World
end Registry
end Courier
