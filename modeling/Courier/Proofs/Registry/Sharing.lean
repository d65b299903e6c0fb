/-
A registry that is used by many at once.

Whoever uses a registry takes it for a moment: to register a listener, to unregister one, or to take
the listeners of a dispatch.  The calls that a dispatch then makes hold nothing, so that anything may
happen between any two of them: other dispatches, removals, and registrations of the listener that is
to be called.  A `Move` is one such moment or one such call.  The moves of all the threads come in
some row, in which those of each thread stand in its own order; here no order is asked for at all, so
what holds after every row of moves holds of every number of threads.

`Shared` keeps a history of what has happened.  `sound_after` says how the registry and the dispatches
can be told from it: a listener is registered as long as its registration stands, and a dispatch has
taken those whose registrations stood.
-/
import Courier.Proofs.Registry

namespace Courier
namespace Registry

variable {ι β : Type}

/-- A delivery that has taken its listeners. -/
structure Dispatch (ι β : Type) where
  item : β
  /-- The listeners that it has taken, in order. -/
  listeners : List ι
  /-- How many of them have been called. -/
  next : Nat := 0
  hasReturned : Bool := false

/-- What somebody does with a registry that others use as well.  Dispatches are numbered as they
begin. -/
inductive Move (ι β : Type) where
  | add (listener : ι) (once : Bool)
  | remove (listener : ι)
  /-- A dispatch begins: it takes its listeners. -/
  | take (item : β)
  /-- A dispatch calls the next of its listeners. -/
  | call (dispatch : Nat)
  /-- A dispatch that has called all its listeners returns. -/
  | finish (dispatch : Nat)

/-- What has happened to a registry. -/
inductive Happening (ι β : Type) where
  | added (listener : ι) (once : Bool) (isNew : Bool)
  | removed (listener : ι) (wasThere : Bool)
  | taken (dispatch : Nat) (item : β)
  | called (dispatch : Nat) (listener : ι) (item : β)
  | returned (dispatch : Nat) (count : Nat)

/-- A registry, the dispatches that have begun, and all that has happened. -/
structure Shared (ι β : Type) where
  registry : Registry ι := {}
  dispatches : List (Dispatch ι β) := []
  history : List (Happening ι β) := []

namespace Shared

def note (happening : Happening ι β) (s : Shared ι β) : Shared ι β :=
  { s with history := s.history ++ [happening] }

def add [DecidableEq ι] (listener : ι) (once : Bool) (s : Shared ι β) : Shared ι β :=
  let (isNew, registry) := s.registry.add listener once
  { s with registry }.note (.added listener once isNew)

def remove [DecidableEq ι] (listener : ι) (s : Shared ι β) : Shared ι β :=
  let (wasThere, registry) := s.registry.remove listener
  { s with registry }.note (.removed listener wasThere)

/-- A dispatch begins: it takes the listeners that are registered, and leaves those that are
registered for good. -/
def take (item : β) (s : Shared ι β) : Shared ι β :=
  let dispatch : Dispatch ι β := { item, listeners := s.registry.listeners }
  { s with
    registry := s.registry.withoutOnce
    dispatches := s.dispatches ++ [dispatch] }.note (.taken s.dispatches.length item)

/-- A dispatch calls the next of its listeners, if there is one. -/
def call (number : Nat) (s : Shared ι β) : Shared ι β :=
  match s.dispatches[number]? with
  | none => s
  | some dispatch =>
    match dispatch.listeners[dispatch.next]? with
    | none => s
    | some listener =>
      { s with
        dispatches := s.dispatches.set number { dispatch with next := dispatch.next + 1 } }.note
          (.called number listener dispatch.item)

/-- A dispatch returns, if it has called all its listeners. -/
def finish (number : Nat) (s : Shared ι β) : Shared ι β :=
  match s.dispatches[number]? with
  | none => s
  | some dispatch =>
    if dispatch.hasReturned = false ∧ dispatch.next = dispatch.listeners.length then
      { s with dispatches := s.dispatches.set number { dispatch with hasReturned := true } }.note
        (.returned number dispatch.listeners.length)
    else s

variable [DecidableEq ι]

def move (s : Shared ι β) : Move ι β → Shared ι β
  | .add listener once => s.add listener once
  | .remove listener => s.remove listener
  | .take item => s.take item
  | .call number => s.call number
  | .finish number => s.finish number

/-- After a row of moves. -/
def after (moves : List (Move ι β)) (s : Shared ι β) : Shared ι β :=
  moves.foldl move s

omit [DecidableEq ι]

variable {s : Shared ι β} {number : Nat} {dispatch : Dispatch ι β}

theorem call_of_next {listener : ι} (hget : s.dispatches[number]? = some dispatch)
    (hnext : dispatch.listeners[dispatch.next]? = some listener) :
    s.call number =
      { s with
        dispatches := s.dispatches.set number { dispatch with next := dispatch.next + 1 } }.note
          (.called number listener dispatch.item) := by
  unfold call
  rw [hget]
  dsimp only
  rw [hnext]

theorem finish_of_done (hget : s.dispatches[number]? = some dispatch)
    (hgoing : dispatch.hasReturned = false) (hdone : dispatch.next = dispatch.listeners.length) :
    s.finish number =
      { s with dispatches := s.dispatches.set number { dispatch with hasReturned := true } }.note
        (.returned number dispatch.listeners.length) := by
  unfold finish
  rw [hget]
  exact if_pos ⟨hgoing, hdone⟩

end Shared

/-! ## Reading a history -/

/-- The dispatch that a happening is about. -/
def Happening.dispatch? : Happening ι β → Option Nat
  | added .. | removed .. => none
  | taken number _ | called number .. | returned number _ => some number

/-- The call that a happening is, if it is one of a dispatch. -/
def Happening.callOf? (number : Nat) : Happening ι β → Option (ι × β)
  | called other listener item => if other = number then some (listener, item) else none
  | _ => none

/-- The calls of a dispatch, in order. -/
def callsOf (history : List (Happening ι β)) (number : Nat) : List (ι × β) :=
  history.filterMap (Happening.callOf? number)

/-- What ends a registration: the listener is unregistered, or a dispatch takes it for its only
delivery. -/
inductive Happening.Ends (listener : ι) (once : Bool) : Happening ι β → Prop where
  | removed : Ends listener once (.removed listener true)
  | taken (number : Nat) (item : β) : once = true → Ends listener once (.taken number item)

/-- A registration that was made at a moment still stands at a later one. -/
structure Standing (history : List (Happening ι β)) (listener : ι) (once : Bool)
    (moment now : Nat) : Prop where
  lt : moment < now
  added : history[moment]? = some (.added listener once true)
  kept : ∀ k happening, moment < k → k < now → history[k]? = some happening →
    ¬happening.Ends listener once

variable {history : List (Happening ι β)} {happening : Happening ι β} {listener : ι}
  {once : Bool} {moment now k number : Nat}

theorem getElem?_snoc_eq_some_iff {α : Type} {row : List α} {a b : α} :
    (row ++ [a])[k]? = some b ↔ row[k]? = some b ∨ k = row.length ∧ a = b := by
  rcases Nat.lt_trichotomy k row.length with hlt | rfl | hgt
  · rw [List.getElem?_append_left hlt]
    simp [Nat.ne_of_lt hlt]
  · simp
  · rw [List.getElem?_eq_none (by simp; omega), List.getElem?_eq_none (by omega)]
    simp [Nat.ne_of_gt hgt]

theorem lt_of_getElem?_eq_some {α : Type} {row : List α} {a : α} (h : row[k]? = some a) :
    k < row.length :=
  (List.getElem?_eq_some_iff.mp h).1

/-- What stands at a moment stood at every moment since it was made. -/
theorem Standing.earlier {last : Nat} (hstanding : Standing history listener once moment last)
    (hlt : moment < now) (hle : now ≤ last) : Standing history listener once moment now where
  lt := hlt
  added := hstanding.added
  kept k happening hafter hbefore :=
    hstanding.kept k happening hafter (Nat.lt_of_lt_of_le hbefore hle)

/-- What happens later makes no difference. -/
theorem standing_snoc_of_le (hle : now ≤ history.length) :
    Standing (history ++ [happening]) listener once moment now ↔
      Standing history listener once moment now := by
  have hget : ∀ k, k < now → (history ++ [happening])[k]? = history[k]? := fun k hk =>
    List.getElem?_append_left (Nat.lt_of_lt_of_le hk hle)
  constructor
  · intro hstanding
    have hadded := hstanding.added
    rw [hget moment hstanding.lt] at hadded
    refine ⟨hstanding.lt, hadded, fun k other hafter hbefore hsome => ?_⟩
    exact hstanding.kept k other hafter hbefore ((hget k hbefore).trans hsome)
  · intro hstanding
    refine ⟨hstanding.lt, (hget moment hstanding.lt).trans hstanding.added, ?_⟩
    intro k other hafter hbefore hsome
    rw [hget k hbefore] at hsome
    exact hstanding.kept k other hafter hbefore hsome

/-- What stands after something has happened was made by it, or stood before and was not ended. -/
theorem standing_snoc :
    Standing (history ++ [happening]) listener once moment (history.length + 1) ↔
      moment = history.length ∧ happening = .added listener once true ∨
        Standing history listener once moment history.length ∧
          ¬happening.Ends listener once := by
  have hlast : (history ++ [happening])[history.length]? = some happening := by simp
  constructor
  · intro hstanding
    rcases getElem?_snoc_eq_some_iff.mp hstanding.added with hbefore | hnow
    · have hlt := lt_of_getElem?_eq_some hbefore
      have hends := hstanding.kept history.length happening hlt (Nat.lt_succ_self _) hlast
      have hearlier := hstanding.earlier hlt (Nat.le_succ _)
      exact .inr ⟨(standing_snoc_of_le (Nat.le_refl _)).mp hearlier, hends⟩
    · exact .inl hnow
  · intro h
    rcases h with ⟨hmoment, hadded⟩ | ⟨hstanding, hends⟩
    · subst hmoment hadded
      refine ⟨Nat.lt_succ_self _, hlast, fun k other hafter hbefore _ => ?_⟩
      exact absurd hbefore (Nat.not_lt.mpr hafter)
    · refine ⟨Nat.lt_succ_of_lt hstanding.lt, ?_, ?_⟩
      · exact getElem?_snoc_eq_some_iff.mpr (.inl hstanding.added)
      · intro k other hafter _ hsome
        rcases getElem?_snoc_eq_some_iff.mp hsome with hbefore | ⟨_, hnow⟩
        · exact hstanding.kept k other hafter (lt_of_getElem?_eq_some hbefore) hbefore
        · exact hnow ▸ hends

/-! ## What a history tells -/

/-- A dispatch began once, and took the listeners whose registrations stood. -/
def Took (history : List (Happening ι β)) (number : Nat) (item : β) (listeners : List ι) : Prop :=
  ∃ start, history[start]? = some (.taken number item) ∧
    (∀ k item, history[k]? = some (.taken number item) → k = start) ∧
    ∀ listener, listener ∈ listeners ↔ ∃ once moment, Standing history listener once moment start

/-- What is so of a dispatch that has begun. -/
structure Began (history : List (Happening ι β)) (number : Nat) (dispatch : Dispatch ι β) :
    Prop where
  nodup : dispatch.listeners.Nodup
  next_le : dispatch.next ≤ dispatch.listeners.length
  took : Took history number dispatch.item dispatch.listeners
  calls : callsOf history number =
    (dispatch.listeners.take dispatch.next).map fun listener => (listener, dispatch.item)
  returned : ∀ count, .returned number count ∈ history →
    dispatch.next = dispatch.listeners.length ∧ count = dispatch.listeners.length
  noted : dispatch.hasReturned = true → ∃ count, .returned number count ∈ history

/-- What is so of a shared registry. -/
structure Shared.Sound (s : Shared ι β) : Prop where
  nodup : s.registry.listeners.Nodup
  registered : ∀ listener once, ⟨listener, once⟩ ∈ s.registry.entries ↔
    ∃ moment, Standing s.history listener once moment s.history.length
  /-- A listener is registered only if no registration of it stands. -/
  fresh : ∀ moment listener once, s.history[moment]? = some (.added listener once true) →
    ∀ other k, ¬Standing s.history listener other k moment
  began : ∀ number dispatch, s.dispatches[number]? = some dispatch →
    Began s.history number dispatch
  known : ∀ happening ∈ s.history, ∀ number, happening.dispatch? = some number →
    number < s.dispatches.length

theorem callsOf_snoc : callsOf (history ++ [happening]) number =
    callsOf history number ++ (happening.callOf? number).toList := by
  unfold callsOf
  rw [List.filterMap_append]
  cases hcall : happening.callOf? number <;> simp [hcall]

theorem callOf?_of_other (hother : happening.dispatch? ≠ some number) :
    happening.callOf? number = none := by
  cases happening with
  | called other => exact if_neg fun heq => hother (congrArg some heq)
  | _ => rfl

theorem Took.snoc {item : β} {listeners : List ι} (htook : Took history number item listeners)
    (hother : ∀ item, happening ≠ .taken number item) :
    Took (history ++ [happening]) number item listeners := by
  obtain ⟨start, htaken, honly, hlisteners⟩ := htook
  refine ⟨start, getElem?_snoc_eq_some_iff.mpr (.inl htaken), ?_, ?_⟩
  · intro k item hsome
    rcases getElem?_snoc_eq_some_iff.mp hsome with hbefore | ⟨_, hnow⟩
    · exact honly k item hbefore
    · exact absurd hnow (hother item)
  · simp only [standing_snoc_of_le (Nat.le_of_lt (lt_of_getElem?_eq_some htaken))]
    exact hlisteners

theorem Began.snoc {dispatch : Dispatch ι β} (hbegan : Began history number dispatch)
    (hother : happening.dispatch? ≠ some number) :
    Began (history ++ [happening]) number dispatch where
  nodup := hbegan.nodup
  next_le := hbegan.next_le
  took := by
    apply hbegan.took.snoc
    intro item htaken
    rw [htaken] at hother
    exact hother rfl
  calls := by
    rw [callsOf_snoc, callOf?_of_other hother, hbegan.calls]
    exact List.append_nil _
  returned count hmem := by
    rcases List.mem_append.mp hmem with hbefore | hnow
    · exact hbegan.returned count hbefore
    · rw [← List.mem_singleton.mp hnow] at hother
      exact absurd rfl hother
  noted hended := by
    obtain ⟨count, hmem⟩ := hbegan.noted hended
    exact ⟨count, List.mem_append_left _ hmem⟩

namespace Shared.Sound

variable {s : Shared ι β}

theorem registered_snoc (hs : s.Sound) (happening : Happening ι β) :
    (∃ moment, Standing (s.history ++ [happening]) listener once moment (s.history.length + 1)) ↔
      happening = .added listener once true ∨
        ⟨listener, once⟩ ∈ s.registry.entries ∧ ¬happening.Ends listener once := by
  rw [hs.registered]
  simp only [standing_snoc]
  constructor
  · intro h
    obtain ⟨moment, ⟨_, hadded⟩ | ⟨hstanding, hends⟩⟩ := h
    · exact .inl hadded
    · exact .inr ⟨⟨moment, hstanding⟩, hends⟩
  · intro h
    rcases h with hadded | ⟨⟨moment, hstanding⟩, hends⟩
    · exact ⟨_, .inl ⟨rfl, hadded⟩⟩
    · exact ⟨moment, .inr ⟨hstanding, hends⟩⟩

theorem fresh_snoc (hs : s.Sound)
    (hnew : ∀ listener once, happening = .added listener once true →
      listener ∉ s.registry.listeners)
    (hadded : (s.history ++ [happening])[moment]? = some (.added listener once true))
    (other : Bool) (k : Nat) : ¬Standing (s.history ++ [happening]) listener other k moment := by
  rcases getElem?_snoc_eq_some_iff.mp hadded with hbefore | ⟨hmoment, hnow⟩
  · rw [standing_snoc_of_le (Nat.le_of_lt (lt_of_getElem?_eq_some hbefore))]
    exact hs.fresh moment listener once hbefore other k
  · rw [hmoment, standing_snoc_of_le (Nat.le_refl _)]
    intro hstanding
    have hentry := (hs.registered listener other).mpr ⟨k, hstanding⟩
    exact hnew listener once hnow (List.mem_map_of_mem hentry)

theorem known_snoc (hs : s.Sound) {bound : Nat} (hle : s.dispatches.length ≤ bound)
    (hbound : ∀ number, happening.dispatch? = some number → number < bound) :
    ∀ h ∈ s.history ++ [happening], ∀ number, h.dispatch? = some number → number < bound := by
  intro h hmem number hnumber
  rcases List.mem_append.mp hmem with hbefore | hnow
  · exact Nat.lt_of_lt_of_le (hs.known h hbefore number hnumber) hle
  · rw [List.mem_singleton.mp hnow] at hnumber
    exact hbound number hnumber

/-- A registry may be changed as long as its history tells. -/
theorem change {registry : Registry ι} (hs : s.Sound) (hnodup : registry.listeners.Nodup)
    (hnone : happening.dispatch? = none)
    (hnew : ∀ listener once, happening = .added listener once true →
      listener ∉ s.registry.listeners)
    (hentries : ∀ listener once, ⟨listener, once⟩ ∈ registry.entries ↔
      happening = .added listener once true ∨
        ⟨listener, once⟩ ∈ s.registry.entries ∧ ¬happening.Ends listener once) :
    Sound ({ s with registry }.note happening) where
  nodup := hnodup
  registered listener once := by
    show _ ↔ ∃ moment, Standing (s.history ++ [happening]) listener once moment
      (s.history ++ [happening]).length
    rw [List.length_append, List.length_singleton, hs.registered_snoc]
    exact hentries listener once
  fresh _ _ _ hadded other k := hs.fresh_snoc hnew hadded other k
  began number dispatch hget :=
    (hs.began number dispatch hget).snoc (by rw [hnone]; exact nofun)
  known := hs.known_snoc (Nat.le_refl _) (by rw [hnone]; exact nofun)

/-- A dispatch may go on as long as its history tells. -/
theorem advance {dispatch : Dispatch ι β} (hs : s.Sound)
    (hnumber : happening.dispatch? = some number) (htaken : ∀ item, happening ≠ .taken number item)
    (hlt : number < s.dispatches.length)
    (hbegan : Began (s.history ++ [happening]) number dispatch) :
    Sound ({ s with dispatches := s.dispatches.set number dispatch }.note happening) where
  nodup := hs.nodup
  registered listener once := by
    have hadded : happening ≠ .added listener once true := by
      intro heq
      rw [heq] at hnumber
      cases hnumber
    have hends : ¬happening.Ends listener once := by
      intro hends
      cases hends with
      | removed => cases hnumber
      | taken other item =>
        cases hnumber
        exact htaken item rfl
    show ⟨listener, once⟩ ∈ s.registry.entries ↔
      ∃ moment, Standing (s.history ++ [happening]) listener once moment
        (s.history ++ [happening]).length
    rw [List.length_append, List.length_singleton, hs.registered_snoc]
    simp [hadded, hends]
  fresh _ _ _ hadded other k := by
    apply hs.fresh_snoc _ hadded other k
    intro listener once heq
    rw [heq] at hnumber
    cases hnumber
  began other dispatch' hget := by
    have hget' : (s.dispatches.set number dispatch)[other]? = some dispatch' := hget
    by_cases heq : number = other
    · subst heq
      rw [List.getElem?_set_self hlt] at hget'
      cases hget'
      exact hbegan
    · rw [List.getElem?_set_ne heq] at hget'
      apply (hs.began other dispatch' hget').snoc
      rw [hnumber]
      exact fun hsame => heq (Option.some.inj hsame)
  known := hs.known_snoc (by simp [note]) (by simpa [note, hnumber] using hlt)

/-- Of a dispatch that has not begun nothing is heard. -/
theorem callsOf_eq_nil (hs : s.Sound) (hle : s.dispatches.length ≤ number) :
    callsOf s.history number = [] :=
  List.filterMap_eq_nil_iff.mpr fun happening hmem => callOf?_of_other fun hnumber =>
    Nat.lt_irrefl _ (Nat.lt_of_lt_of_le (hs.known happening hmem number hnumber) hle)

/-! ## Every move keeps it so -/

theorem take (hs : s.Sound) (item : β) : (s.take item).Sound where
  nodup := nodup_withoutOnce hs.nodup
  registered listener once := by
    show ⟨listener, once⟩ ∈ s.registry.withoutOnce.entries ↔
      ∃ moment, Standing (s.history ++ [.taken s.dispatches.length item]) listener once moment
        (s.history ++ [Happening.taken s.dispatches.length item]).length
    have hends : ¬(Happening.taken s.dispatches.length item).Ends listener once ↔
        once = false := by
      constructor
      · intro hends
        exact Bool.eq_false_iff.mpr fun honce => hends (.taken _ _ honce)
      · intro honce hends
        cases hends with
        | taken _ _ h => rw [honce] at h; cases h
    rw [List.length_append, List.length_singleton, hs.registered_snoc, mem_entries_withoutOnce,
      hends]
    simp
  fresh _ _ _ hadded other k := hs.fresh_snoc (fun _ _ heq => by cases heq) hadded other k
  began number dispatch hget := by
    show Began (s.history ++ [.taken s.dispatches.length item]) number dispatch
    have hunknown : ∀ happening ∈ s.history, happening.dispatch? ≠ some s.dispatches.length :=
      fun happening hmem heq => Nat.lt_irrefl _ (hs.known happening hmem _ heq)
    have hget' : (s.dispatches ++ [{ item, listeners := s.registry.listeners }])[number]? =
        some dispatch := hget
    rcases getElem?_snoc_eq_some_iff.mp hget' with hbefore | ⟨hnumber, hnew⟩
    · apply (hs.began number dispatch hbefore).snoc
      intro heq
      exact Nat.ne_of_gt (lt_of_getElem?_eq_some hbefore) (Option.some.inj heq)
    · subst hnumber hnew
      constructor
      case nodup => exact hs.nodup
      case next_le => exact Nat.zero_le _
      case took =>
        refine ⟨s.history.length, by simp, ?_, ?_⟩
        · intro k other hsome
          rcases getElem?_snoc_eq_some_iff.mp hsome with hbefore | ⟨hk, _⟩
          · exact absurd rfl (hunknown _ (List.mem_of_getElem? hbefore))
          · exact hk
        · intro listener
          simp only [standing_snoc_of_le (Nat.le_refl _), ← hs.registered]
          exact mem_listeners_iff
      case calls =>
        rw [callsOf_snoc, hs.callsOf_eq_nil (Nat.le_refl _)]
        rfl
      case returned =>
        intro count hmem
        rcases List.mem_append.mp hmem with hbefore | hnow
        · exact absurd rfl (hunknown _ hbefore)
        · cases List.mem_singleton.mp hnow
      case noted => exact nofun
  known := by
    apply hs.known_snoc
    · simp [Shared.take, note]
    · intro number hnumber
      cases hnumber
      simp [Shared.take, note]

theorem call (hs : s.Sound) (number : Nat) : (s.call number).Sound := by
  unfold Shared.call
  cases hget : s.dispatches[number]? with
  | none => exact hs
  | some dispatch =>
    have hbegan := hs.began number dispatch hget
    dsimp only
    cases hnext : dispatch.listeners[dispatch.next]? with
    | none => exact hs
    | some listener =>
      refine hs.advance rfl nofun (lt_of_getElem?_eq_some hget) ?_
      constructor
      case nodup => exact hbegan.nodup
      case next_le => exact lt_of_getElem?_eq_some hnext
      case took => exact hbegan.took.snoc nofun
      case calls =>
        have hcall : (Happening.called number listener dispatch.item).callOf? number =
            some (listener, dispatch.item) := if_pos rfl
        rw [callsOf_snoc, hcall, hbegan.calls, List.take_add_one, hnext, List.map_append]
        rfl
      case returned =>
        intro count hmem
        rcases List.mem_append.mp hmem with hbefore | hnow
        · have hdone := (hbegan.returned count hbefore).1
          rw [hdone, List.getElem?_eq_none (Nat.le_refl _)] at hnext
          cases hnext
        · cases List.mem_singleton.mp hnow
      case noted =>
        intro hended
        obtain ⟨count, hmem⟩ := hbegan.noted hended
        exact ⟨count, List.mem_append_left _ hmem⟩

theorem finish (hs : s.Sound) (number : Nat) : (s.finish number).Sound := by
  unfold Shared.finish
  cases hget : s.dispatches[number]? with
  | none => exact hs
  | some dispatch =>
    have hbegan := hs.began number dispatch hget
    dsimp only
    split
    · rename_i hdone
      refine hs.advance rfl nofun (lt_of_getElem?_eq_some hget) ?_
      constructor
      case nodup => exact hbegan.nodup
      case next_le => exact hbegan.next_le
      case took => exact hbegan.took.snoc nofun
      case calls =>
        rw [callsOf_snoc, hbegan.calls]
        exact List.append_nil _
      case returned =>
        intro count hmem
        rcases List.mem_append.mp hmem with hbefore | hnow
        · exact hbegan.returned count hbefore
        · cases List.mem_singleton.mp hnow
          exact ⟨hdone.2, rfl⟩
      case noted => exact fun _ => ⟨_, List.mem_append_right _ (List.mem_singleton.mpr rfl)⟩
    · exact hs

variable [DecidableEq ι]

theorem add (hs : s.Sound) (listener : ι) (once : Bool) : (s.add listener once).Sound := by
  show Sound ({ s with registry := (s.registry.add listener once).2 }.note
    (.added listener once (s.registry.add listener once).1))
  apply hs.change (nodup_add hs.nodup listener once) rfl
  · intro other once' hadded
    injection hadded with heq _ hnew
    exact heq ▸ isNew_add.mp hnew
  · intro other once'
    rw [mem_entries_add]
    constructor
    · intro h
      rcases h with hentry | ⟨hnew, heq⟩
      · exact .inr ⟨hentry, fun hends => by cases hends⟩
      · cases heq
        exact .inl (by rw [hnew])
    · intro h
      rcases h with hadded | ⟨hentry, _⟩
      · injection hadded with heq honce hnew
        exact .inr ⟨hnew, by rw [heq, honce]⟩
      · exact .inl hentry

theorem remove (hs : s.Sound) (listener : ι) : (s.remove listener).Sound := by
  show Sound ({ s with registry := (s.registry.remove listener).2 }.note
    (.removed listener (s.registry.remove listener).1))
  apply hs.change (nodup_remove hs.nodup listener) rfl
  · exact nofun
  · intro other once
    rw [mem_entries_remove]
    constructor
    · intro h
      refine .inr ⟨h.1, fun hends => ?_⟩
      generalize (s.registry.remove listener).1 = wasThere at hends
      cases hends
      exact h.2 rfl
    · intro h
      rcases h with hadded | ⟨hentry, hends⟩
      · cases hadded
      · refine ⟨hentry, fun hsame => hends ?_⟩
        have hthere : (s.registry.remove listener).1 = true :=
          wasThere_remove.mpr (hsame ▸ List.mem_map_of_mem hentry)
        rw [hthere, show other = listener from hsame]
        exact .removed

theorem move (hs : s.Sound) : ∀ m : Move ι β, (s.move m).Sound
  | .add listener once => hs.add listener once
  | .remove listener => hs.remove listener
  | .take item => hs.take item
  | .call number => hs.call number
  | .finish number => hs.finish number

theorem after (hs : s.Sound) (moves : List (Move ι β)) : (s.after moves).Sound := by
  induction moves generalizing s with
  | nil => exact hs
  | cons m moves ih => exact ih (hs.move m)

end Shared.Sound

theorem Shared.sound_new : Sound ({} : Shared ι β) where
  nodup := List.nodup_nil
  registered listener once := by
    constructor
    · exact nofun
    · intro h
      obtain ⟨moment, hstanding⟩ := h
      exact absurd hstanding.lt (Nat.not_lt_zero moment)
  fresh _ _ _ := nofun
  began _ _ := nofun
  known := nofun

/-- Whatever is done to a registry and in whatever order, its history tells how things stand. -/
theorem Shared.sound_after [DecidableEq ι] (moves : List (Move ι β)) :
    (({} : Shared ι β).after moves).Sound :=
  sound_new.after moves

end Registry
end Courier
