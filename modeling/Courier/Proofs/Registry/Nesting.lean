/-
A registry that is changed while it dispatches.

The listeners of a registry may register, unregister and dispatch while they are called, and the
dispatches that they begin call listeners that may do so in turn.  At every moment of all this, inside
the callbacks as well as between them, the listeners are distinct and stand in the order of their
registrations; and every dispatch calls those that were registered when it began, in that order,
before it returns (`nested_calls_exact`).

A moment is a number of happenings of the history; the registry of that moment is what these
happenings have made of an empty one (`replay`).
-/
import Courier.Proofs.Registry.Deliveries
import Courier.Proofs.Registry.Reentrance
import Mathlib.Data.List.Induction

namespace Courier
namespace Registry

variable {ι β σ : Type} [DecidableEq ι]

/-! ## The registry of a moment -/

def Happening.apply (registry : Registry ι) : Happening ι β → Registry ι
  | added listener once _ => (registry.add listener once).2
  | removed listener _ => (registry.remove listener).2
  | taken .. => registry.withoutOnce
  | called .. | returned .. => registry

/-- What a history has made of an empty registry. -/
def replay (history : List (Happening ι β)) : Registry ι :=
  history.foldl Happening.apply {}

/-- What is so of a history: it tells the truth about the registry of every moment, and about every
dispatch. -/
structure Faithful (history : List (Happening ι β)) : Prop where
  distinct : ∀ k ≤ history.length, (replay (history.take k)).listeners.Nodup
  /-- Who is registered has a registration that stands, -/
  registered : ∀ k ≤ history.length, ∀ entry ∈ (replay (history.take k)).entries,
    ∃ i, Standing history entry.listener entry.once i k
  /-- and these are in order. -/
  ordered : ∀ k ≤ history.length, (replay (history.take k)).entries.Pairwise fun a b =>
    ∀ i j, Standing history a.listener a.once i k → Standing history b.listener b.once j k → i < j
  added : ∀ k listener once isNew, history[k]? = some (.added listener once isNew) →
    (isNew = true ↔ listener ∉ (replay (history.take k)).listeners) ∧
      (isNew = false → replay (history.take (k + 1)) = replay (history.take k))
  removed : ∀ k listener wasThere, history[k]? = some (.removed listener wasThere) →
    (wasThere = true ↔ listener ∈ (replay (history.take k)).listeners) ∧
      (wasThere = false → replay (history.take (k + 1)) = replay (history.take k))
  /-- A dispatch calls who is registered when it begins, each once and in order, and returns when it
  has done so. -/
  dispatched : ∀ k number item, history[k]? = some (.taken number item) →
    let called := (replay (history.take k)).listeners
    let calls := called.map fun listener => (listener, item)
    callsOf (history.take k) number = [] ∧ callsOf history number = calls ∧
      ∃ j, k < j ∧ history[j]? = some (.returned number called.length) ∧
        callsOf (history.take j) number = calls

namespace Shared

variable {s : Shared ι β} {m : Move ι β} {happening : Happening ι β} {k number : Nat}

/-! ## What a move notes -/

/-- What a move adds to the history. -/
def noted? (s : Shared ι β) : Move ι β → Option (Happening ι β)
  | .add listener once => some (.added listener once (s.registry.add listener once).1)
  | .remove listener => some (.removed listener (s.registry.remove listener).1)
  | .take item => some (.taken s.dispatches.length item)
  | .call number =>
    s.dispatches[number]?.bind fun dispatch =>
      dispatch.listeners[dispatch.next]?.map fun listener =>
        .called number listener dispatch.item
  | .finish number =>
    s.dispatches[number]?.bind fun dispatch =>
      if dispatch.hasReturned = false ∧ dispatch.next = dispatch.listeners.length then
        some (.returned number dispatch.listeners.length)
      else none

/-- A move changes nothing that can be told, or it notes what it does. -/
theorem move_cases (s : Shared ι β) (m : Move ι β) :
    ((s.move m).history = s.history ∧ (s.move m).registry = s.registry) ∨
      ∃ happening, s.noted? m = some happening ∧
        (s.move m).history = s.history ++ [happening] ∧
        (s.move m).registry = happening.apply s.registry := by
  cases m with
  | add | remove | take => exact .inr ⟨_, rfl, rfl, rfl⟩
  | call number =>
    simp only [move, call, noted?]
    cases s.dispatches[number]? with
    | none => exact .inl ⟨rfl, rfl⟩
    | some dispatch =>
      dsimp only [Option.bind_some]
      cases dispatch.listeners[dispatch.next]? with
      | none => exact .inl ⟨rfl, rfl⟩
      | some listener => exact .inr ⟨_, rfl, rfl, rfl⟩
  | finish number =>
    simp only [move, finish, noted?]
    cases s.dispatches[number]? with
    | none => exact .inl ⟨rfl, rfl⟩
    | some dispatch =>
      dsimp only [Option.bind_some]
      by_cases hdone : dispatch.hasReturned = false ∧ dispatch.next = dispatch.listeners.length
      · rw [if_pos hdone, if_pos hdone]
        exact .inr ⟨_, rfl, rfl, rfl⟩
      · rw [if_neg hdone]
        exact .inl ⟨rfl, rfl⟩

/-- What it takes for a move to note a happening. -/
def Tells (s : Shared ι β) (m : Move ι β) : Happening ι β → Prop
  | .added listener once isNew =>
    m = .add listener once ∧ isNew = (s.registry.add listener once).1
  | .removed listener wasThere =>
    m = .remove listener ∧ wasThere = (s.registry.remove listener).1
  | .taken number item => m = .take item ∧ number = s.dispatches.length
  | .called number listener item => m = .call number ∧ ∃ dispatch,
    s.dispatches[number]? = some dispatch ∧ dispatch.listeners[dispatch.next]? = some listener ∧
      item = dispatch.item
  | .returned number count => m = .finish number ∧ ∃ dispatch,
    s.dispatches[number]? = some dispatch ∧ dispatch.next = dispatch.listeners.length ∧
      count = dispatch.listeners.length

theorem tells_of_noted (hnoted : s.noted? m = some happening) : s.Tells m happening := by
  cases m with
  | add | remove | take =>
    cases hnoted
    exact ⟨rfl, rfl⟩
  | call number =>
    obtain ⟨dispatch, hget, hcalled⟩ := Option.bind_eq_some_iff.mp hnoted
    obtain ⟨listener, hnext, rfl⟩ := Option.map_eq_some_iff.mp hcalled
    exact ⟨rfl, dispatch, hget, hnext, rfl⟩
  | finish number =>
    obtain ⟨dispatch, hget, hreturned⟩ := Option.bind_eq_some_iff.mp hnoted
    split at hreturned
    · rename_i hdone
      cases hreturned
      exact ⟨rfl, dispatch, hget, hdone.2, rfl⟩
    · cases hreturned

theorem replay_snoc (history : List (Happening ι β)) (happening : Happening ι β) :
    replay (history ++ [happening]) = happening.apply (replay history) :=
  List.foldl_append

theorem after_snoc (moves : List (Move ι β)) (m : Move ι β) (s : Shared ι β) :
    s.after (moves ++ [m]) = (s.after moves).move m :=
  List.foldl_append

theorem registry_after (moves : List (Move ι β)) :
    (({} : Shared ι β).after moves).registry = replay (({} : Shared ι β).after moves).history := by
  induction moves using List.reverseRecOn with
  | nil => rfl
  | append_singleton moves m ih =>
    rw [after_snoc]
    rcases move_cases (({} : Shared ι β).after moves) m with
      ⟨hhistory, hregistry⟩ | ⟨happening, _, hhistory, hregistry⟩
    · rw [hhistory, hregistry, ih]
    · rw [hhistory, hregistry, ih, replay_snoc]

/-! ## Moments -/

/-- Whatever has happened was noted by a move, before which there was what had happened until
then. -/
theorem exists_move (moves : List (Move ι β))
    (hget : (({} : Shared ι β).after moves).history[k]? = some happening) :
    ∃ first m rest, moves = first ++ m :: rest ∧
      (({} : Shared ι β).after first).history =
        (({} : Shared ι β).after moves).history.take k ∧
      (({} : Shared ι β).after first).noted? m = some happening := by
  induction moves using List.reverseRecOn with
  | nil => cases hget
  | append_singleton moves m ih =>
    have hearlier : (({} : Shared ι β).after moves).history[k]? = some happening →
        ∃ first m' rest, moves ++ [m] = first ++ m' :: rest ∧
          (({} : Shared ι β).after first).history =
            (({} : Shared ι β).after moves).history.take k ∧
          (({} : Shared ι β).after first).noted? m' = some happening := by
      intro hget
      obtain ⟨first, m', rest, rfl, htake, hnoted⟩ := ih hget
      exact ⟨first, m', rest ++ [m], by simp, htake, hnoted⟩
    rw [after_snoc] at hget ⊢
    rcases move_cases (({} : Shared ι β).after moves) m with
      ⟨hhistory, _⟩ | ⟨noted, hnoted, hhistory, _⟩ <;> rw [hhistory] at hget ⊢
    · exact hearlier hget
    · rcases getElem?_snoc_eq_some_iff.mp hget with hbefore | ⟨rfl, rfl⟩
      · rw [List.take_append_of_le_length (Nat.le_of_lt (lt_of_getElem?_eq_some hbefore))]
        exact hearlier hbefore
      · exact ⟨moves, m, [], rfl, by rw [List.take_left], hnoted⟩

/-- There was a registry at every moment. -/
theorem exists_after_take (moves : List (Move ι β))
    (hle : k ≤ (({} : Shared ι β).after moves).history.length) :
    ∃ first, (({} : Shared ι β).after first).history =
      (({} : Shared ι β).after moves).history.take k := by
  rcases Nat.lt_or_eq_of_le hle with hlt | heq
  · obtain ⟨first, _, _, _, htake, _⟩ := exists_move moves (List.getElem?_eq_getElem hlt)
    exact ⟨first, htake⟩
  · exact ⟨moves, by rw [heq, List.take_length]⟩

/-! ## The order of registrations -/

omit [DecidableEq ι] in
/-- What stands at a moment depends on nothing that happens from then on. -/
theorem standing_take {history : List (Happening ι β)} {listener : ι} {once : Bool} {i : Nat} :
    Standing (history.take k) listener once i k ↔ Standing history listener once i k := by
  have hget : ∀ j < k, (history.take k)[j]? = history[j]? := fun j hj =>
    List.getElem?_take_of_lt hj
  constructor
  · intro hstanding
    refine ⟨hstanding.lt, (hget i hstanding.lt).symm.trans hstanding.added, ?_⟩
    intro j happening hafter hbefore hsome
    exact hstanding.kept j happening hafter hbefore ((hget j hbefore).trans hsome)
  · intro hstanding
    refine ⟨hstanding.lt, (hget i hstanding.lt).trans hstanding.added, ?_⟩
    intro j happening hafter hbefore hsome
    exact hstanding.kept j happening hafter hbefore ((hget j hbefore).symm.trans hsome)

/-- The listeners stand in the order of the registrations that stand. -/
def Ordered (registry : Registry ι) (history : List (Happening ι β)) : Prop :=
  registry.entries.Pairwise fun a b => ∀ i j,
    Standing history a.listener a.once i history.length →
      Standing history b.listener b.once j history.length → i < j

omit [DecidableEq ι] in
/-- As long as nobody is registered, nothing comes out of order. -/
theorem Ordered.snoc {registry : Registry ι} (hs : Ordered s.registry s.history)
    (hsub : registry.entries.Sublist s.registry.entries)
    (hnew : ∀ listener once, happening ≠ .added listener once true) :
    Ordered registry (s.history ++ [happening]) := by
  have hstood : ∀ {listener : ι} {once : Bool} {i : Nat},
      Standing (s.history ++ [happening]) listener once i (s.history ++ [happening]).length →
        Standing s.history listener once i s.history.length := by
    intro listener once i hstanding
    rw [List.length_append, List.length_singleton, standing_snoc] at hstanding
    rcases hstanding with ⟨_, hadded⟩ | ⟨hstanding, _⟩
    · exact absurd hadded (hnew listener once)
    · exact hstanding
  refine (hs.sublist hsub).imp fun hlt i j hi hj => ?_
  exact hlt i j (hstood hi) (hstood hj)

theorem ordered_add (hs : s.Sound) (ho : Ordered s.registry s.history) (listener : ι)
    (once : Bool) : Ordered (s.add listener once).registry (s.add listener once).history := by
  show Ordered (s.registry.add listener once).2
    (s.history ++ [.added listener once (s.registry.add listener once).1])
  by_cases hmem : listener ∈ s.registry.listeners
  · rw [add_of_mem hmem]
    exact ho.snoc (List.Sublist.refl _) nofun
  rw [add_of_not_mem hmem]
  -- Of who was registered before, the registration is not the one that is made now.
  have hold : ∀ {entry : Registration ι} {i : Nat}, entry ∈ s.registry.entries →
      Standing (s.history ++ [.added listener once true]) entry.listener entry.once i
        (s.history.length + 1) →
      Standing s.history entry.listener entry.once i s.history.length := by
    intro entry i hentry hstanding
    rcases standing_snoc.mp hstanding with ⟨_, hadded⟩ | ⟨hstanding, _⟩
    · injection hadded with heq
      exact absurd (heq ▸ List.mem_map_of_mem hentry) hmem
    · exact hstanding
  unfold Ordered
  rw [List.length_append, List.length_singleton]
  refine List.pairwise_append.mpr ⟨?_, List.pairwise_singleton _ _, ?_⟩
  · exact ho.imp_of_mem fun ha hb hlt i j hi hj => hlt i j (hold ha hi) (hold hb hj)
  · intro a ha b hb i j hi hj
    rw [List.mem_singleton.mp hb] at hj
    rcases standing_snoc.mp hj with ⟨hnow, _⟩ | ⟨hbefore, _⟩
    · exact hnow ▸ (hold ha hi).lt
    · have hentry := (hs.registered listener once).mpr ⟨j, hbefore⟩
      exact absurd (List.mem_map_of_mem hentry) hmem

theorem ordered_move (hs : s.Sound) (ho : Ordered s.registry s.history) (m : Move ι β) :
    Ordered (s.move m).registry (s.move m).history := by
  rcases move_cases s m with ⟨hhistory, hregistry⟩ | ⟨happening, hnoted, hhistory, hregistry⟩
  · rw [hhistory, hregistry]
    exact ho
  · rw [hhistory, hregistry]
    cases happening with
    | added listener once isNew =>
      obtain ⟨_, rfl⟩ := tells_of_noted hnoted
      exact ordered_add hs ho listener once
    | removed | taken => exact ho.snoc List.filter_sublist nofun
    | called | returned => exact ho.snoc (List.Sublist.refl _) nofun

theorem ordered_after (moves : List (Move ι β)) :
    Ordered (({} : Shared ι β).after moves).registry
      (({} : Shared ι β).after moves).history := by
  induction moves using List.reverseRecOn with
  | nil => exact List.Pairwise.nil
  | append_singleton moves m ih =>
    rw [after_snoc]
    exact ordered_move (sound_after moves) ih m

/-! ## Dispatches -/

/-- A dispatch keeps the listeners that it has taken. -/
theorem listeners_move {dispatch : Dispatch ι β} (hget : s.dispatches[number]? = some dispatch)
    (m : Move ι β) :
    ∃ later, (s.move m).dispatches[number]? = some later ∧ later.item = dispatch.item ∧
      later.listeners = dispatch.listeners := by
  have hset : ∀ {other : Nat} {current changed : Dispatch ι β},
      s.dispatches[other]? = some current → changed.item = current.item →
      changed.listeners = current.listeners →
      ∃ later, (s.dispatches.set other changed)[number]? = some later ∧
        later.item = dispatch.item ∧ later.listeners = dispatch.listeners := by
    intro other current changed hcurrent hitem hlisteners
    by_cases heq : other = number
    · subst heq
      rw [hget] at hcurrent
      cases hcurrent
      exact ⟨changed, List.getElem?_set_self (lt_of_getElem?_eq_some hget), hitem, hlisteners⟩
    · exact ⟨dispatch, (List.getElem?_set_ne heq).trans hget, rfl, rfl⟩
  cases m with
  | add | remove => exact ⟨dispatch, hget, rfl, rfl⟩
  | take item => exact ⟨dispatch, getElem?_snoc_eq_some_iff.mpr (.inl hget), rfl, rfl⟩
  | call other =>
    simp only [move, call]
    split
    · exact ⟨dispatch, hget, rfl, rfl⟩
    · rename_i hcurrent
      split
      · exact ⟨dispatch, hget, rfl, rfl⟩
      · exact hset hcurrent rfl rfl
  | finish other =>
    simp only [move, finish]
    split
    · exact ⟨dispatch, hget, rfl, rfl⟩
    · rename_i hcurrent
      split
      · exact hset hcurrent rfl rfl
      · exact ⟨dispatch, hget, rfl, rfl⟩

theorem listeners_after {dispatch : Dispatch ι β} (hget : s.dispatches[number]? = some dispatch)
    (moves : List (Move ι β)) :
    ∃ later, (s.after moves).dispatches[number]? = some later ∧ later.item = dispatch.item ∧
      later.listeners = dispatch.listeners := by
  induction moves generalizing s dispatch with
  | nil => exact ⟨dispatch, hget, rfl, rfl⟩
  | cons m moves ih =>
    obtain ⟨next, hnext, hitem, hlisteners⟩ := listeners_move hget m
    obtain ⟨later, hlater, hitem', hlisteners'⟩ := ih hnext
    exact ⟨later, hlater, hitem'.trans hitem, hlisteners'.trans hlisteners⟩

omit [DecidableEq ι] in
/-- The calls of a dispatch that has returned are those of all the listeners that it has taken. -/
theorem Sound.calls_of_returned {count : Nat} (hs : s.Sound)
    (hreturned : .returned number count ∈ s.history) {dispatch : Dispatch ι β}
    (hget : s.dispatches[number]? = some dispatch) :
    callsOf s.history number = dispatch.listeners.map fun listener => (listener, dispatch.item) := by
  have hbegan := hs.began number dispatch hget
  rw [hbegan.calls, (hbegan.returned count hreturned).1, List.take_length]

end Shared

/-! ## Histories are faithful -/

namespace Shared

variable {listener : ι} {once flag : Bool} {item : β}

theorem replay_take_succ {history : List (Happening ι β)} (hget : history[k]? = some happening) :
    replay (history.take (k + 1)) = happening.apply (replay (history.take k)) := by
  rw [List.take_add_one, hget, Option.toList_some, replay_snoc]

theorem after_append (first rest : List (Move ι β)) (s : Shared ι β) :
    s.after (first ++ rest) = (s.after first).after rest :=
  List.foldl_append

/-- Every dispatch that has begun has returned. -/
def Settled (s : Shared ι β) : Prop :=
  ∀ (number : Nat) (dispatch : Dispatch ι β), s.dispatches[number]? = some dispatch →
    dispatch.hasReturned = true

/-- A dispatch that returns at a moment has made all its calls by then. -/
theorem calls_before_returned {count j : Nat} (moves : List (Move ι β))
    (hreturned : (({} : Shared ι β).after moves).history[j]? = some (.returned number count))
    {dispatch : Dispatch ι β}
    (hget : (({} : Shared ι β).after moves).dispatches[number]? = some dispatch) :
    callsOf ((({} : Shared ι β).after moves).history.take j) number =
      dispatch.listeners.map fun listener => (listener, dispatch.item) := by
  obtain ⟨first, m, rest, rfl, htake, hnoted⟩ := exists_move moves hreturned
  obtain ⟨rfl, earlier, hearlier, hdone, _⟩ := tells_of_noted hnoted
  rw [after_append] at hget
  obtain ⟨later, hlater, hitem, hlisteners⟩ := listeners_after hearlier (.finish number :: rest)
  obtain rfl := Option.some.inj (hlater.symm.trans hget)
  rw [← htake, ((sound_after first).began number earlier hearlier).calls, hdone, List.take_length,
    hitem, hlisteners]

/-- A dispatch returns after it has begun. -/
theorem lt_of_returned {count j : Nat} (moves : List (Move ι β))
    (htaken : (({} : Shared ι β).after moves).history[k]? = some (.taken number item))
    (hreturned : (({} : Shared ι β).after moves).history[j]? = some (.returned number count)) :
    k < j := by
  obtain ⟨_, _, _, honly, _⟩ := (sound_after moves).exists_began_of_taken htaken
  obtain ⟨first, m, rest, rfl, htake, hnoted⟩ := exists_move moves hreturned
  obtain ⟨rfl, earlier, hearlier, _⟩ := tells_of_noted hnoted
  obtain ⟨start, hstart, _⟩ := ((sound_after first).began number earlier hearlier).took
  rw [htake] at hstart
  have hlt := lt_of_getElem?_eq_some hstart
  rw [List.length_take] at hlt
  have hbefore : start < j := Nat.lt_of_lt_of_le hlt (Nat.min_le_left _ _)
  rw [List.getElem?_take_of_lt hbefore] at hstart
  exact honly start _ hstart ▸ hbefore

/-- A dispatch that has returned has called who was registered when it began. -/
theorem dispatched_after (moves : List (Move ι β))
    (hsettled : (({} : Shared ι β).after moves).Settled)
    (htaken : (({} : Shared ι β).after moves).history[k]? = some (.taken number item)) :
    let history := (({} : Shared ι β).after moves).history
    let called := (replay (history.take k)).listeners
    let calls := called.map fun listener => (listener, item)
    callsOf (history.take k) number = [] ∧ callsOf history number = calls ∧
      ∃ j, k < j ∧ history[j]? = some (.returned number called.length) ∧
        callsOf (history.take j) number = calls := by
  obtain ⟨first, m, rest, hmoves, htake, hnoted⟩ := exists_move moves htaken
  obtain ⟨rfl, hnumber⟩ := tells_of_noted hnoted
  have hfirst := sound_after first
  have hcalled : (replay ((({} : Shared ι β).after moves).history.take k)).listeners =
      (({} : Shared ι β).after first).registry.listeners := by
    rw [← htake, ← registry_after]
  -- What it takes when it begins it still has at the end, when it has returned.
  have hbegins : ((({} : Shared ι β).after first).take item).dispatches[number]? =
      some { item, listeners := (({} : Shared ι β).after first).registry.listeners } :=
    getElem?_snoc_eq_some_iff.mpr (.inr ⟨hnumber, rfl⟩)
  obtain ⟨later, hlater, hitem, hlisteners⟩ := listeners_after hbegins rest
  have hget : (({} : Shared ι β).after moves).dispatches[number]? = some later := by
    rw [hmoves, after_append]
    exact hlater
  have hbegan := (sound_after moves).began number later hget
  obtain ⟨count, hmem⟩ := hbegan.noted (hsettled number later hget)
  obtain ⟨j, hj⟩ := List.mem_iff_getElem?.mp hmem
  have hcount := (hbegan.returned count hmem).2
  dsimp only at hitem hlisteners
  dsimp only
  rw [hcalled, ← hlisteners, ← hitem]
  refine ⟨?_, (sound_after moves).calls_of_returned hmem hget, j, lt_of_returned moves htaken hj,
    ?_, calls_before_returned moves hj hget⟩
  · rw [← htake]
    exact hfirst.callsOf_eq_nil (Nat.le_of_eq hnumber.symm)
  · rw [hj, hcount]

/-- What is registered at a moment, and in which order. -/
theorem faithful_after (moves : List (Move ι β))
    (hsettled : (({} : Shared ι β).after moves).Settled) :
    Faithful (({} : Shared ι β).after moves).history where
  distinct k hle := by
    obtain ⟨first, htake⟩ := exists_after_take moves hle
    rw [← htake, ← registry_after]
    exact (sound_after first).nodup
  registered k hle entry hentry := by
    obtain ⟨first, htake⟩ := exists_after_take moves hle
    rw [← htake, ← registry_after] at hentry
    obtain ⟨i, hstanding⟩ := ((sound_after first).registered entry.listener entry.once).mp hentry
    rw [htake, List.length_take, Nat.min_eq_left hle] at hstanding
    exact ⟨i, standing_take.mp hstanding⟩
  ordered k hle := by
    obtain ⟨first, htake⟩ := exists_after_take moves hle
    have hordered := ordered_after first
    unfold Ordered at hordered
    rw [registry_after, htake, List.length_take, Nat.min_eq_left hle] at hordered
    simp only [standing_take] at hordered
    exact hordered
  added k listener once isNew hget := by
    obtain ⟨first, m, rest, _, htake, hnoted⟩ := exists_move moves hget
    obtain ⟨_, rfl⟩ := tells_of_noted hnoted
    rw [replay_take_succ hget, ← htake, ← registry_after]
    refine ⟨isNew_add, fun hold => ?_⟩
    have hmem : listener ∈ (({} : Shared ι β).after first).registry.listeners := by
      by_contra hnot
      exact Bool.noConfusion (hold.symm.trans (isNew_add.mpr hnot))
    exact congrArg Prod.snd (add_of_mem hmem once)
  removed k listener wasThere hget := by
    obtain ⟨first, m, rest, _, htake, hnoted⟩ := exists_move moves hget
    obtain ⟨_, rfl⟩ := tells_of_noted hnoted
    rw [replay_take_succ hget, ← htake, ← registry_after]
    refine ⟨wasThere_remove, fun hold => ?_⟩
    have hnot : listener ∉ (({} : Shared ι β).after first).registry.listeners := fun hmem =>
      Bool.noConfusion (hold.symm.trans (wasThere_remove.mpr hmem))
    exact congrArg Prod.snd (remove_of_not_mem hnot)
  dispatched _ _ _ := dispatched_after moves hsettled

end Shared

theorem Shared.Goes.settled_of_new {s : Shared ι β} (hgoes : Goes [] {} s) : s.Settled :=
  fun number dispatch => hgoes.settled number dispatch (Nat.zero_le _) List.not_mem_nil

/-! ## One request after the other -/

/-- Answers requests one after the other. -/
def World.serve (script : ι → β → σ → Script (Request ι β) Reply × σ) (depth : Nat)
    (requests : List (Request ι β)) (w : World ι β σ) : World ι β σ :=
  requests.foldl (fun w request => (run script depth request w).2) w

def Account.serve (script : ι → β → σ → Script (Request ι β) Reply × σ) (depth : Nat)
    (requests : List (Request ι β)) (r : Account ι β σ) : Account ι β σ :=
  requests.foldl (fun r request => (run script depth request r).2) r

theorem World.serve_agrees (script : ι → β → σ → Script (Request ι β) Reply × σ) (depth : Nat)
    (requests : List (Request ι β)) {w : World ι β σ} {r : Account ι β σ}
    (hagrees : w.Agrees r) :
    (w.serve script depth requests).Agrees (r.serve script depth requests) ∧
      r.shared.Goes [] (r.serve script depth requests).shared := by
  induction requests generalizing w r with
  | nil => exact ⟨hagrees, Shared.Goes.refl _ _⟩
  | cons request requests ih =>
    obtain ⟨_, hstep, hgoes⟩ := run_agrees script depth request hagrees
    obtain ⟨hend, hrest⟩ := ih hstep
    exact ⟨hend, hgoes.trans hrest⟩

/-- Whatever the listeners do when they are called, there is an account of it that tells all the
calls and gives the same answers, and it is faithful at every moment.  To register who is registered,
and to unregister who is not, is refused and changes nothing. -/
theorem nested_calls_exact (script : ι → β → σ → Script (Request ι β) Reply × σ) (depth : Nat)
    (requests : List (Request ι β)) (user : σ) :
    let w := World.serve script depth requests { user }
    let account := Account.serve script depth requests { user }
    Faithful account.shared.history ∧
      w.registry = replay account.shared.history ∧ w.calls = account.shared.calls ∧
      (∀ request, (World.run script depth request w).1 =
        (Account.run script depth request account).1) ∧
      ∀ (call : ι × β → World ι β σ → World ι β σ) (v : World ι β σ) (listener : ι),
        (listener ∈ v.registry.listeners → ∀ once,
          World.perform call (.add listener once) v = (.flag false, v)) ∧
        (listener ∉ v.registry.listeners →
          World.perform call (.remove listener) v = (.flag false, v)) := by
  intro w account
  obtain ⟨hagrees, hgoes⟩ := World.serve_agrees script depth requests
    (w := { user }) (r := { user }) ⟨rfl, rfl, rfl⟩
  have hsettled := hgoes.settled_of_new
  obtain ⟨moves, hmoves⟩ := hgoes.moves
  rw [hmoves] at hsettled
  refine ⟨?_, ?_, hagrees.calls.symm, fun request => ?_, fun call v listener => ⟨?_, ?_⟩⟩
  · show Faithful (Account.serve script depth requests { user }).shared.history
    rw [hmoves]
    exact Shared.faithful_after moves hsettled
  · show _ = replay (Account.serve script depth requests { user }).shared.history
    rw [hmoves, ← Shared.registry_after, ← hmoves]
    exact hagrees.registry.symm
  · exact (World.run_agrees script depth request hagrees).1.symm
  · intro hmem once
    simp only [World.perform, add_of_mem hmem once]
  · intro hnot
    simp only [World.perform, remove_of_not_mem hnot]

/-- A listener for one delivery is registered again, and called in a dispatch within, before the
delivery that had taken it comes to call it. -/
example :
    let script : String → Nat → List String → Script (Request String Nat) Reply × List String :=
      fun listener _ => Script.planned
        (fun
          | "first" => [[.remove "once", .add "once" true, .dispatch 2]]
          | _ => []) listener
    (Account.serve script 2 [.add "first" false, .add "once" true, .dispatch 1]
      { user := [] }).shared.history =
      [.added "first" false true, .added "once" true true, .taken 0 1, .called 0 "first" 1,
        .removed "once" false, .added "once" true true, .taken 1 2, .called 1 "first" 2,
        .called 1 "once" 2, .returned 1 2, .called 0 "once" 1, .returned 0 2] := by
  rfl

end Registry
end Courier
