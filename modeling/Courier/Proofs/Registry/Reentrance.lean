/-
Listeners that use the registry they are called from.

`Account` is a registry that one thread uses, with listeners that register, unregister and dispatch
while they are called, and that keeps its history.  It answers as `Registry.World` does, and makes
the same calls in the same order, at every depth (`run_agrees`).  All that it does are moves
(`Shared.Goes`): a dispatch takes its listeners, and calls one after the other, and between any two
calls there may be whatever the listeners do.  So what is so of every row of moves is so of
`Registry.World.run`.
-/
import Courier.Proofs.Registry.Sharing

namespace Courier
namespace Registry

variable {ι β σ : Type}

/-! ## The calls that are made -/

/-- The calls of all dispatches, in order. -/
def Shared.calls (s : Shared ι β) : List (ι × β) :=
  s.history.filterMap fun
    | .called _ listener item => some (listener, item)
    | _ => none

def World.calls (w : World ι β σ) : List (ι × β) :=
  w.trace.filterMap fun
    | .called listener item => some (listener, item)
    | .answered .. => none

/-! ## What one thread does -/

/-- What one thread makes of a shared registry: it makes moves.  It leaves the dispatches alone that
had begun, and those that it has begun have returned, but for some of its own that are going on. -/
structure Shared.Goes [DecidableEq ι] (own : List Nat) (s t : Shared ι β) : Prop where
  moves : ∃ moves, t = s.after moves
  spares : ∀ number < s.dispatches.length, number ∉ own →
    t.dispatches[number]? = s.dispatches[number]?
  settled : ∀ number dispatch, s.dispatches.length ≤ number → number ∉ own →
    t.dispatches[number]? = some dispatch → dispatch.hasReturned = true

namespace Shared

variable [DecidableEq ι] {s t u : Shared ι β} {own : List Nat} {number other : Nat}

theorem Goes.of_getElem? (hmoves : ∃ moves, t = s.after moves)
    (hspares : ∀ number, number ∉ own → t.dispatches[number]? = s.dispatches[number]?) :
    Goes own s t where
  moves := hmoves
  spares number _ hown := hspares number hown
  settled number dispatch hle hown hget := by
    rw [hspares number hown] at hget
    exact absurd (lt_of_getElem?_eq_some hget) (Nat.not_lt.mpr hle)

theorem Goes.refl (own : List Nat) (s : Shared ι β) : Goes own s s :=
  .of_getElem? ⟨[], rfl⟩ fun _ _ => rfl

theorem Goes.lt (hst : Goes own s t) (hlt : number < s.dispatches.length) (hown : number ∉ own) :
    number < t.dispatches.length := by
  have hkept := hst.spares number hlt hown
  rw [List.getElem?_eq_getElem hlt] at hkept
  exact lt_of_getElem?_eq_some hkept

theorem Goes.trans (hst : Goes own s t) (htu : Goes own t u) : Goes own s u where
  moves := by
    obtain ⟨first, rfl⟩ := hst.moves
    obtain ⟨second, rfl⟩ := htu.moves
    exact ⟨first ++ second, List.foldl_append.symm⟩
  spares number hlt hown := by
    rw [htu.spares number (hst.lt hlt hown) hown, hst.spares number hlt hown]
  settled number dispatch hle hown hget := by
    by_cases hlt : number < t.dispatches.length
    · rw [htu.spares number hlt hown] at hget
      exact hst.settled number dispatch hle hown hget
    · exact htu.settled number dispatch (Nat.not_lt.mp hlt) hown hget

theorem Goes.mono (hst : Goes [] s t) (own : List Nat) : Goes own s t where
  moves := hst.moves
  spares number hlt _ := hst.spares number hlt List.not_mem_nil
  settled number dispatch hle _ := hst.settled number dispatch hle List.not_mem_nil

omit [DecidableEq ι] in
theorem dispatches_call_of_ne (hne : other ≠ number) :
    (s.call number).dispatches[other]? = s.dispatches[other]? := by
  unfold call
  split
  · rfl
  · split
    · rfl
    · exact List.getElem?_set_ne (Ne.symm hne)

omit [DecidableEq ι] in
theorem dispatches_finish_of_ne (hne : other ≠ number) :
    (s.finish number).dispatches[other]? = s.dispatches[other]? := by
  unfold finish
  split
  · rfl
  · split
    · exact List.getElem?_set_ne (Ne.symm hne)
    · rfl

theorem goes_add (listener : ι) (once : Bool) (s : Shared ι β) : Goes [] s (s.add listener once) :=
  .of_getElem? ⟨[.add listener once], rfl⟩ fun _ _ => rfl

theorem goes_remove (listener : ι) (s : Shared ι β) : Goes [] s (s.remove listener) :=
  .of_getElem? ⟨[.remove listener], rfl⟩ fun _ _ => rfl

theorem goes_take (item : β) (s : Shared ι β) :
    Goes [s.dispatches.length] s (s.take item) := by
  refine .of_getElem? ⟨[.take item], rfl⟩ fun number hown => ?_
  have hne : number ≠ s.dispatches.length := fun heq => hown (List.mem_singleton.mpr heq)
  show (s.dispatches ++ [_])[number]? = _
  rcases Nat.lt_or_gt_of_ne hne with hlt | hgt
  · exact List.getElem?_append_left hlt
  · rw [List.getElem?_eq_none (by simp; omega), List.getElem?_eq_none (by omega)]

theorem goes_call (number : Nat) (s : Shared ι β) : Goes [number] s (s.call number) :=
  .of_getElem? ⟨[.call number], rfl⟩ fun _ hown =>
    dispatches_call_of_ne fun heq => hown (List.mem_singleton.mpr heq)

theorem goes_finish (number : Nat) (s : Shared ι β) : Goes [number] s (s.finish number) :=
  .of_getElem? ⟨[.finish number], rfl⟩ fun _ hown =>
    dispatches_finish_of_ne fun heq => hown (List.mem_singleton.mpr heq)

/-- A dispatch that has made its calls returns, and is not going on any more. -/
theorem Goes.finish {dispatch : Dispatch ι β} (hst : Goes [s.dispatches.length] s t)
    (hget : t.dispatches[s.dispatches.length]? = some dispatch)
    (hgoing : dispatch.hasReturned = false) (hdone : dispatch.next = dispatch.listeners.length) :
    Goes [] s (t.finish s.dispatches.length) := by
  have hlast := hst.trans (goes_finish _ t)
  have hreturned : (t.finish s.dispatches.length).dispatches[s.dispatches.length]? =
      some { dispatch with hasReturned := true } := by
    rw [finish_of_done hget hgoing hdone]
    exact List.getElem?_set_self (lt_of_getElem?_eq_some hget)
  refine ⟨hlast.moves, fun number hlt _ => ?_, fun number other hle _ hother => ?_⟩
  · exact hlast.spares number hlt fun hown => Nat.ne_of_lt hlt (List.mem_singleton.mp hown)
  · by_cases heq : number = s.dispatches.length
    · rw [heq, hreturned] at hother
      cases hother
      rfl
    · exact hlast.settled number other hle (fun hown => heq (List.mem_singleton.mp hown)) hother

end Shared

/-! ## An account of what happens -/

/-- A registry that keeps its history, and the state of its listeners. -/
structure Account (ι β σ : Type) where
  shared : Shared ι β := {}
  user : σ

namespace Account

/-- Does something with the registry. -/
def modify (f : Shared ι β → Shared ι β) (r : Account ι β σ) : Account ι β σ :=
  { r with shared := f r.shared }

/-- Dispatches an item: takes the listeners, calls them in their order, and returns. -/
def dispatch (call : ι × β → Account ι β σ → Account ι β σ) (item : β) (r : Account ι β σ) :
    Nat × Account ι β σ :=
  let number := r.shared.dispatches.length
  let called := r.shared.registry.listeners
  let told := called.foldl
    (fun r listener => call (listener, item) (r.modify (·.call number))) (r.modify (·.take item))
  (called.length, told.modify (·.finish number))

variable [DecidableEq ι]

def perform (call : ι × β → Account ι β σ → Account ι β σ) (request : Request ι β)
    (r : Account ι β σ) : Reply × Account ι β σ :=
  match request with
  | .add listener once =>
    (.flag (r.shared.registry.add listener once).1, r.modify (·.add listener once))
  | .remove listener =>
    (.flag (r.shared.registry.remove listener).1, r.modify (·.remove listener))
  | .contains listener => (.flag (r.shared.registry.contains listener), r)
  | .size => (.count r.shared.registry.size, r)
  | .isEmpty => (.flag r.shared.registry.isEmpty, r)
  | .dispatch item =>
    let (count, r) := r.dispatch call item
    (.count count, r)

/-- Answers a request, with listeners that do what their scripts say, `depth` levels deep. -/
def run (script : ι → β → σ → Script (Request ι β) Reply × σ) (depth : Nat) :
    Request ι β → Account ι β σ → Reply × Account ι β σ :=
  reenter perform
    (fun call r =>
      let (steps, user) := script call.1 call.2 r.user
      (steps, { r with user }))
    (fun _ _ _ r => r) depth

end Account

/-! ## The account tells what happens -/

namespace World

variable {w : World ι β σ} {r : Account ι β σ}

/-- An account tells what has happened. -/
structure Agrees (w : World ι β σ) (r : Account ι β σ) : Prop where
  registry : r.shared.registry = w.registry
  calls : r.shared.calls = w.calls
  user : r.user = w.user

/-- What is noted of no call makes no difference to the calls. -/
theorem calls_note {s : Shared ι β} {happening : Happening ι β}
    (hother : ∀ number listener item, happening ≠ .called number listener item) :
    (s.note happening).calls = s.calls := by
  cases happening with
  | called number listener item => exact absurd rfl (hother number listener item)
  | _ => simp [Shared.calls, Shared.note]

theorem Agrees.take (hagrees : w.Agrees r) (item : β) :
    ({ w with registry := w.registry.withoutOnce } : World ι β σ).Agrees
      (r.modify (·.take item)) where
  registry := by
    show r.shared.registry.withoutOnce = _
    rw [hagrees.registry]
  calls := (calls_note nofun).trans hagrees.calls
  user := hagrees.user

theorem Agrees.finish (hagrees : w.Agrees r) (number : Nat) :
    w.Agrees (r.modify (·.finish number)) := by
  have hsame : (r.shared.finish number).registry = r.shared.registry ∧
      (r.shared.finish number).calls = r.shared.calls := by
    unfold Shared.finish
    split
    · exact ⟨rfl, rfl⟩
    · split
      · exact ⟨rfl, calls_note nofun⟩
      · exact ⟨rfl, rfl⟩
  exact ⟨hsame.1.trans hagrees.registry, hsame.2.trans hagrees.calls, hagrees.user⟩

theorem Agrees.call {listener : ι} {number : Nat} {dispatch : Dispatch ι β} (hagrees : w.Agrees r)
    (hget : r.shared.dispatches[number]? = some dispatch)
    (hnext : dispatch.listeners[dispatch.next]? = some listener) :
    (w.record (.called listener dispatch.item)).Agrees (r.modify (·.call number)) := by
  have hstep := Shared.call_of_next hget hnext
  refine ⟨?_, ?_, hagrees.user⟩
  · show (r.shared.call number).registry = _
    rw [hstep]
    exact hagrees.registry
  · show (r.shared.call number).calls = _
    have hcalls : r.shared.calls ++ [(listener, dispatch.item)] =
        w.calls ++ [(listener, dispatch.item)] := by rw [hagrees.calls]
    rw [hstep]
    simpa [Shared.calls, World.calls, Shared.note, record] using hcalls

theorem Agrees.answered (hagrees : w.Agrees r) (listener : ι) (request : Request ι β)
    (reply : Reply) : (w.record (.answered listener request reply)).Agrees r where
  registry := hagrees.registry
  calls := by simpa [World.calls, record] using hagrees.calls
  user := hagrees.user

variable [DecidableEq ι]

/-- Callbacks that do the same, and of which the second keep an account. -/
def Mirrors (call : ι × β → World ι β σ → World ι β σ)
    (told : ι × β → Account ι β σ → Account ι β σ) : Prop :=
  ∀ c w r, w.Agrees r → (call c w).Agrees (told c r) ∧ r.shared.Goes [] (told c r).shared

variable {call : ι × β → World ι β σ → World ι β σ}
  {told : ι × β → Account ι β σ → Account ι β σ}

/-- From where a dispatch is, it calls the rest of its listeners, whatever these do. -/
theorem calls_agree (hcall : Mirrors call told) {item : β} {listeners rest : List ι}
    {number next : Nat} {w : World ι β σ} {r : Account ι β σ} (hagrees : w.Agrees r)
    (hget : r.shared.dispatches[number]? = some { item, listeners, next })
    (hrest : listeners.drop next = rest) (hle : next ≤ listeners.length) :
    let after := rest.foldl
      (fun r listener => told (listener, item) (r.modify (·.call number))) r
    (rest.foldl (fun w listener => call (listener, item) (w.record (.called listener item)))
      w).Agrees after ∧
      r.shared.Goes [number] after.shared ∧
      after.shared.dispatches[number]? = some { item, listeners, next := listeners.length } := by
  induction rest generalizing w r next with
  | nil =>
    obtain rfl : next = listeners.length := Nat.le_antisymm hle (List.drop_eq_nil_iff.mp hrest)
    exact ⟨hagrees, Shared.Goes.refl _ _, hget⟩
  | cons listener rest ih =>
    have hnext : listeners[next]? = some listener := by
      rw [← Nat.add_zero next, ← List.getElem?_drop, hrest]
      rfl
    have hlt := lt_of_getElem?_eq_some hget
    have hcalled : (r.shared.call number).dispatches[number]? =
        some { item, listeners, next := next + 1 } := by
      rw [Shared.call_of_next hget hnext]
      exact List.getElem?_set_self hlt
    -- The listener does what it does, and the dispatch is still where it was.
    obtain ⟨hdone, hgoes⟩ := hcall (listener, item) _ _ (hagrees.call hget hnext)
    have hget' : (told (listener, item) (r.modify (·.call number))).shared.dispatches[number]? =
        some { item, listeners, next := next + 1 } :=
      (hgoes.spares number (lt_of_getElem?_eq_some hcalled) List.not_mem_nil).trans hcalled
    have hrest' : listeners.drop (next + 1) = rest := by
      rw [← List.drop_drop, hrest]
      rfl
    obtain ⟨hagrees', hgoes', hend⟩ := ih hdone hget' hrest' (lt_of_getElem?_eq_some hnext)
    have hfirst : r.shared.Goes [number] (told (listener, item) (r.modify (·.call number))).shared :=
      (Shared.goes_call number r.shared).trans (hgoes.mono _)
    exact ⟨hagrees', hfirst.trans hgoes', hend⟩

theorem dispatch_agrees (hcall : Mirrors call told) (item : β) (hagrees : w.Agrees r) :
    (r.dispatch told item).1 = (w.dispatch call item).1 ∧
      (w.dispatch call item).2.Agrees (r.dispatch told item).2 ∧
      r.shared.Goes [] (r.dispatch told item).2.shared := by
  have hget : (r.shared.take item).dispatches[r.shared.dispatches.length]? =
      some { item, listeners := w.registry.listeners } := by
    rw [← hagrees.registry]
    exact getElem?_snoc_eq_some_iff.mpr (.inr ⟨rfl, rfl⟩)
  obtain ⟨hdone, hgoes, hend⟩ :=
    calls_agree hcall (hagrees.take item) hget List.drop_zero (Nat.zero_le _)
  unfold dispatch Account.dispatch
  dsimp only
  rw [hagrees.registry]
  have hcalled := (Shared.goes_take item r.shared).trans hgoes
  exact ⟨rfl, hdone.finish _, hcalled.finish hend rfl rfl⟩

theorem perform_agrees (hcall : Mirrors call told) (request : Request ι β)
    (hagrees : w.Agrees r) :
    (Account.perform told request r).1 = (perform call request w).1 ∧
      (perform call request w).2.Agrees (Account.perform told request r).2 ∧
      r.shared.Goes [] (Account.perform told request r).2.shared := by
  cases request with
  | add listener once =>
    refine ⟨?_, ⟨?_, (calls_note nofun).trans hagrees.calls, hagrees.user⟩,
      Shared.goes_add listener once _⟩
    · show Reply.flag (r.shared.registry.add listener once).1 = _
      rw [hagrees.registry]
      rfl
    · show (r.shared.registry.add listener once).2 = _
      rw [hagrees.registry]
      rfl
  | remove listener =>
    refine ⟨?_, ⟨?_, (calls_note nofun).trans hagrees.calls, hagrees.user⟩,
      Shared.goes_remove listener _⟩
    · show Reply.flag (r.shared.registry.remove listener).1 = _
      rw [hagrees.registry]
      rfl
    · show (r.shared.registry.remove listener).2 = _
      rw [hagrees.registry]
      rfl
  | contains | size | isEmpty =>
    refine ⟨?_, hagrees, Shared.Goes.refl _ _⟩
    unfold perform Account.perform
    rw [hagrees.registry]
  | dispatch item =>
    obtain ⟨hcount, hdispatched, hgoes⟩ := dispatch_agrees hcall item hagrees
    exact ⟨congrArg Reply.count hcount, hdispatched, hgoes⟩

theorem run_script_agrees (hcall : Mirrors call told) (listener : ι)
    (steps : Script (Request ι β) Reply) {w : World ι β σ} {r : Account ι β σ}
    (hagrees : w.Agrees r) :
    (steps.run (perform call) (fun request reply w => w.record (.answered listener request reply))
      w).Agrees (steps.run (Account.perform told) (fun _ _ r => r) r) ∧
      r.shared.Goes [] (steps.run (Account.perform told) (fun _ _ r => r) r).shared := by
  induction steps generalizing w r with
  | done => exact ⟨hagrees, Shared.Goes.refl _ _⟩
  | ask request next ih =>
    obtain ⟨hreply, hdone, hgoes⟩ := perform_agrees hcall request hagrees
    obtain ⟨hend, hrest⟩ :=
      ih (perform call request w).1 (hdone.answered listener request (perform call request w).1)
    unfold Script.run
    dsimp only
    rw [hreply]
    exact ⟨hend, hgoes.trans hrest⟩

/-- Whatever the listeners do when they are called, an account tells it, and gives the same
answers. -/
theorem run_agrees (script : ι → β → σ → Script (Request ι β) Reply × σ) (depth : Nat)
    (request : Request ι β) (hagrees : w.Agrees r) :
    (Account.run script depth request r).1 = (run script depth request w).1 ∧
      (run script depth request w).2.Agrees (Account.run script depth request r).2 ∧
      r.shared.Goes [] (Account.run script depth request r).2.shared := by
  refine perform_agrees ?_ request hagrees
  induction depth with
  | zero => exact fun _ _ r hagrees => ⟨hagrees, Shared.Goes.refl _ _⟩
  | succ depth ih =>
    intro c w r hagrees
    unfold callback
    dsimp only
    rw [hagrees.user]
    have hstart : ({ w with user := (script c.1 c.2 w.user).2 } : World ι β σ).Agrees
        { r with user := (script c.1 c.2 w.user).2 } :=
      ⟨hagrees.registry, hagrees.calls, rfl⟩
    exact run_script_agrees ih c.1 _ hstart

end World
end Registry
end Courier
