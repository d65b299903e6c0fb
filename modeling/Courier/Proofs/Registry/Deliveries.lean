/-
Who is called on account of a registration.

A registration is answered by the dispatches that begin while it stands: those that begin after it
was made and before the listener is unregistered, and of these only the first if it is for one
delivery.  `deliveries_exact` says that this is so after every row of moves.  The calls themselves
may come much later, when the listener is not registered any more, or is registered again; a call is
on account of the last registration before its dispatch began.
-/
import Courier.Proofs.Registry.Sharing

namespace Courier
namespace Registry

variable {ι β : Type}

/-! ## Deliveries -/

/-- A listener was unregistered between two moments. -/
def RemovedBetween (history : List (Happening ι β)) (listener : ι) (first last : Nat) : Prop :=
  ∃ k, first < k ∧ k < last ∧ history[k]? = some (.removed listener true)

/-- A dispatch has delivered its item on account of the registration of a listener at a moment: it
has called the listener, and this was the last registration of the listener before it began. -/
def Delivers (history : List (Happening ι β)) (listener : ι) (moment number : Nat) : Prop :=
  ∃ start item, history[start]? = some (.taken number item) ∧ moment < start ∧
    (∀ k once, moment < k → k < start → history[k]? ≠ some (.added listener once true)) ∧
    .called number listener item ∈ history

def Returned (history : List (Happening ι β)) (number : Nat) : Prop :=
  ∃ count, .returned number count ∈ history

/-- Every registration is answered as it should be. -/
structure Exact (history : List (Happening ι β)) : Prop where
  /-- A registration for one delivery is answered by one dispatch at most, -/
  once_at_most : ∀ listener moment, history[moment]? = some (.added listener true true) →
    ∀ first second, Delivers history listener moment first →
      Delivers history listener moment second → first = second
  /-- and if a dispatch begins before the listener is unregistered, by one that has begun by then,
  and by no other. -/
  once_exactly : ∀ listener moment start number item,
    history[moment]? = some (.added listener true true) →
    history[start]? = some (.taken number item) →
    moment < start → ¬RemovedBetween history listener moment start →
      ∃ first begun item, history[begun]? = some (.taken first item) ∧
        moment < begun ∧ begun ≤ start ∧
        (Returned history first → ∀ other, Delivers history listener moment other ↔ other = first)
  /-- A registration for good is answered by the dispatches that begin before the listener is
  unregistered, -/
  always : ∀ listener moment start number item,
    history[moment]? = some (.added listener false true) →
    history[start]? = some (.taken number item) → Returned history number →
    moment < start → ¬RemovedBetween history listener moment start →
      Delivers history listener moment number
  /-- and by no others. -/
  only : ∀ listener moment start number item,
    history[moment]? = some (.added listener false true) →
    history[start]? = some (.taken number item) → Delivers history listener moment number →
      moment < start ∧ ¬RemovedBetween history listener moment start
  /-- Every call is on account of some registration, -/
  attributed : ∀ number listener item, .called number listener item ∈ history →
    ∃ moment once, history[moment]? = some (.added listener once true) ∧
      Delivers history listener moment number
  /-- no dispatch calls a listener twice, -/
  nodup : ∀ number, ((callsOf history number).map Prod.fst).Nodup
  /-- and what it returns is how many it has called. -/
  counted : ∀ number count, .returned number count ∈ history →
    count = (callsOf history number).length

variable {history : List (Happening ι β)} {listener : ι} {once : Bool} {moment start number : Nat}
  {item : β}

theorem standing_iff :
    Standing history listener once moment start ↔
      moment < start ∧ history[moment]? = some (.added listener once true) ∧
        ¬RemovedBetween history listener moment start ∧
        (once = true → ∀ k number item, moment < k → k < start →
          history[k]? ≠ some (.taken number item)) := by
  constructor
  · intro hstanding
    refine ⟨hstanding.lt, hstanding.added, ?_, ?_⟩
    · intro hremoved
      obtain ⟨k, hafter, hbefore, hsome⟩ := hremoved
      exact hstanding.kept k _ hafter hbefore hsome .removed
    · intro honce k number item hafter hbefore hsome
      exact hstanding.kept k _ hafter hbefore hsome (.taken number item honce)
  · intro h
    obtain ⟨hlt, hadded, hkept, hwaiting⟩ := h
    refine ⟨hlt, hadded, fun k happening hafter hbefore hsome hends => ?_⟩
    cases hends with
    | removed => exact hkept ⟨k, hafter, hbefore, hsome⟩
    | taken number item honce => exact hwaiting honce k number item hafter hbefore hsome

theorem mem_callsOf :
    (listener, item) ∈ callsOf history number ↔ .called number listener item ∈ history := by
  unfold callsOf
  rw [List.mem_filterMap]
  constructor
  · intro h
    obtain ⟨happening, hmem, hcall⟩ := h
    cases happening with
    | called other =>
      simp only [Happening.callOf?, Option.ite_none_right_eq_some, Option.some.injEq,
        Prod.mk.injEq] at hcall
      obtain ⟨rfl, rfl, rfl⟩ := hcall
      exact hmem
    | _ => cases hcall
  · intro hmem
    exact ⟨_, hmem, if_pos rfl⟩

theorem Began.of_called {dispatch : Dispatch ι β} (hbegan : Began history number dispatch)
    (hcalled : .called number listener item ∈ history) :
    listener ∈ dispatch.listeners ∧ item = dispatch.item := by
  have hcall := mem_callsOf.mpr hcalled
  rw [hbegan.calls] at hcall
  obtain ⟨_, hother, heq⟩ := List.mem_map.mp hcall
  cases heq
  exact ⟨List.mem_of_mem_take hother, rfl⟩

namespace Shared.Sound

variable {s : Shared ι β}

theorem exists_began {happening : Happening ι β} (hs : s.Sound) (hmem : happening ∈ s.history)
    (hnumber : happening.dispatch? = some number) :
    ∃ dispatch, Began s.history number dispatch := by
  have hlt := hs.known happening hmem number hnumber
  exact ⟨_, hs.began number s.dispatches[number] (List.getElem?_eq_getElem hlt)⟩

/-- The dispatch that began at a moment has taken the listeners whose registrations stood then. -/
theorem exists_began_of_taken (hs : s.Sound)
    (htaken : s.history[start]? = some (.taken number item)) :
    ∃ dispatch, Began s.history number dispatch ∧ dispatch.item = item ∧
      (∀ k item, s.history[k]? = some (.taken number item) → k = start) ∧
      ∀ listener, listener ∈ dispatch.listeners ↔
        ∃ once k, Standing s.history listener once k start := by
  obtain ⟨dispatch, hbegan⟩ := hs.exists_began (List.mem_of_getElem? htaken) rfl
  obtain ⟨moment, hmoment, honly, hlisteners⟩ := hbegan.took
  obtain rfl := honly start item htaken
  rw [htaken] at hmoment
  cases hmoment
  exact ⟨dispatch, hbegan, rfl, honly, hlisteners⟩

/-- A registration that a dispatch answers stood when the dispatch began. -/
theorem standing_of_delivers (hs : s.Sound)
    (hadded : s.history[moment]? = some (.added listener once true))
    (hdelivers : Delivers s.history listener moment number) :
    ∃ start item, s.history[start]? = some (.taken number item) ∧
      Standing s.history listener once moment start := by
  obtain ⟨start, item, htaken, hlt, hlast, hcalled⟩ := hdelivers
  obtain ⟨dispatch, hbegan, _, _, hlisteners⟩ := hs.exists_began_of_taken htaken
  obtain ⟨once', k, hstanding⟩ := (hlisteners listener).mp (hbegan.of_called hcalled).1
  have hadded' := hstanding.added
  -- The registration that stood is the last one, since nobody is registered twice.
  have heq : k = moment := by
    rcases Nat.lt_trichotomy k moment with hbefore | heq | hafter
    · exact absurd (hstanding.earlier hbefore (Nat.le_of_lt hlt))
        (hs.fresh moment listener once hadded once' k)
    · exact heq
    · exact absurd hadded' (hlast k once' hafter hstanding.lt)
  subst heq
  rw [hadded] at hadded'
  cases hadded'
  exact ⟨start, _, htaken, hstanding⟩

theorem delivers_of_called (hs : s.Sound)
    (htaken : s.history[start]? = some (.taken number item))
    (hstanding : Standing s.history listener once moment start)
    (hcalled : .called number listener item ∈ s.history) :
    Delivers s.history listener moment number := by
  refine ⟨start, item, htaken, hstanding.lt, ?_, hcalled⟩
  intro k once' hfirst hlast hagain
  exact hs.fresh k listener once' hagain once moment (hstanding.earlier hfirst (Nat.le_of_lt hlast))

/-- A registration that stands when a dispatch begins is answered by it. -/
theorem delivers_of_standing (hs : s.Sound)
    (htaken : s.history[start]? = some (.taken number item)) (hreturned : Returned s.history number)
    (hstanding : Standing s.history listener once moment start) :
    Delivers s.history listener moment number := by
  obtain ⟨dispatch, hbegan, rfl, _, hlisteners⟩ := hs.exists_began_of_taken htaken
  obtain ⟨count, hcount⟩ := hreturned
  have hmem : listener ∈ dispatch.listeners := (hlisteners listener).mpr ⟨once, moment, hstanding⟩
  refine hs.delivers_of_called htaken hstanding ?_
  rw [← mem_callsOf, hbegan.calls, (hbegan.returned count hcount).1, List.take_length]
  exact List.mem_map_of_mem hmem

end Shared.Sound

/-- Of the dispatches that begin after a moment there is a first. -/
theorem exists_first_taken (htaken : history[start]? = some (.taken number item))
    (hlt : moment < start) :
    ∃ begun first item, history[begun]? = some (.taken first item) ∧ moment < begun ∧
      begun ≤ start ∧
      ∀ k number item, moment < k → k < begun → history[k]? ≠ some (.taken number item) := by
  induction start using Nat.strongRecOn generalizing number item with
  | ind start ih =>
    by_cases hearlier : ∃ k number item, moment < k ∧ k < start ∧
        history[k]? = some (.taken number item)
    · obtain ⟨k, number', item', hfirst, hlast, htaken'⟩ := hearlier
      obtain ⟨begun, first, item, hbegun, hafter, hle, hnone⟩ := ih k hlast htaken' hfirst
      exact ⟨begun, first, item, hbegun, hafter, Nat.le_trans hle (Nat.le_of_lt hlast), hnone⟩
    · refine ⟨start, number, item, htaken, hlt, Nat.le_refl _, ?_⟩
      intro k number' item' hfirst hlast htaken'
      exact hearlier ⟨k, number', item', hfirst, hlast, htaken'⟩

namespace Shared.Sound

variable {s : Shared ι β}

/-- A registration for one delivery does not stand any more when a second dispatch begins. -/
theorem start_le_of_standing_once {first last : Nat}
    (htaken : s.history[first]? = some (.taken number item)) (hlt : moment < first)
    (hstanding : Standing s.history listener true moment last) : last ≤ first := by
  apply Nat.le_of_not_lt
  intro hbefore
  exact hstanding.kept first _ hlt hbefore htaken (.taken number item rfl)

theorem once_at_most (hs : s.Sound)
    (hadded : s.history[moment]? = some (.added listener true true)) {first second : Nat}
    (hfirst : Delivers s.history listener moment first)
    (hsecond : Delivers s.history listener moment second) : first = second := by
  obtain ⟨start, item, htaken, hstanding⟩ := hs.standing_of_delivers hadded hfirst
  obtain ⟨start', item', htaken', hstanding'⟩ := hs.standing_of_delivers hadded hsecond
  have hle := start_le_of_standing_once htaken hstanding.lt hstanding'
  have hge := start_le_of_standing_once htaken' hstanding'.lt hstanding
  obtain rfl := Nat.le_antisymm hge hle
  rw [htaken] at htaken'
  cases htaken'
  rfl

theorem once_exactly (hs : s.Sound)
    (hadded : s.history[moment]? = some (.added listener true true))
    (htaken : s.history[start]? = some (.taken number item)) (hlt : moment < start)
    (hkept : ¬RemovedBetween s.history listener moment start) :
    ∃ first begun item, s.history[begun]? = some (.taken first item) ∧
      moment < begun ∧ begun ≤ start ∧
      (Returned s.history first →
        ∀ other, Delivers s.history listener moment other ↔ other = first) := by
  obtain ⟨begun, first, item, hbegun, hafter, hle, hnone⟩ := exists_first_taken htaken hlt
  have hstanding : Standing s.history listener true moment begun := by
    refine standing_iff.mpr ⟨hafter, hadded, ?_, fun _ => hnone⟩
    intro hremoved
    obtain ⟨k, hafter, hbefore, hsome⟩ := hremoved
    exact hkept ⟨k, hafter, Nat.lt_of_lt_of_le hbefore hle, hsome⟩
  refine ⟨first, begun, item, hbegun, hafter, hle, fun hreturned other => ?_⟩
  have hdelivers := hs.delivers_of_standing hbegun hreturned hstanding
  constructor
  · exact fun hother => hs.once_at_most hadded hother hdelivers
  · intro hsame
    exact hsame ▸ hdelivers

theorem only (hs : s.Sound) (hadded : s.history[moment]? = some (.added listener once true))
    (htaken : s.history[start]? = some (.taken number item))
    (hdelivers : Delivers s.history listener moment number) :
    moment < start ∧ ¬RemovedBetween s.history listener moment start := by
  obtain ⟨begun, item', hbegun, hstanding⟩ := hs.standing_of_delivers hadded hdelivers
  obtain ⟨_, _, _, honly, _⟩ := hs.exists_began_of_taken htaken
  obtain rfl := honly begun item' hbegun
  obtain ⟨hlt, _, hkept, _⟩ := standing_iff.mp hstanding
  exact ⟨hlt, hkept⟩

theorem attributed (hs : s.Sound) (hcalled : .called number listener item ∈ s.history) :
    ∃ moment once, s.history[moment]? = some (.added listener once true) ∧
      Delivers s.history listener moment number := by
  obtain ⟨dispatch, hbegan⟩ := hs.exists_began hcalled rfl
  obtain ⟨hmem, rfl⟩ := hbegan.of_called hcalled
  obtain ⟨start, htaken, _, hlisteners⟩ := hbegan.took
  obtain ⟨once, moment, hstanding⟩ := (hlisteners listener).mp hmem
  exact ⟨moment, once, hstanding.added,
    hs.delivers_of_called htaken hstanding hcalled⟩

theorem calls_nodup (hs : s.Sound) (number : Nat) :
    ((callsOf s.history number).map Prod.fst).Nodup := by
  cases hget : s.dispatches[number]? with
  | none =>
    have hle : s.dispatches.length ≤ number := List.getElem?_eq_none_iff.mp hget
    rw [hs.callsOf_eq_nil hle]
    exact List.nodup_nil
  | some dispatch =>
    have hbegan := hs.began number dispatch hget
    have hcalled : (callsOf s.history number).map Prod.fst =
        dispatch.listeners.take dispatch.next := by
      rw [hbegan.calls, List.map_map]
      exact List.map_id _
    rw [hcalled]
    exact hbegan.nodup.sublist (List.take_sublist _ _)

theorem counted (hs : s.Sound) {count : Nat} (hcount : .returned number count ∈ s.history) :
    count = (callsOf s.history number).length := by
  obtain ⟨dispatch, hbegan⟩ := hs.exists_began hcount rfl
  obtain ⟨hnext, rfl⟩ := hbegan.returned count hcount
  rw [hbegan.calls, hnext, List.take_length, List.length_map]

theorem exact_history (hs : s.Sound) : Exact s.history where
  once_at_most _ _ hadded _ _ := hs.once_at_most hadded
  once_exactly _ _ _ _ _ := hs.once_exactly
  always _ _ _ _ _ hadded htaken hreturned hlt hkept :=
    hs.delivers_of_standing htaken hreturned
      (standing_iff.mpr ⟨hlt, hadded, hkept, fun honce => Bool.noConfusion honce⟩)
  only _ _ _ _ _ := hs.only
  attributed _ _ _ := hs.attributed
  nodup := hs.calls_nodup
  counted _ _ := hs.counted

end Shared.Sound

/-! ## Every dispatch can go on -/

namespace Shared

variable [DecidableEq ι] {s : Shared ι β} {dispatch : Dispatch ι β}

/-- A dispatch returns when it has made the calls that are left. -/
theorem returned_of_calls {left : Nat} (hget : s.dispatches[number]? = some dispatch)
    (hgoing : dispatch.hasReturned = false)
    (hleft : dispatch.next + left = dispatch.listeners.length) :
    Returned (s.after (List.replicate left (.call number) ++ [.finish number])).history number := by
  induction left generalizing s dispatch with
  | zero =>
    show Returned (s.finish number).history number
    rw [finish_of_done hget hgoing hleft]
    exact ⟨_, List.mem_append_right _ (List.mem_singleton.mpr rfl)⟩
  | succ left ih =>
    have hlt : dispatch.next < dispatch.listeners.length := by omega
    have hnext : dispatch.listeners[dispatch.next]? = some dispatch.listeners[dispatch.next] :=
      List.getElem?_eq_getElem hlt
    show Returned ((s.call number).after
      (List.replicate left (.call number) ++ [.finish number])).history number
    rw [call_of_next hget hnext]
    refine ih (List.getElem?_set_self (lt_of_getElem?_eq_some hget)) hgoing ?_
    show dispatch.next + 1 + left = dispatch.listeners.length
    omega

theorem Sound.returns (hs : s.Sound) (htaken : .taken number item ∈ s.history) :
    ∃ left, Returned (s.after (List.replicate left (.call number) ++ [.finish number])).history
      number := by
  have hlt := hs.known _ htaken number rfl
  have hget : s.dispatches[number]? = some s.dispatches[number] := List.getElem?_eq_getElem hlt
  have hbegan := hs.began number _ hget
  cases hended : s.dispatches[number].hasReturned with
  | false => exact ⟨_, returned_of_calls hget hended (Nat.add_sub_cancel' hbegan.next_le)⟩
  | true =>
    have hstay : s.finish number = s := by
      unfold Shared.finish
      rw [hget]
      exact if_neg fun hgoing => Bool.noConfusion (hended.symm.trans hgoing.1)
    refine ⟨0, ?_⟩
    show Returned (s.finish number).history number
    rw [hstay]
    exact hbegan.noted hended

end Shared

/-- Whatever is done to a registry by whomever, and in whatever order, every registration is
answered as it should be, and every dispatch that has begun has only to go on in order to return. -/
theorem deliveries_exact [DecidableEq ι] (moves : List (Move ι β)) :
    let s := ({} : Shared ι β).after moves
    Exact s.history ∧
      ∀ number item, .taken number item ∈ s.history → ∃ left,
        Returned (s.after (List.replicate left (.call number) ++ [.finish number])).history
          number :=
  ⟨(Shared.sound_after moves).exact_history, fun _ _ => (Shared.sound_after moves).returns⟩

/-- A listener for one delivery is called once although two dispatches race, and is called again
after it has been registered again while the first of them was going on. -/
example :
    (({} : Shared String Nat).after [.add "once" true, .take 1, .take 2, .add "once" true,
      .call 1, .call 0, .take 3, .call 2, .finish 0, .finish 1, .finish 2]).history =
      [.added "once" true true, .taken 0 1, .taken 1 2, .added "once" true true,
        .called 0 "once" 1, .taken 2 3, .called 2 "once" 3, .returned 0 1, .returned 1 0,
        .returned 2 1] := by
  rfl

end Registry
end Courier
