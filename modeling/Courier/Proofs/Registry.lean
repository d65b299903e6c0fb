/-
Which listeners a registry has after each operation.
-/
import Courier.Registry

namespace Courier
namespace Registry

variable {ι : Type}

theorem mem_of_mem_withoutOnce {registry : Registry ι} {listener : ι}
    (h : listener ∈ registry.withoutOnce.listeners) : listener ∈ registry.listeners := by
  obtain ⟨entry, hentry, rfl⟩ := List.mem_map.mp h
  exact List.mem_map.mpr ⟨entry, (List.mem_filter.mp hentry).1, rfl⟩

variable [DecidableEq ι]

theorem mem_add {registry : Registry ι} {listener other : ι} {once : Bool} :
    other ∈ (registry.add listener once).2.listeners ↔
      other ∈ registry.listeners ∨ other = listener := by
  unfold add
  by_cases h : registry.contains listener = true
  · rw [if_pos h]
    have hmem : listener ∈ registry.listeners := contains_iff.mp h
    constructor
    · exact .inl
    · rintro (hother | rfl)
      · exact hother
      · exact hmem
  · rw [if_neg h]
    simp [listeners]

theorem mem_remove {registry : Registry ι} {listener other : ι} :
    other ∈ (registry.remove listener).2.listeners ↔
      other ∈ registry.listeners ∧ other ≠ listener := by
  simp only [remove, listeners, List.mem_map, List.mem_filter, decide_eq_true_eq]
  constructor
  · rintro ⟨entry, ⟨hentry, hne⟩, rfl⟩
    exact ⟨⟨entry, hentry, rfl⟩, hne⟩
  · rintro ⟨⟨entry, hentry, rfl⟩, hne⟩
    exact ⟨entry, ⟨hentry, hne⟩, rfl⟩

/-! ## Entries -/

variable {registry : Registry ι} {listener : ι} {once : Bool} {entry : Registration ι}

theorem isNew_add : (registry.add listener once).1 = true ↔ listener ∉ registry.listeners := by
  rw [← contains_iff]
  unfold add
  by_cases h : registry.contains listener = true <;> simp [h]

theorem mem_entries_add : entry ∈ (registry.add listener once).2.entries ↔
    entry ∈ registry.entries ∨ (registry.add listener once).1 = true ∧ entry = ⟨listener, once⟩ := by
  unfold add
  by_cases h : registry.contains listener = true <;> simp [h]

theorem mem_entries_remove : entry ∈ (registry.remove listener).2.entries ↔
    entry ∈ registry.entries ∧ entry.listener ≠ listener := by
  simp [remove, List.mem_filter]

omit [DecidableEq ι] in
theorem mem_listeners_iff :
    listener ∈ registry.listeners ↔ ∃ once, ⟨listener, once⟩ ∈ registry.entries := by
  constructor
  · intro h
    obtain ⟨entry, hentry, rfl⟩ := List.mem_map.mp h
    exact ⟨entry.once, hentry⟩
  · rintro ⟨once, hentry⟩
    exact List.mem_map_of_mem hentry

omit [DecidableEq ι] in
theorem mem_entries_withoutOnce : entry ∈ registry.withoutOnce.entries ↔
    entry ∈ registry.entries ∧ entry.once = false := by
  simp [withoutOnce, List.mem_filter]

theorem wasThere_remove : (registry.remove listener).1 = true ↔ listener ∈ registry.listeners := by
  have hkept : (registry.entries.filter fun entry => entry.listener ≠ listener).length =
      registry.entries.length ↔ listener ∉ registry.listeners := by
    rw [List.length_filter_eq_length_iff]
    simp [listeners]
  unfold remove
  simp only [bne_iff_ne, ne_eq, hkept, Decidable.not_not]

/-! ## What changes nothing -/

theorem add_of_mem (hmem : listener ∈ registry.listeners) (once : Bool) :
    registry.add listener once = (false, registry) :=
  if_pos (contains_iff.mpr hmem)

theorem add_of_not_mem (hnot : listener ∉ registry.listeners) (once : Bool) :
    registry.add listener once = (true, ⟨registry.entries ++ [⟨listener, once⟩]⟩) :=
  if_neg fun hcontains => hnot (contains_iff.mp hcontains)

theorem remove_of_not_mem (hnot : listener ∉ registry.listeners) :
    registry.remove listener = (false, registry) := by
  have hall : registry.entries.filter (fun entry => entry.listener ≠ listener) =
      registry.entries := by
    refine List.filter_eq_self.mpr fun entry hentry => ?_
    exact decide_eq_true fun heq => hnot (heq ▸ List.mem_map_of_mem hentry)
  unfold remove
  dsimp only
  rw [hall, bne_self_eq_false]

/-- Registering a listener makes no difference to a registry that it is taken out of afterwards. -/
theorem remove_add :
    ((registry.add listener once).2.remove listener).2 = (registry.remove listener).2 := by
  unfold add
  by_cases hcontains : registry.contains listener = true
  · rw [if_pos hcontains]
  · rw [if_neg hcontains]
    simp [remove, List.filter_append]

theorem remove_eq_self_iff :
    (registry.remove listener).2 = registry ↔ listener ∉ registry.listeners := by
  constructor
  · intro hsame hmem
    rw [← hsame] at hmem
    exact (mem_remove.mp hmem).2 rfl
  · intro hnot
    rw [remove_of_not_mem hnot]

end Registry
end Courier
