/-
White space at the ends of texts.

Trimming takes away just the white space at the two ends: what is left neither begins nor ends in it,
a text that does neither is left as it is, and nothing is left of a text that holds nothing else.
-/
import Mathlib.Data.List.DropRight
import Courier.Text.Blank

namespace Courier
namespace Text

variable {cs ds : List Char}

/-- Whether a text begins with white space. -/
def BeginsBlank (cs : List Char) : Prop :=
  ∃ c ∈ cs.head?, isBlank c = true

/-- Whether a text ends in white space. -/
def EndsBlank (cs : List Char) : Prop :=
  ∃ c ∈ cs.getLast?, isBlank c = true

theorem dropWhile_isBlank (h : ¬BeginsBlank cs) : cs.dropWhile isBlank = cs := by
  cases cs with
  | nil => rfl
  | cons c cs =>
    have hc : ¬isBlank c = true := fun hc => h ⟨c, rfl, hc⟩
    exact List.dropWhile_cons_of_neg hc

theorem not_beginsBlank_dropWhile (cs : List Char) : ¬BeginsBlank (cs.dropWhile isBlank) := by
  rintro ⟨c, hc, hblank⟩
  have hnot := List.head?_dropWhile_not isBlank cs
  rw [Option.mem_def.mp hc] at hnot
  exact Bool.noConfusion (hblank.symm.trans hnot)

theorem trimEnd_eq_self_iff : trimEnd cs = cs ↔ ¬EndsBlank cs := by
  refine (List.rdropWhile_eq_self_iff (p := isBlank)).trans ?_
  unfold EndsBlank
  constructor
  · rintro h ⟨c, hc, hblank⟩
    obtain ⟨hne, rfl⟩ := List.mem_getLast?_eq_getLast hc
    exact h hne hblank
  · exact fun h hne hblank => h ⟨_, List.getLast_mem_getLast? hne, hblank⟩

theorem trimEnd_append (cs ds : List Char) :
    trimEnd (cs ++ ds) = if trimEnd ds = [] then trimEnd cs else cs ++ trimEnd ds := by
  unfold trimEnd
  rw [List.reverse_append, List.dropWhile_append]
  by_cases h : ds.reverse.dropWhile isBlank = []
  · simp only [h, List.isEmpty_nil, if_true, List.reverse_nil]
  · rw [if_neg (by simpa using h), if_neg (by simpa using h), List.reverse_append,
      List.reverse_reverse]

/-- What stands before a character that is no blank is not trimmed. -/
theorem trimEnd_append_cons {c : Char} (hc : isBlank c = false) (cs ds : List Char) :
    trimEnd (cs ++ c :: ds) = cs ++ c :: trimEnd ds := by
  have hself : trimEnd [c] = [c] := by simp [trimEnd, hc]
  have hmark : trimEnd (c :: ds) = c :: trimEnd ds := by
    rw [← List.singleton_append, trimEnd_append, hself]
    split <;> simp_all
  rw [trimEnd_append, hmark, if_neg (List.cons_ne_nil _ _)]

theorem trimChars_of_not_beginsBlank (h : ¬BeginsBlank cs) : trimChars cs = trimEnd cs := by
  rw [trimChars, dropWhile_isBlank h]

/-- A text that begins with no blank is not trimmed to nothing. -/
theorem trimEnd_ne_nil (hne : cs ≠ []) (h : ¬BeginsBlank cs) : trimEnd cs ≠ [] := by
  intro hnil
  obtain ⟨c, cs, rfl⟩ := List.exists_cons_of_ne_nil hne
  exact h ⟨c, rfl, List.rdropWhile_eq_nil_iff.mp hnil c List.mem_cons_self⟩

/-- A text that has been trimmed neither begins with white space nor ends in it. -/
theorem not_blank_trimChars (cs : List Char) :
    ¬BeginsBlank (trimChars cs) ∧ ¬EndsBlank (trimChars cs) := by
  have hend : ¬EndsBlank (trimChars cs) :=
    trimEnd_eq_self_iff.mp (List.rdropWhile_idempotent isBlank (cs.dropWhile isBlank))
  refine ⟨?_, hend⟩
  rintro ⟨c, hc, hblank⟩
  obtain ⟨trimmed, htrimmed⟩ : trimChars cs <+: cs.dropWhile isBlank :=
    List.rdropWhile_prefix _ _
  refine not_beginsBlank_dropWhile cs ⟨c, ?_, hblank⟩
  rw [← htrimmed, List.head?_append, Option.mem_def.mp hc]
  rfl

/-- What stands between two texts is not trimmed. -/
theorem trimChars_append_cons {before after : List Char} (hbefore : before ≠ []) (hafter : after ≠ [])
    (hbegins : ¬BeginsBlank before) (hends : ¬EndsBlank after) (separator : Char) :
    trimChars (before ++ separator :: after) = before ++ separator :: after := by
  have hhead : (before ++ separator :: after).head? = before.head? :=
    List.head?_append_of_ne_nil before hbefore
  have hlast : (before ++ separator :: after).getLast? = after.getLast? := by
    rw [List.append_cons, List.getLast?_append_of_ne_nil _ hafter]
  rw [trimChars_of_not_beginsBlank (by rwa [BeginsBlank, hhead]),
    trimEnd_eq_self_iff, EndsBlank, hlast]
  exact hends

theorem trimChars_sublist (cs : List Char) : (trimChars cs).Sublist cs :=
  (List.rdropWhile_prefix _ _).sublist.trans (List.dropWhile_sublist _)

theorem trimChars_eq_nil_iff {cs : List Char} :
    trimChars cs = [] ↔ ∀ c ∈ cs, isBlank c = true := by
  have hwhole : ∀ ds : List Char, (∀ c ∈ ds.dropWhile isBlank, isBlank c = true) →
      ∀ c ∈ ds, isBlank c = true := by
    intro ds hrest c hc
    rw [← List.takeWhile_append_dropWhile (p := isBlank) (l := ds)] at hc
    rcases List.mem_append.mp hc with hfirst | hlater
    · exact List.all_eq_true.mp List.all_takeWhile c hfirst
    · exact hrest c hlater
  unfold trimChars trimEnd
  rw [List.reverse_eq_nil_iff]
  constructor
  · intro hnil
    refine hwhole cs fun c hc => hwhole _ (fun d hd => ?_) c (List.mem_reverse.mpr hc)
    rw [hnil] at hd
    cases hd
  · intro hblank
    rw [← List.append_nil (cs.dropWhile isBlank).reverse, List.dropWhile_append_of_pos,
      List.dropWhile_nil]
    exact fun c hc => hblank c (List.dropWhile_subset _ (List.mem_reverse.mp hc))

end Text
end Courier
