/-
The grammar of addresses, and which of them can be written.

A text is an address exactly if an identity stands before its first `/`: not nothing, not a lone `@`,
and not more than one `@`.  The address that is read spells the text out, with nothing for the parts
that it leaves out (`Node.Spells`), and it is the only one that does: `parse_exact` says both.

The text that is written for an address has a separator only before a part that is present.  So it is
read as another address, or refused, unless the address is one that reading can give and its text
is not trimmed; and then it is read back (`read_back_iff`).
-/
import Courier.Proofs.Node.Reading

namespace Courier
namespace Node

variable {cs : List Char} {node : Node} {identity : Identity}

/-! ## What a text spells out -/

/-- What stands in a text before the first `/`. -/
def stem (cs : List Char) : List Char :=
  cs.takeWhile (· ≠ '/')

/-- What stands for a part in a text: nothing if the part is left out. -/
def partChars (part : Option String) : List Char :=
  (part.getD "").toList

/-- A text is no address. -/
def IsRefused (cs : List Char) : Prop :=
  cs = [] ∨ stem cs = [] ∨ stem cs = ['@'] ∨ 2 ≤ (stem cs).count '@'

/-- A text spells an address out: it is the name, then the domain after an `@`, then the place after
a `/`.  Either separator may also stand before nothing, but a part does not come without it. -/
structure Spells (cs : List Char) (node : Node) : Prop where
  wellFormed : node.WellFormed
  text : cs = partChars node.identity.name ++
    (if '@' ∈ stem cs then '@' :: partChars node.identity.domain else []) ++
    (if '/' ∈ cs then '/' :: partChars node.place else [])
  domain : '@' ∉ stem cs → node.identity.domain = none
  place : '/' ∉ cs → node.place = none

@[simp] theorem partChars_part? (cs : List Char) : partChars (part? cs) = cs := by
  cases cs <;> simp [part?, partChars]

theorem part?_partChars {part : Option String} (h : ∀ p ∈ part, p ≠ "") :
    part? (partChars part) = part := by
  cases part with
  | none => rfl
  | some p => exact part?_toList (h p rfl)

theorem not_mem_partChars {separators : List Char} {part : Option String}
    (h : ∀ p ∈ part, IsPart separators p) {c : Char} (hc : c ∈ separators) : c ∉ partChars part := by
  cases part with
  | none => exact List.not_mem_nil
  | some p => exact (h p rfl).clean c hc

theorem slash_not_mem_stem (cs : List Char) : '/' ∉ stem cs := fun hmem => by
  simpa using List.mem_takeWhile_imp hmem

theorem stem_of_not_mem (h : '/' ∉ cs) : stem cs = cs :=
  List.takeWhile_eq_self_iff.mpr fun c hc => by
    have hne : c ≠ '/' := fun heq => h (heq ▸ hc)
    simpa using hne

theorem stem_append_slash {before : List Char} (h : '/' ∉ before) (after : List Char) :
    stem (before ++ '/' :: after) = before := by
  have hself : stem before = before := stem_of_not_mem h
  unfold stem at hself ⊢
  rw [List.takeWhile_append_of_pos, List.takeWhile_cons_of_neg, List.append_nil]
  · simp
  · exact List.takeWhile_eq_self_iff.mp hself

/-! ## What is read spells the text out -/

theorem identity?_spells (h : identity? cs = some identity) :
    cs = partChars identity.name ++ (if '@' ∈ cs then '@' :: partChars identity.domain else []) ∧
      ('@' ∉ cs → identity.domain = none) := by
  rcases identity?_cases h with ⟨hat, -, rfl⟩ | ⟨name, domain, rfl, -, -, rfl, -⟩
  · simp [hat]
  · simp

theorem spells_of_ofTrimmed? (h : ofTrimmed? cs = some node) : Spells cs node := by
  have hwell := wellFormed_of_ofTrimmed? h
  rcases ofTrimmed?_cases h with ⟨hslash, hidentity, hplace⟩ |
    ⟨before, after, rfl, hbefore, hidentity, hplace⟩
  · obtain ⟨htext, hdomain⟩ := identity?_spells hidentity
    have hstem : stem cs = cs := stem_of_not_mem hslash
    exact ⟨hwell, by rwa [hstem, if_neg hslash, List.append_nil], by rwa [hstem], fun _ => hplace⟩
  · obtain ⟨htext, hdomain⟩ := identity?_spells hidentity
    have hstem : stem (before ++ '/' :: after) = before := stem_append_slash hbefore after
    have hslash : '/' ∈ before ++ '/' :: after := by simp
    refine ⟨hwell, ?_, by rwa [hstem], fun hnot => absurd hslash hnot⟩
    rw [hstem, if_pos hslash, ← htext, hplace, partChars_part?]

/-! ## What spells the text out is read -/

theorem identity?_of_spelled (hwell : identity.WellFormed)
    (htext : cs = partChars identity.name ++
      (if '@' ∈ cs then '@' :: partChars identity.domain else []))
    (hdomain : '@' ∉ cs → identity.domain = none) : identity? cs = some identity := by
  have hname : '@' ∉ partChars identity.name := not_mem_partChars hwell.name (by simp)
  have hpart : part? (partChars identity.name) = identity.name :=
    part?_partChars fun p hp => (hwell.name p hp).nonempty
  by_cases hat : '@' ∈ cs
  · have hclean : '@' ∉ partChars identity.domain := not_mem_partChars hwell.domain (by simp)
    have hpart' : part? (partChars identity.domain) = identity.domain :=
      part?_partChars fun p hp => (hwell.domain p hp).nonempty
    rw [if_pos hat] at htext
    rw [htext, identity?_of_at hname hclean, hpart, hpart', if_neg hwell.present]
  · rw [if_neg hat, List.append_nil] at htext
    rw [htext, identity?_of_not_mem hname, hpart]
    obtain ⟨name, domain⟩ := identity
    obtain rfl : domain = none := hdomain hat
    cases name with
    | none => exact absurd rfl hwell.present
    | some name => rfl

theorem ofTrimmed?_of_spells (h : Spells cs node) : ofTrimmed? cs = some node := by
  have hbefore : '/' ∉ partChars node.identity.name ++
      (if '@' ∈ stem cs then '@' :: partChars node.identity.domain else []) := by
    have hname := not_mem_partChars h.wellFormed.identity.name (c := '/') (by simp)
    have hdomain := not_mem_partChars h.wellFormed.identity.domain (c := '/') (by simp)
    split <;> simp [hname, hdomain]
  have hstem : stem cs = partChars node.identity.name ++
      (if '@' ∈ stem cs then '@' :: partChars node.identity.domain else []) := by
    have htext := congrArg stem h.text
    by_cases hslash : '/' ∈ cs
    · rwa [if_pos hslash, stem_append_slash hbefore] at htext
    · rwa [if_neg hslash, List.append_nil, stem_of_not_mem hbefore] at htext
  have hidentity := identity?_of_spelled h.wellFormed.identity hstem h.domain
  have htext := h.text
  rw [← hstem] at htext
  by_cases hslash : '/' ∈ cs
  · rw [if_pos hslash] at htext
    have hplace : part? (partChars node.place) = node.place :=
      part?_partChars fun p hp => (h.wellFormed.place p hp).nonempty
    rw [htext, ofTrimmed?_of_slash (slash_not_mem_stem cs), hidentity, hplace]
    rfl
  · rw [if_neg hslash, List.append_nil] at htext
    rw [ofTrimmed?_of_not_mem hslash, htext, hidentity]
    obtain ⟨identity, place⟩ := node
    obtain rfl : place = none := h.place hslash
    rfl

/-! ## What is refused -/

theorem identity?_eq_none_iff : identity? cs = none ↔ cs = [] ∨ cs = ['@'] ∨ 2 ≤ cs.count '@' := by
  by_cases hat : '@' ∈ cs
  · obtain ⟨name, domain, rfl, hname⟩ := List.eq_append_cons_of_mem hat
    have hcount : (name ++ '@' :: domain).count '@' = domain.count '@' + 1 := by
      rw [List.count_append, List.count_eq_zero_of_not_mem hname, List.count_cons_self,
        Nat.zero_add]
    by_cases hdomain : '@' ∈ domain
    · have htwo : 2 ≤ (name ++ '@' :: domain).count '@' := by
        have hone := List.count_pos_iff.mpr hdomain
        omega
      have hnone : identity? (name ++ '@' :: domain) = none := by
        unfold identity?
        rw [Text.cut_append_cons hname]
        exact if_pos hdomain
      exact ⟨fun _ => .inr (.inr htwo), fun _ => hnone⟩
    · rw [identity?_of_at hname hdomain, hcount, List.count_eq_zero_of_not_mem hdomain]
      simp [part?_eq_none_iff, List.append_eq_singleton_iff]
  · rw [identity?_of_not_mem hat, Option.map_eq_none_iff, part?_eq_none_iff,
      List.count_eq_zero_of_not_mem hat]
    have hlone : cs ≠ ['@'] := fun heq => hat (heq ▸ List.mem_singleton_self '@')
    simp [hlone]

theorem ofTrimmed?_eq_none_iff : ofTrimmed? cs = none ↔ identity? (stem cs) = none := by
  by_cases hslash : '/' ∈ cs
  · obtain ⟨before, after, rfl, hbefore⟩ := List.eq_append_cons_of_mem hslash
    rw [ofTrimmed?_of_slash hbefore, stem_append_slash hbefore, Option.map_eq_none_iff]
  · rw [ofTrimmed?_of_not_mem hslash, stem_of_not_mem hslash, Option.map_eq_none_iff]

theorem Spells.not_isRefused (h : Spells cs node) : ¬IsRefused cs := by
  have hread := ofTrimmed?_of_spells h
  rintro (rfl | hstem)
  · cases hread
  · rw [ofTrimmed?_eq_none_iff.mpr (identity?_eq_none_iff.mpr hstem)] at hread
    cases hread

/-- A text spells one address out at most. -/
theorem Spells.unique {other : Node} (h : Spells cs node) (hother : Spells cs other) :
    node = other :=
  Option.some.inj ((ofTrimmed?_of_spells h).symm.trans (ofTrimmed?_of_spells hother))

/-! ## Reading -/

/-- What a text that is no address is refused with. -/
def refusal (cs : List Char) : Fault :=
  .invalidNode (if cs = [] then "empty node" else String.ofList cs)

/-- A text is refused, or it is read as an address that it spells out. -/
theorem parse_cases (s : String) :
    let cs := Text.trimChars s.toList
    (IsRefused cs ∧ parse s = .error (refusal cs)) ∨ ∃ node, parse s = .ok node ∧ Spells cs node := by
  intro cs
  unfold parse IsRefused refusal
  dsimp only
  by_cases hempty : cs = []
  · left
    rw [if_pos (List.isEmpty_iff.mpr hempty), if_pos hempty]
    exact ⟨.inl hempty, rfl⟩
  rw [if_neg (by rwa [List.isEmpty_iff]), if_neg hempty]
  cases hread : ofTrimmed? cs with
  | none =>
    have hstem := identity?_eq_none_iff.mp (ofTrimmed?_eq_none_iff.mp hread)
    exact .inl ⟨.inr hstem, rfl⟩
  | some node => exact .inr ⟨node, rfl, spells_of_ofTrimmed? hread⟩

theorem parse_eq_ok_iff {s : String} :
    parse s = .ok node ↔ Spells (Text.trimChars s.toList) node := by
  obtain ⟨hrefused, hparse⟩ | ⟨found, hparse, hspells⟩ := parse_cases s <;> rw [hparse]
  · exact ⟨nofun, fun h => absurd hrefused h.not_isRefused⟩
  · exact ⟨fun h => Except.ok.inj h ▸ hspells, fun h => congrArg Except.ok (hspells.unique h)⟩

theorem parse_identity_eq_ok_iff {s : String} :
    Identity.parse s = .ok identity ↔ ∃ place, parse s = .ok ⟨identity, place⟩ := by
  constructor
  · intro h
    obtain ⟨node, hparse, rfl⟩ := exists_parse_of_identity h
    exact ⟨node.place, hparse⟩
  · rintro ⟨place, hparse⟩
    unfold Identity.parse
    rw [hparse]
    rfl

/-- Reading accepts just the texts that spell an address out, and gives that address, of which there
is one only.  All other texts are refused, each with a fault that shows it.  An identity is read from
the same texts, and is that of the address. -/
theorem parse_exact (s : String) :
    (∀ fault, parse s = .error fault ↔
      IsRefused (Text.trimChars s.toList) ∧ fault = refusal (Text.trimChars s.toList)) ∧
    (¬IsRefused (Text.trimChars s.toList) ↔ ∃ node, parse s = .ok node) ∧
    (∀ node, parse s = .ok node ↔ Spells (Text.trimChars s.toList) node) ∧
    (∀ fault, Identity.parse s = .error fault ↔ parse s = .error fault) ∧
    ∀ identity, Identity.parse s = .ok identity ↔ ∃ place, parse s = .ok ⟨identity, place⟩ := by
  refine ⟨fun fault => ?_, ?_, fun _ => parse_eq_ok_iff, fun fault => ?_,
    fun _ => parse_identity_eq_ok_iff⟩
  · obtain ⟨hrefused, hparse⟩ | ⟨node, hparse, hspells⟩ := parse_cases s <;> rw [hparse]
    · exact ⟨fun h => ⟨hrefused, (Except.error.inj h).symm⟩, fun h => congrArg _ h.2.symm⟩
    · exact ⟨nofun, fun h => absurd h.1 hspells.not_isRefused⟩
  · obtain ⟨hrefused, hparse⟩ | ⟨node, hparse, hspells⟩ := parse_cases s <;> rw [hparse]
    · exact ⟨fun h => absurd hrefused h, fun ⟨_, h⟩ => nomatch h⟩
    · exact ⟨fun _ => ⟨node, rfl⟩, fun _ => hspells.not_isRefused⟩
  · unfold Identity.parse
    cases parse s with
    | error other =>
      exact ⟨fun h => congrArg _ (Except.error.inj h), fun h => congrArg _ (Except.error.inj h)⟩
    | ok node => exact ⟨nofun, nofun⟩

/-- A place may hold separators, and a separator may stand before nothing. -/
example : parse "\u2003@b c/@/ d\n" = .ok ⟨⟨none, some "b c"⟩, some "@/ d"⟩ ∧
    parse "a@/" = .ok ⟨⟨some "a", none⟩, none⟩ ∧ parse "@@" = .error (.invalidNode "@@") := by
  decide

/-! ## Reading what was written -/

/-- What is written for an address is no longer than any text that spells it out. -/
theorem Spells.length_chars_le (h : Spells cs node) : node.chars.length ≤ cs.length := by
  -- A part that is present is spelled out after a separator, which is all that is written before it.
  have hafter : ∀ (separator : Char) (part : Option String) (written : Prop) [Decidable written],
      (¬written → part = none) →
      ((part.map fun p => separator :: p.toList).getD []).length ≤
        (if written then separator :: partChars part else []).length := by
    intro separator part written _ habsent
    cases part with
    | none => exact Nat.zero_le _
    | some p =>
      have hwritten : written := Classical.not_not.mp fun hnot => nomatch habsent hnot
      rw [if_pos hwritten]
      exact Nat.le_refl _
  have hname : (node.identity.name.map String.toList).getD [] = partChars node.identity.name := by
    cases node.identity.name <;> rfl
  have hdomain := hafter '@' node.identity.domain _ h.domain
  have hplace := hafter '/' node.place _ h.place
  rw [h.text, chars, Identity.chars, hname]
  simp only [List.length_append]
  omega

/-- An address that is read from the text that was written for it is spelled out by just that text. -/
theorem parse_text_eq_ok_iff :
    parse node.text = .ok node ↔
      node.WellFormed ∧ ¬Text.BeginsBlank node.chars ∧ ¬Text.EndsBlank node.chars := by
  refine ⟨fun h => ?_, fun ⟨hwell, hbegins, hends⟩ => parse_text_of_not_blank hwell hbegins hends⟩
  have hspells := parse_eq_ok_iff.mp h
  rw [text, String.toList_ofList] at hspells
  have huntrimmed : Text.trimChars node.chars = node.chars :=
    (Text.trimChars_sublist node.chars).eq_of_length_le hspells.length_chars_le
  obtain ⟨hbegins, hends⟩ := Text.not_blank_trimChars node.chars
  rw [huntrimmed] at hbegins hends
  exact ⟨hspells.wellFormed, hbegins, hends⟩

/-- An address is read back from the text that is written for it exactly if it has a name or a
domain, no part of it is empty, neither the name nor the domain holds a separator, and the text has
no white space at its ends.  The same is so of an identity. -/
theorem read_back_iff :
    (∀ node : Node, parse node.text = .ok node ↔
      node.WellFormed ∧ ¬Text.BeginsBlank node.text.toList ∧ ¬Text.EndsBlank node.text.toList) ∧
    ∀ identity : Identity, Identity.parse identity.text = .ok identity ↔
      identity.WellFormed ∧
        ¬Text.BeginsBlank identity.text.toList ∧ ¬Text.EndsBlank identity.text.toList := by
  have hnode : ∀ node : Node, parse node.text = .ok node ↔
      node.WellFormed ∧ ¬Text.BeginsBlank node.text.toList ∧ ¬Text.EndsBlank node.text.toList := by
    intro node
    rw [text, String.toList_ofList]
    exact parse_text_eq_ok_iff
  refine ⟨hnode, fun identity => ?_⟩
  have htext : text { identity } = identity.text := congrArg String.ofList (List.append_nil _)
  have hwhole := hnode { identity }
  rw [htext] at hwhole
  constructor
  · intro h
    obtain ⟨place, hparse⟩ := parse_identity_eq_ok_iff.mp h
    have hspells := parse_eq_ok_iff.mp hparse
    -- There is no `/` in the text of an identity, so what was read has no place.
    have hslash : '/' ∉ Text.trimChars identity.text.toList := by
      intro hmem
      refine hspells.wellFormed.identity.slash_not_mem_chars ?_
      have hwritten := (Text.trimChars_sublist _).subset hmem
      rwa [Identity.text, String.toList_ofList] at hwritten
    obtain rfl : place = none := hspells.place hslash
    obtain ⟨hwell, hblank⟩ := hwhole.mp hparse
    exact ⟨hwell.identity, hblank⟩
  · rintro ⟨hwell, hblank⟩
    exact parse_identity_eq_ok_iff.mpr ⟨none, hwhole.mpr ⟨⟨hwell, nofun⟩, hblank⟩⟩

end Node
end Courier
