/-
Addresses that are read, written and read again.

What reading gives is well-formed (`Node.WellFormed`): no part is empty, and none holds a separator
that would cut it elsewhere.  A well-formed address is therefore told from its text, if the text is
left as it is.  But a text is trimmed before it is cut, and what stands before a separator may end in
white space: `a /` is read as a name that ends in a blank, and written without the separator that
kept the blank inside.  So an address that was read is read back from its text exactly if that text
does not end in white space, and otherwise its last part is shortened (`reading_again`).
-/
import Courier.Node
import Courier.Proofs.Text.Blank

namespace Courier

/-! ## Parts -/

/-- A part of an address that reading can give: it is not empty, and none of the separators that cut
the text stands in it. -/
structure Node.IsPart (separators : List Char) (part : String) : Prop where
  nonempty : part ≠ ""
  clean : ∀ c ∈ separators, c ∉ part.toList

/-- An identity that reading can give. -/
structure Identity.WellFormed (identity : Identity) : Prop where
  present : identity ≠ {}
  name : ∀ name ∈ identity.name, Node.IsPart ['@', '/'] name
  domain : ∀ domain ∈ identity.domain, Node.IsPart ['@', '/'] domain

/-- An address that reading can give. -/
structure Node.WellFormed (node : Node) : Prop where
  identity : node.identity.WellFormed
  place : ∀ place ∈ node.place, Node.IsPart [] place

namespace Node

variable {cs name domain : List Char} {identity : Identity} {node : Node}

theorem part?_of_ne_nil (h : cs ≠ []) : part? cs = some (String.ofList cs) := by
  cases cs with
  | nil => exact absurd rfl h
  | cons c cs => rfl

theorem part?_toList {part : String} (h : part ≠ "") : part? part.toList = some part := by
  rw [part?_of_ne_nil fun hnil => h (String.toList_eq_nil_iff.mp hnil), String.ofList_toList]

theorem isPart_of_part? {separators : List Char} {part : String} (h : part? cs = some part)
    (hclean : ∀ c ∈ separators, c ∉ cs) : IsPart separators part := by
  cases cs with
  | nil => cases h
  | cons c cs =>
    cases h
    exact ⟨by simp, by simpa using hclean⟩

theorem part?_eq_some_iff {part : String} : part? cs = some part ↔ cs = part.toList ∧ part ≠ "" := by
  constructor
  · intro h
    cases cs with
    | nil => cases h
    | cons c cs =>
      cases h
      exact ⟨String.toList_ofList.symm, by simp⟩
  · rintro ⟨rfl, hne⟩
    exact part?_toList hne

theorem part?_eq_none_iff : part? cs = none ↔ cs = [] := by
  cases cs <;> simp [part?]

/-! ## What an address is cut into -/

theorem identity?_of_not_mem (h : '@' ∉ cs) :
    identity? cs = (part? cs).map fun name => { name := some name } := by
  unfold identity?
  rw [Text.cut_of_not_mem h]
  dsimp only
  cases part? cs <;> rfl

theorem identity?_of_at (hname : '@' ∉ name) (hdomain : '@' ∉ domain) :
    identity? (name ++ '@' :: domain) =
      if (⟨part? name, part? domain⟩ : Identity) = {} then none
      else some ⟨part? name, part? domain⟩ := by
  unfold identity?
  rw [Text.cut_append_cons hname]
  dsimp only
  rw [if_neg hdomain]
  cases part? name <;> cases part? domain <;> simp

/-- A text is an identity if it is a name, or a name and a domain of which one may be empty. -/
theorem identity?_cases (h : identity? cs = some identity) :
    ('@' ∉ cs ∧ cs ≠ [] ∧ identity = { name := part? cs }) ∨
      ∃ name domain, cs = name ++ '@' :: domain ∧ '@' ∉ name ∧ '@' ∉ domain ∧
        identity = ⟨part? name, part? domain⟩ ∧ identity ≠ {} := by
  have happend := Text.append_cut '@' cs
  have hname := Text.not_mem_cut_fst '@' cs
  rcases hcut : Text.cut '@' cs with ⟨name, _ | domain⟩ <;> rw [hcut] at happend hname
  · have hcs : name = cs := by simpa using happend
    subst hcs
    rw [identity?_of_not_mem hname] at h
    obtain ⟨part, hpart, rfl⟩ := Option.map_eq_some_iff.mp h
    refine .inl ⟨hname, ?_, by rw [hpart]⟩
    rintro rfl
    cases hpart
  · have hcs : name ++ '@' :: domain = cs := by simpa using happend
    by_cases hdomain : '@' ∈ domain
    · unfold identity? at h
      rw [hcut] at h
      simp [hdomain] at h
    · rw [← hcs, identity?_of_at hname hdomain] at h
      split at h
      · cases h
      · rename_i hne
        cases h
        exact .inr ⟨name, domain, hcs.symm, hname, hdomain, rfl, hne⟩

theorem ofTrimmed?_of_not_mem (h : '/' ∉ cs) :
    ofTrimmed? cs = (identity? cs).map fun identity => { identity } := by
  unfold ofTrimmed?
  rw [Text.cut_of_not_mem h]
  rfl

theorem ofTrimmed?_of_slash {before : List Char} (h : '/' ∉ before) (after : List Char) :
    ofTrimmed? (before ++ '/' :: after) =
      (identity? before).map fun identity => { identity, place := part? after } := by
  unfold ofTrimmed?
  rw [Text.cut_append_cons h]
  rfl

/-- A text is an address if it is an identity, or an identity and a place that may be empty. -/
theorem ofTrimmed?_cases (h : ofTrimmed? cs = some node) :
    ('/' ∉ cs ∧ identity? cs = some node.identity ∧ node.place = none) ∨
      ∃ before after, cs = before ++ '/' :: after ∧ '/' ∉ before ∧
        identity? before = some node.identity ∧ node.place = part? after := by
  have happend := Text.append_cut '/' cs
  have hbefore := Text.not_mem_cut_fst '/' cs
  rcases hcut : Text.cut '/' cs with ⟨before, _ | after⟩ <;> rw [hcut] at happend hbefore
  · have hcs : before = cs := by simpa using happend
    subst hcs
    rw [ofTrimmed?_of_not_mem hbefore] at h
    obtain ⟨identity, hidentity, rfl⟩ := Option.map_eq_some_iff.mp h
    exact .inl ⟨hbefore, hidentity, rfl⟩
  · have hcs : before ++ '/' :: after = cs := by simpa using happend
    rw [← hcs, ofTrimmed?_of_slash hbefore] at h
    obtain ⟨identity, hidentity, rfl⟩ := Option.map_eq_some_iff.mp h
    exact .inr ⟨before, after, hcs.symm, hbefore, hidentity, rfl⟩

/-! ## What reading gives is well-formed -/

theorem wellFormed_of_identity? (h : identity? cs = some identity) (hslash : '/' ∉ cs) :
    identity.WellFormed := by
  have hclean : ∀ part : List Char, '@' ∉ part → part ⊆ cs → ∀ c ∈ ['@', '/'], c ∉ part := by
    simp only [List.mem_cons, List.not_mem_nil, or_false]
    rintro part hat hsub c (rfl | rfl) hc
    · exact hat hc
    · exact hslash (hsub hc)
  rcases identity?_cases h with ⟨hat, hne, rfl⟩ | ⟨name, domain, rfl, hname, hdomain, rfl, hne⟩
  · rw [part?_of_ne_nil hne]
    refine ⟨by rintro ⟨⟩, fun name hpart => ?_, by rintro domain ⟨⟩⟩
    rw [← part?_of_ne_nil hne] at hpart
    exact isPart_of_part? hpart (hclean cs hat (List.Subset.refl cs))
  · exact ⟨hne, fun part hpart => isPart_of_part? hpart (hclean name hname (by simp)),
      fun part hpart => isPart_of_part? hpart (hclean domain hdomain fun c hc => by simp [hc])⟩

theorem wellFormed_of_ofTrimmed? (h : ofTrimmed? cs = some node) : node.WellFormed := by
  rcases ofTrimmed?_cases h with ⟨hslash, hidentity, hplace⟩ |
    ⟨before, after, -, hbefore, hidentity, hplace⟩
  · exact ⟨wellFormed_of_identity? hidentity hslash, by simp [hplace]⟩
  · refine ⟨wellFormed_of_identity? hidentity hbefore, fun place hmem => ?_⟩
    rw [hplace] at hmem
    exact isPart_of_part? hmem (by simp)

end Node

/-! ## Well-formed addresses are told from their texts -/

namespace Identity

variable {identity : Identity}

/-- A well-formed identity is a name alone, or it has a domain. -/
theorem WellFormed.chars_cases (h : identity.WellFormed) :
    (∃ name : String, identity = { name := some name } ∧ identity.chars = name.toList ∧
      name ≠ "" ∧ '@' ∉ name.toList) ∨
      ∃ (name : List Char) (domain : String), identity = ⟨Node.part? name, some domain⟩ ∧
        identity.chars = name ++ '@' :: domain.toList ∧ domain ≠ "" ∧ '@' ∉ name ∧
        '@' ∉ domain.toList := by
  obtain ⟨name, domain⟩ := identity
  cases domain with
  | none =>
    cases name with
    | none => exact absurd rfl h.present
    | some name =>
      have hpart := h.name name rfl
      exact .inl ⟨name, rfl, by simp [chars], hpart.nonempty, hpart.clean _ (by simp)⟩
  | some domain =>
    have hpart := h.domain domain rfl
    have hdomain : '@' ∉ domain.toList := hpart.clean _ (by simp)
    cases name with
    | none => exact .inr ⟨[], domain, rfl, rfl, hpart.nonempty, List.not_mem_nil, hdomain⟩
    | some name =>
      have hname := h.name name rfl
      refine .inr ⟨name.toList, domain, ?_, rfl, hpart.nonempty, hname.clean _ (by simp), hdomain⟩
      rw [Node.part?_toList hname.nonempty]

theorem WellFormed.chars_ne_nil (h : identity.WellFormed) : identity.chars ≠ [] := by
  rcases h.chars_cases with ⟨name, -, hchars, hne, -⟩ | ⟨name, domain, -, hchars, -⟩ <;> rw [hchars]
  · exact fun hnil => hne (String.toList_eq_nil_iff.mp hnil)
  · exact List.append_ne_nil_of_right_ne_nil _ (List.cons_ne_nil _ _)

theorem WellFormed.slash_not_mem_chars (h : identity.WellFormed) : '/' ∉ identity.chars := by
  have hpart : ∀ part : Option String, (∀ p ∈ part, Node.IsPart ['@', '/'] p) →
      '/' ∉ (part.map String.toList).getD [] := by
    intro part hclean
    cases part with
    | none => exact List.not_mem_nil
    | some p => exact (hclean p rfl).clean _ (by simp)
  have hname := hpart identity.name h.name
  have hdomain := hpart identity.domain h.domain
  unfold chars
  cases hd : identity.domain <;> simp_all

/-- An identity without white space at the end of its last part, and without that part if nothing is
left of it. -/
def shortened (identity : Identity) : Identity :=
  match identity.domain with
  | some domain => { identity with domain := Node.part? (Text.trimEnd domain.toList) }
  | none =>
    { identity with name := identity.name.bind fun name => Node.part? (Text.trimEnd name.toList) }

theorem identity?_trimEnd_chars (h : identity.WellFormed)
    (hbegins : ¬Text.BeginsBlank identity.chars) :
    Node.identity? (Text.trimEnd identity.chars) =
      if identity.shortened = {} then none else some identity.shortened := by
  rcases h.chars_cases with ⟨name, rfl, hchars, hne, hat⟩ |
    ⟨name, domain, rfl, hchars, hne, hname, hdomain⟩ <;> rw [hchars] at hbegins ⊢
  · have hleft : Text.trimEnd name.toList ≠ [] :=
      Text.trimEnd_ne_nil (fun hnil => hne (String.toList_eq_nil_iff.mp hnil)) hbegins
    have hclean : '@' ∉ Text.trimEnd name.toList :=
      fun hmem => hat ((List.rdropWhile_prefix _ _).subset hmem)
    rw [Node.identity?_of_not_mem hclean]
    simp [shortened, Node.part?_of_ne_nil hleft]
  · have hclean : '@' ∉ Text.trimEnd domain.toList :=
      fun hmem => hdomain ((List.rdropWhile_prefix _ _).subset hmem)
    rw [Text.trimEnd_append_cons (by decide), Node.identity?_of_at hname hclean]
    rfl

/-- Nothing is left of an identity if it is a domain of white space alone. -/
theorem trimEnd_chars_of_shortened (h : identity.WellFormed)
    (hbegins : ¬Text.BeginsBlank identity.chars) (hempty : identity.shortened = {}) :
    Text.trimEnd identity.chars = ['@'] := by
  rcases h.chars_cases with ⟨name, rfl, hchars, hne, -⟩ |
    ⟨name, domain, rfl, hchars, -, -, -⟩ <;> rw [hchars] at hbegins ⊢
  · have hleft : Text.trimEnd name.toList ≠ [] :=
      Text.trimEnd_ne_nil (fun hnil => hne (String.toList_eq_nil_iff.mp hnil)) hbegins
    simp [shortened, Node.part?_of_ne_nil hleft] at hempty
  · obtain ⟨hname, hdomain⟩ : Node.part? name = none ∧
        Node.part? (Text.trimEnd domain.toList) = none := by
      simpa [shortened] using hempty
    rw [Text.trimEnd_append_cons (by decide), Node.part?_eq_none_iff.mp hname,
      Node.part?_eq_none_iff.mp hdomain]
    rfl

/-- An identity is shortened if its text ends in white space. -/
theorem shortened_eq_self_iff (h : identity.WellFormed) :
    identity.shortened = identity ↔ ¬Text.EndsBlank identity.chars := by
  rcases h.chars_cases with ⟨name, rfl, hchars, hne, -⟩ |
    ⟨name, domain, rfl, hchars, hne, -, -⟩ <;> rw [hchars, ← Text.trimEnd_eq_self_iff]
  · simp [shortened, Node.part?_eq_some_iff, hne]
  · rw [Text.trimEnd_append_cons (by decide)]
    simp [shortened, Node.part?_eq_some_iff, hne]

end Identity

namespace Node

variable {cs : List Char} {node : Node} {identity : Identity}

theorem identity?_chars (h : identity.WellFormed) : identity? identity.chars = some identity := by
  rcases h.chars_cases with ⟨name, rfl, hchars, hne, hat⟩ |
    ⟨name, domain, rfl, hchars, hne, hname, hdomain⟩ <;> rw [hchars]
  · rw [identity?_of_not_mem hat, part?_toList hne]
    rfl
  · rw [identity?_of_at hname hdomain, part?_toList hne, if_neg (by simp)]

theorem ofTrimmed?_chars (h : node.WellFormed) : ofTrimmed? node.chars = some node := by
  obtain ⟨identity, place⟩ := node
  have hidentity : identity? identity.chars = some identity := identity?_chars h.identity
  have hslash : '/' ∉ identity.chars := h.identity.slash_not_mem_chars
  cases place with
  | none =>
    have hchars : chars ⟨identity, none⟩ = identity.chars := List.append_nil _
    rw [hchars, ofTrimmed?_of_not_mem hslash, hidentity]
    rfl
  | some place =>
    have hne : place ≠ "" := (h.place place rfl).nonempty
    have hchars : chars ⟨identity, some place⟩ = identity.chars ++ '/' :: place.toList := rfl
    rw [hchars, ofTrimmed?_of_slash hslash, hidentity, part?_toList hne]
    rfl

/-! ## Reading texts that begin with no white space -/

theorem parse_ofList (hne : cs ≠ []) (hbegins : ¬Text.BeginsBlank cs) :
    parse (String.ofList cs) =
      match ofTrimmed? (Text.trimEnd cs) with
      | some node => .ok node
      | none => .error (.invalidNode (String.ofList (Text.trimEnd cs))) := by
  have hleft : ¬(Text.trimEnd cs).isEmpty = true := by
    rw [List.isEmpty_iff]
    exact Text.trimEnd_ne_nil hne hbegins
  unfold parse
  rw [String.toList_ofList, Text.trimChars_of_not_beginsBlank hbegins]
  exact if_neg hleft

/-- The text of a well-formed identity is read as the identity, shortened. -/
theorem parse_identity_text (h : identity.WellFormed)
    (hbegins : ¬Text.BeginsBlank identity.chars) :
    parse identity.text =
      if identity.shortened = {} then .error (.invalidNode "@")
      else .ok { identity := identity.shortened } := by
  have hslash : '/' ∉ Text.trimEnd identity.chars := fun hmem =>
    h.slash_not_mem_chars ((List.rdropWhile_prefix _ _).subset hmem)
  unfold Identity.text
  rw [parse_ofList h.chars_ne_nil hbegins, ofTrimmed?_of_not_mem hslash,
    Identity.identity?_trimEnd_chars h hbegins]
  by_cases hempty : identity.shortened = {}
  · rw [if_pos hempty, if_pos hempty, Identity.trimEnd_chars_of_shortened h hbegins hempty]
    rfl
  · rw [if_neg hempty, if_neg hempty]
    rfl

/-- The text of a well-formed address is read as the address, if it has no white space at its ends. -/
theorem parse_text_of_not_blank (h : node.WellFormed) (hbegins : ¬Text.BeginsBlank node.chars)
    (hends : ¬Text.EndsBlank node.chars) : parse node.text = .ok node := by
  have hne : node.chars ≠ [] := List.append_ne_nil_of_left_ne_nil h.identity.chars_ne_nil _
  unfold text
  rw [parse_ofList hne hbegins, Text.trimEnd_eq_self_iff.mpr hends, ofTrimmed?_chars h]

/-! ## What is read, and its text -/

/-- The text of an identity begins as the text that it was read from. -/
theorem head?_chars_of_identity? (h : identity? cs = some identity) :
    identity.chars.head? = cs.head? ∧ cs ≠ [] := by
  rcases identity?_cases h with ⟨-, hne, rfl⟩ | ⟨name, domain, rfl, -, -, rfl, hne⟩
  · rw [part?_of_ne_nil hne]
    exact ⟨by simp [Identity.chars], hne⟩
  · refine ⟨?_, List.append_ne_nil_of_right_ne_nil _ (List.cons_ne_nil _ _)⟩
    cases name with
    | nil =>
      have hdomain : domain ≠ [] := by
        rintro rfl
        exact hne rfl
      have hname : part? [] = none := rfl
      simp [Identity.chars, part?_of_ne_nil hdomain, hname]
    | cons c name => simp [Identity.chars, part?_of_ne_nil]

theorem head?_chars_of_ofTrimmed? (h : ofTrimmed? cs = some node) :
    node.chars.head? = cs.head? ∧ node.identity.chars.head? = cs.head? := by
  obtain ⟨before, after, rfl, hidentity⟩ :
      ∃ before after, cs = before ++ after ∧ identity? before = some node.identity := by
    rcases ofTrimmed?_cases h with ⟨-, hidentity, -⟩ | ⟨before, after, rfl, -, hidentity, -⟩
    · exact ⟨cs, [], (List.append_nil cs).symm, hidentity⟩
    · exact ⟨before, '/' :: after, rfl, hidentity⟩
  obtain ⟨hhead, hne⟩ := head?_chars_of_identity? hidentity
  obtain ⟨c, before, rfl⟩ := List.exists_cons_of_ne_nil hne
  exact ⟨by simp [chars, hhead], by simp [hhead]⟩

/-- A place stands at the end of the text that it was read from. -/
theorem getLast?_chars_of_ofTrimmed? (h : ofTrimmed? cs = some node)
    (hplace : node.place.isSome = true) : node.chars.getLast? = cs.getLast? := by
  rcases ofTrimmed?_cases h with ⟨-, -, hnone⟩ | ⟨before, after, rfl, -, -, hafter⟩
  · rw [hnone] at hplace
    cases hplace
  · obtain ⟨place, hsome⟩ := Option.isSome_iff_exists.mp hplace
    have hpart := part?_eq_some_iff.mp (hafter.symm.trans hsome)
    have hchars : node.chars = node.identity.chars ++ '/' :: after := by
      rw [chars, hsome, hpart.1]
      rfl
    rw [hchars, List.getLast?_append_of_ne_nil _ (List.cons_ne_nil _ _),
      List.getLast?_append_of_ne_nil _ (List.cons_ne_nil _ _)]

/-- What is so of an address that was read. -/
structure WasRead (node : Node) : Prop where
  wellFormed : node.WellFormed
  begins : ¬Text.BeginsBlank node.chars
  identityBegins : ¬Text.BeginsBlank node.identity.chars
  ends : node.place.isSome = true → ¬Text.EndsBlank node.chars

theorem wasRead_of_parse {s : String} (h : parse s = .ok node) : node.WasRead := by
  obtain ⟨hbegins, hends⟩ := Text.not_blank_trimChars s.toList
  unfold parse at h
  dsimp only at h
  split at h
  · cases h
  split at h
  · rename_i found hread
    cases h
    obtain ⟨hhead, hidentity⟩ := head?_chars_of_ofTrimmed? hread
    refine ⟨wellFormed_of_ofTrimmed? hread, ?_, ?_, fun hplace => ?_⟩
    · rwa [Text.BeginsBlank, hhead]
    · rwa [Text.BeginsBlank, hidentity]
    · rwa [Text.EndsBlank, getLast?_chars_of_ofTrimmed? hread hplace]
  · cases h

theorem exists_parse_of_identity {s : String} {identity : Identity}
    (h : Identity.parse s = .ok identity) : ∃ node, parse s = .ok node ∧ node.identity = identity := by
  unfold Identity.parse at h
  cases hread : parse s with
  | error fault =>
    rw [hread] at h
    cases h
  | ok node =>
    rw [hread] at h
    cases h
    exact ⟨node, rfl, rfl⟩

/-- What is left of an identity is the identity itself exactly if its text does not end in white
space. -/
theorem shortened_eq_ok_iff {α : Type} {f : Identity → α} (hf : Function.Injective f)
    (h : identity.WellFormed) (fault : Fault) :
    (if identity.shortened = {} then Except.error fault else .ok (f identity.shortened)) =
      .ok (f identity) ↔ ¬Text.EndsBlank identity.chars := by
  rw [← Identity.shortened_eq_self_iff h]
  constructor
  · intro heq
    split at heq
    · cases heq
    · exact hf (Except.ok.inj heq)
  · intro hsame
    rw [hsame, if_neg h.present]

/-- An address that was read is read back from its text exactly if that text does not end in white
space, as it does not where there is a place.  Otherwise its last part loses the white space, or is
lost itself, and the text is refused if there was no other.  The same is so of an identity, which
leaves the place out. -/
theorem reading_again (s : String) :
    (∀ node, parse s = .ok node →
      (parse node.text = .ok node ↔ ¬Text.EndsBlank node.chars) ∧
      (node.place.isSome = true → parse node.text = .ok node) ∧
      (node.place = none → parse node.text =
        if node.identity.shortened = {} then .error (.invalidNode "@")
        else .ok { identity := node.identity.shortened })) ∧
    ∀ identity, Identity.parse s = .ok identity →
      (Identity.parse identity.text = .ok identity ↔ ¬Text.EndsBlank identity.chars) ∧
      Identity.parse identity.text =
        if identity.shortened = {} then .error (.invalidNode "@") else .ok identity.shortened := by
  refine ⟨fun node hread => ?_, fun identity hread => ?_⟩
  · have hwas := wasRead_of_parse hread
    obtain ⟨identity, _ | place⟩ := node
    · have hwhole : chars ⟨identity, none⟩ = identity.chars := List.append_nil _
      have htext : text ⟨identity, none⟩ = identity.text := congrArg String.ofList hwhole
      have hparse := parse_identity_text hwas.wellFormed.identity hwas.identityBegins
      rw [htext, hwhole, hparse]
      refine ⟨shortened_eq_ok_iff (f := fun identity => ({ identity } : Node)) ?_
        hwas.wellFormed.identity _, by rintro ⟨⟩, fun _ => rfl⟩
      exact fun i j heq => congrArg Node.identity heq
    · have hends := hwas.ends rfl
      have hparse := parse_text_of_not_blank hwas.wellFormed hwas.begins hends
      exact ⟨⟨fun _ => hends, fun _ => hparse⟩, fun _ => hparse, by rintro ⟨⟩⟩
  · obtain ⟨node, hnode, rfl⟩ := exists_parse_of_identity hread
    have hwas := wasRead_of_parse hnode
    have hparse : Identity.parse node.identity.text =
        if node.identity.shortened = {} then .error (.invalidNode "@")
        else .ok node.identity.shortened := by
      unfold Identity.parse
      rw [parse_identity_text hwas.wellFormed.identity hwas.identityBegins]
      split <;> rfl
    rw [hparse]
    exact ⟨shortened_eq_ok_iff (f := id) Function.injective_id hwas.wellFormed.identity _, rfl⟩

/-- Parts that hold white space and separators are read back; the identity alone ends in a blank, and
is read without it. -/
theorem reading_again_spaced :
    parse "\u3000a b@ c /d@/ e\n" = .ok ⟨⟨some "a b", some " c "⟩, some "d@/ e"⟩ ∧
      parse (text ⟨⟨some "a b", some " c "⟩, some "d@/ e"⟩) =
        .ok ⟨⟨some "a b", some " c "⟩, some "d@/ e"⟩ ∧
      Identity.parse "a b@ c /d" = .ok ⟨some "a b", some " c "⟩ ∧
      Identity.parse (Identity.text ⟨some "a b", some " c "⟩) = .ok ⟨some "a b", some " c"⟩ := by
  have hnode : parse "\u3000a b@ c /d@/ e\n" = .ok ⟨⟨some "a b", some " c "⟩, some "d@/ e"⟩ := by
    decide
  have hidentity : Identity.parse "a b@ c /d" = .ok ⟨some "a b", some " c "⟩ := by decide
  refine ⟨hnode, ((reading_again _).1 _ hnode).2.1 rfl, hidentity, ?_⟩
  rw [((reading_again _).2 _ hidentity).2]
  decide

/-- White space before a separator comes to stand at the end of the text, and is lost. -/
theorem not_read_back :
    parse "a /" = .ok ⟨⟨some "a ", none⟩, none⟩ ∧
      parse (text ⟨⟨some "a ", none⟩, none⟩) = .ok ⟨⟨some "a", none⟩, none⟩ ∧
      parse "@ /" = .ok ⟨⟨none, some " "⟩, none⟩ ∧
      parse (text ⟨⟨none, some " "⟩, none⟩) = .error (.invalidNode "@") ∧
      Identity.parse "a@b /c" = .ok ⟨some "a", some "b "⟩ ∧
      Identity.parse (Identity.text ⟨some "a", some "b "⟩) = .ok ⟨some "a", some "b"⟩ := by
  decide

end Node
end Courier
