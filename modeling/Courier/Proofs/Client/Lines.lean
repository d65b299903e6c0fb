/-
What a line says.

The user writes to whom a line is for, a space, and a text.  White space around the line and around the
text does not count, a line that begins with no address says nothing, and a text is never empty
(`said?_eq_some_iff`, `Says.text_ne`).
-/
import Courier.Client.Conversation
import Courier.Proofs.Node.Grammar

namespace Courier
namespace Conversation

variable {line text : String} {node : Node}

/-- What a line says, and to whom. -/
def said? (line : String) : Option (Node × String) :=
  match cutLine (Text.trimChars line.toList) with
  | none => none
  | some (receiver, text) =>
    match Node.parse (String.ofList receiver) with
    | .error _ => none
    | .ok node => some (node, String.ofList text)

/-- The line is an address, a space that is the first one, and a text. -/
def Says (line : String) (node : Node) (text : String) : Prop :=
  ∃ receiver rest, Text.trimChars line.toList = receiver ++ ' ' :: rest ∧ ' ' ∉ receiver ∧
    Node.parse (String.ofList receiver) = .ok node ∧ text = String.ofList (Text.trimChars rest)

theorem cutLine_eq_some_iff {cs receiver text : List Char} :
    cutLine cs = some (receiver, text) ↔
      ∃ rest, cs = receiver ++ ' ' :: rest ∧ ' ' ∉ receiver ∧ text = Text.trimChars rest := by
  constructor
  · intro h
    have hwhole := Text.append_cut ' ' cs
    have hfirst := Text.not_mem_cut_fst ' ' cs
    unfold cutLine at h
    split at h
    · rename_i before rest hcut
      obtain ⟨rfl, rfl⟩ := Prod.mk.inj (Option.some.inj h)
      rw [hcut] at hwhole hfirst
      exact ⟨rest, hwhole.symm, hfirst, rfl⟩
    · cases h
  · rintro ⟨rest, rfl, hfirst, rfl⟩
    unfold cutLine
    rw [Text.cut_append_cons hfirst]

theorem said?_eq_some_iff : said? line = some (node, text) ↔ Says line node text := by
  unfold said? Says
  constructor
  · intro h
    split at h
    · cases h
    · rename_i receiver said hcut
      obtain ⟨rest, hline, hfirst, rfl⟩ := cutLine_eq_some_iff.mp hcut
      split at h
      · cases h
      · rename_i found hparse
        obtain ⟨rfl, rfl⟩ := Prod.mk.inj (Option.some.inj h)
        exact ⟨receiver, rest, hline, hfirst, hparse, rfl⟩
  · rintro ⟨receiver, rest, hline, hfirst, hparse, rfl⟩
    rw [cutLine_eq_some_iff.mpr ⟨rest, hline, hfirst, rfl⟩]
    dsimp only
    rw [hparse]

/-- A trimmed line does not end in white space, so that something stands after its first space. -/
theorem Says.text_ne (h : Says line node text) : text ≠ "" := by
  obtain ⟨receiver, rest, hline, -, -, rfl⟩ := h
  intro hempty
  have hblank : ∀ c ∈ rest, Text.isBlank c = true :=
    Text.trimChars_eq_nil_iff.mp (String.ofList_eq_empty_iff.mp hempty)
  have hend : ¬Text.EndsBlank (receiver ++ ' ' :: rest) :=
    hline ▸ (Text.not_blank_trimChars line.toList).2
  refine hend ⟨(' ' :: rest).getLast (List.cons_ne_nil _ _), ?_, ?_⟩
  · rw [List.getLast?_append_of_ne_nil _ (List.cons_ne_nil _ _)]
    exact List.getLast_mem_getLast? _
  · rcases List.mem_cons.mp (List.getLast_mem (List.cons_ne_nil ' ' rest)) with hspace | hmem
    · rw [hspace]
      decide
    · exact hblank _ hmem

/-- An address, a space and a trimmed text say that text to the node of that address. -/
theorem says_of_text (hparse : Node.parse node.text = .ok node) (hspace : ' ' ∉ node.text.toList)
    (htrimmed : Text.trimChars text.toList = text.toList) (hne : text ≠ "") :
    Says (node.text ++ " " ++ text) node text := by
  obtain ⟨-, hbegins, -⟩ := Node.parse_text_eq_ok_iff.mp hparse
  have hchars : node.text.toList = node.chars := String.toList_ofList
  have hreceiver : node.text.toList ≠ [] := by
    intro hempty
    rw [show node.text = "" from String.toList_eq_nil_iff.mp hempty] at hparse
    cases hparse
  have hends : ¬Text.EndsBlank text.toList := htrimmed ▸ (Text.not_blank_trimChars text.toList).2
  have hwhole : (node.text ++ " " ++ text).toList = node.text.toList ++ ' ' :: text.toList := by
    simp
  refine ⟨node.text.toList, text.toList, ?_, hspace, ?_, ?_⟩
  · rw [hwhole]
    exact Text.trimChars_append_cons hreceiver (by simpa using hne) (hchars ▸ hbegins) hends ' '
  · rw [String.ofList_toList]
    exact hparse
  · rw [htrimmed, String.ofList_toList]

end Conversation
end Courier
