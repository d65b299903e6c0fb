/-
What is written for a string is read back as that string.

A character inside quotes is read one at a time: `readQuoted_escaped` says that whatever is written
for it, plain or escaped, is read as its code point.  No character is a surrogate, so the code
points of a string join to the characters that they come from.
-/
import Courier.Json.Printer
import Courier.Json.Reader

namespace Courier

/-! ## Characters inside quotes -/

theorem readQuoted_plain {c : Char} (hquote : c ≠ '"') (hslash : c ≠ '\\')
    (hcontrol : ¬c.toNat < 0x20) (rest : List Char) :
    readQuoted (c :: rest) =
      (readQuoted rest).map fun (ns, rest) => (c.toNat :: ns, rest) := by
  rw [readQuoted]
  · simp only [hcontrol, hslash, or_self, if_false]
    cases readQuoted rest <;> rfl
  all_goals simp_all

theorem readQuoted_letter {letter c : Char} (hu : letter ≠ 'u') (h : escape? letter = some c)
    (rest : List Char) :
    readQuoted ('\\' :: letter :: rest) =
      (readQuoted rest).map fun (ns, rest) => (c.toNat :: ns, rest) := by
  rw [readQuoted]
  · rw [h]
    cases readQuoted rest <;> rfl
  · simp_all

theorem readQuoted_codePoint {a b c d : Char} {n : Nat} (h : hexValues? [a, b, c, d] = some n)
    (rest : List Char) :
    readQuoted ('\\' :: 'u' :: a :: b :: c :: d :: rest) =
      (readQuoted rest).map fun (ns, rest) => (n :: ns, rest) := by
  rw [readQuoted, h]
  cases readQuoted rest <;> rfl

/-- The three ways in which a character is written. -/
theorem escaped_cases (c : Char) :
    (∃ letter, letter ≠ 'u' ∧ escape? letter = some c ∧ escaped c = ['\\', letter]) ∨
    (c.toNat < 0x20 ∧
      escaped c = ['\\', 'u', '0', '0', hexDigit (c.toNat / 16), hexDigit (c.toNat % 16)]) ∨
    (c ≠ '"' ∧ c ≠ '\\' ∧ ¬c.toNat < 0x20 ∧ escaped c = [c]) := by
  unfold escaped
  by_cases hquote : c = '"'
  · exact .inl ⟨'"', by decide, by rw [hquote]; rfl, if_pos hquote⟩
  by_cases hslash : c = '\\'
  · exact .inl ⟨'\\', by decide, by rw [hslash]; rfl, by rw [if_neg hquote, if_pos hslash]⟩
  rw [if_neg hquote, if_neg hslash]
  by_cases hnewline : c = '\n'
  · exact .inl ⟨'n', by decide, by rw [hnewline]; rfl, if_pos hnewline⟩
  by_cases hreturn : c = '\r'
  · exact .inl ⟨'r', by decide, by rw [hreturn]; rfl, by rw [if_neg hnewline, if_pos hreturn]⟩
  rw [if_neg hnewline, if_neg hreturn]
  by_cases htab : c = '\t'
  · exact .inl ⟨'t', by decide, by rw [htab]; rfl, if_pos htab⟩
  by_cases hback : c = '\x08'
  · exact .inl ⟨'b', by decide, by rw [hback]; rfl, by rw [if_neg htab, if_pos hback]⟩
  by_cases hfeed : c = '\x0c'
  · exact .inl ⟨'f', by decide, by rw [hfeed]; rfl,
      by rw [if_neg htab, if_neg hback, if_pos hfeed]⟩
  rw [if_neg htab, if_neg hback, if_neg hfeed]
  by_cases hcontrol : c.toNat < 0x20
  · exact .inr (.inl ⟨hcontrol, if_pos hcontrol⟩)
  · exact .inr (.inr ⟨hquote, hslash, hcontrol, if_neg hcontrol⟩)

/-- Whatever is written for a character is read as its code point. -/
theorem readQuoted_escaped (c : Char) (rest : List Char) :
    readQuoted (escaped c ++ rest) =
      (readQuoted rest).map fun (ns, rest) => (c.toNat :: ns, rest) := by
  rcases escaped_cases c with
    ⟨letter, hu, hletter, heq⟩ | ⟨hcontrol, heq⟩ | ⟨hquote, hslash, hcontrol, heq⟩ <;> rw [heq]
  · exact readQuoted_letter hu hletter rest
  · exact readQuoted_codePoint
      (hexValues?_small (fun _ => hexValue?_hexDigit) (by omega)) rest
  · exact readQuoted_plain hquote hslash hcontrol rest

theorem readQuoted_flatMap_escaped (cs rest : List Char) :
    readQuoted (cs.flatMap escaped ++ '"' :: rest) = some (cs.map Char.toNat, rest) := by
  induction cs with
  | nil => rw [List.flatMap_nil, List.nil_append, readQuoted, List.map_nil]
  | cons c cs ih =>
    rw [List.flatMap_cons, List.append_assoc, readQuoted_escaped, ih]
    rfl

/-! ## Surrogates -/

/-- A character is neither half of a surrogate pair. -/
theorem isLeading_toNat (c : Char) : isLeading c.toNat = false := by
  have hvalid : c.toNat.isValidChar := c.valid
  simp only [isLeading, Bool.and_eq_false_iff, decide_eq_false_iff_not]
  simp only [Nat.isValidChar] at hvalid
  omega

theorem isTrailing_toNat (c : Char) : isTrailing c.toNat = false := by
  have hvalid : c.toNat.isValidChar := c.valid
  simp only [isTrailing, Bool.and_eq_false_iff, decide_eq_false_iff_not]
  simp only [Nat.isValidChar] at hvalid
  omega

theorem joinSurrogates_map_toNat (cs : List Char) :
    joinSurrogates (cs.map Char.toNat) = some cs := by
  induction cs with
  | nil => rfl
  | cons c cs ih =>
    rw [List.map_cons, joinSurrogates.eq_def]
    simp only [isLeading_toNat, isTrailing_toNat, Bool.false_eq_true, if_false, ih,
      Option.map_some, Char.ofNat_toNat]

/-! ## Strings -/

/-- A string is read back from what stands after its opening quote. -/
theorem readString_flatMap_escaped (s : String) (rest : List Char) :
    readString (s.toList.flatMap escaped ++ '"' :: rest) = some (some s, rest) := by
  rw [readString, readQuoted_flatMap_escaped, Option.map_some]
  simp only [joinSurrogates_map_toNat, Option.map_some, String.ofList_toList]

end Courier
