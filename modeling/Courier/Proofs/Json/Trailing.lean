/-
What stands after a JSON text.

A reader that takes a value from the start of a text takes the same value when more stands after the
text, and leaves that unread, as long as it does not go on with a numeral.  So white space at the
end of a text does not matter.
-/
import Courier.Proofs.Json.Numerals

namespace Courier

variable {cs rest tail : List Char}

theorem skipSpace_append {c : Char} (h : skipSpace cs = c :: rest) :
    skipSpace (cs ++ tail) = c :: (rest ++ tail) := by
  induction cs with
  | nil => cases h
  | cons d cs ih =>
    rw [List.cons_append, skipSpace]
    rw [skipSpace] at h
    split at h
    · rename_i hspace
      rw [if_pos hspace]
      exact ih h
    · rename_i hspace
      rw [if_neg hspace]
      cases h
      rfl

theorem skipSpace_append_of_nil (h : skipSpace cs = []) :
    skipSpace (cs ++ tail) = skipSpace tail := by
  induction cs with
  | nil => rfl
  | cons d cs ih =>
    rw [List.cons_append, skipSpace]
    rw [skipSpace] at h
    split at h
    · rename_i hspace
      rw [if_pos hspace]
      exact ih h
    · cases h

/-! ## Strings -/

theorem readQuoted_append {ns : List Nat} (h : readQuoted cs = some (ns, rest)) :
    readQuoted (cs ++ tail) = some (ns, rest ++ tail) := by
  fun_induction readQuoted cs generalizing ns rest with
  | case2 rest' =>
    cases h
    rfl
  | case3 a b c d cs n ns' rest' hrest hhex ih =>
    cases h
    simp only [List.cons_append, readQuoted, hhex, ih hrest]
  | case5 c cs hnoHex e ns' rest' hrest hescape ih =>
    cases h
    have hu : c ≠ 'u' := by
      rintro rfl
      cases hescape
    simp only [List.cons_append]
    rw [readQuoted]
    · simp only [hescape, ih hrest]
    · intro a b c' d rest' hc
      exact absurd hc hu
  | case8 c cs hquote hnoHex hnoEscape hplain ns' rest' hrest ih =>
    cases h
    rw [List.cons_append, readQuoted]
    · simp only [if_neg hplain, ih hrest]
    · exact hquote
    · exact fun a b c' d rest' hc => absurd (.inr hc) hplain
    · exact fun c' rest' hc => absurd (.inr hc) hplain
  | _ => cases h

theorem readString_append {s : Option String} (h : readString cs = some (s, rest)) :
    readString (cs ++ tail) = some (s, rest ++ tail) := by
  unfold readString at h ⊢
  obtain ⟨⟨ns, rest'⟩, hquoted, heq⟩ := Option.map_eq_some_iff.mp h
  rw [readQuoted_append hquoted]
  cases heq
  rfl

/-! ## Numerals -/

/-- The sign of a power of ten, and what stands after it. -/
def readSign : List Char → Bool × List Char
  | '+' :: cs => (false, cs)
  | '-' :: cs => (true, cs)
  | cs => (false, cs)

/-- Reads a power of ten after its sign. -/
def readExponent (negative : Bool) (cs : List Char) : Option (Option Int × List Char) :=
  if (spanDigits cs).1.isEmpty then none
  else
    let n : Int := Nat.ofDigitChars 10 (spanDigits cs).1 0
    some (some (if negative then -n else n), (spanDigits cs).2)

theorem readPower_exponent {c : Char} (he : c = 'e' ∨ c = 'E') (cs : List Char) :
    readPower (c :: cs) = readExponent (readSign cs).1 (readSign cs).2 := by
  unfold readPower
  dsimp only
  rw [if_pos he]
  rfl

theorem readSign_cons_append (c : Char) (cs tail : List Char) :
    readSign (c :: (cs ++ tail)) = ((readSign (c :: cs)).1, (readSign (c :: cs)).2 ++ tail) := by
  by_cases hplus : c = '+'
  · subst hplus
    rfl
  · by_cases hminus : c = '-'
    · subst hminus
      rfl
    · have hnone : ∀ ds, readSign (c :: ds) = (false, c :: ds) := by
        intro ds
        rw [readSign]
        · exact fun _ heq => hplus (List.cons.inj heq).1
        · exact fun _ heq => hminus (List.cons.inj heq).1
      rw [hnone, hnone]
      rfl

section Numerals

variable (htail : EndsNumeral tail)
include htail

theorem spanDigits_append_tail (cs : List Char) :
    spanDigits (cs ++ tail) = ((spanDigits cs).1, (spanDigits cs).2 ++ tail) := by
  induction cs with
  | nil => exact spanDigits_append nofun htail
  | cons c cs ih =>
    simp only [spanDigits, Prod.mk.injEq] at ih
    by_cases hdigit : c.isDigit = true
    · simp [spanDigits, hdigit, ih]
    · simp [spanDigits, hdigit]

theorem readFraction_append {fraction : List Char} (h : readFraction cs = some (fraction, rest)) :
    readFraction (cs ++ tail) = some (fraction, rest ++ tail) := by
  cases cs with
  | nil =>
    cases h
    exact readFraction_of_endsNumeral htail
  | cons c cs =>
    by_cases hpoint : c = '.'
    · subst hpoint
      rw [List.cons_append, readFraction, spanDigits_append_tail htail]
      rw [readFraction] at h
      split at h
      · cases h
      · rename_i hdigits
        rw [if_neg hdigits]
        cases h
        rfl
    · have hother : ∀ ds, readFraction (c :: ds) = some ([], c :: ds) := by
        intro ds
        rw [readFraction]
        rintro _ heq
        exact hpoint (List.cons.inj heq).1
      rw [hother] at h
      cases h
      exact hother _

theorem readExponent_append {negative : Bool} {power : Option Int}
    (h : readExponent negative cs = some (power, rest)) :
    readExponent negative (cs ++ tail) = some (power, rest ++ tail) := by
  unfold readExponent at h ⊢
  rw [spanDigits_append_tail htail]
  split at h
  · cases h
  · rename_i hdigits
    rw [if_neg hdigits]
    cases h
    rfl

theorem readPower_append {power : Option Int} (h : readPower cs = some (power, rest)) :
    readPower (cs ++ tail) = some (power, rest ++ tail) := by
  cases cs with
  | nil =>
    cases h
    exact readPower_of_endsNumeral htail
  | cons c cs =>
    by_cases he : c = 'e' ∨ c = 'E'
    · rw [readPower_exponent he] at h
      rw [List.cons_append, readPower_exponent he]
      cases cs with
      | nil => cases h
      | cons d ds =>
        rw [List.cons_append, readSign_cons_append]
        exact readExponent_append htail h
    · rw [List.cons_append]
      unfold readPower at h ⊢
      dsimp only at h ⊢
      rw [if_neg he] at h ⊢
      cases h
      rfl

theorem readUnsigned_append {negative : Bool} {n : Option Number}
    (h : readUnsigned negative cs = some (n, rest)) :
    readUnsigned negative (cs ++ tail) = some (n, rest ++ tail) := by
  unfold readUnsigned at h ⊢
  rw [spanDigits_append_tail htail]
  dsimp only at h ⊢
  split at h
  · cases h
  · rename_i hdigits
    rw [if_neg hdigits]
    split at h
    · cases h
    · rename_i hfraction
      rw [readFraction_append htail hfraction]
      dsimp only
      split at h
      · cases h
      · rename_i hpower
        rw [readPower_append htail hpower]
        cases h
        rfl

theorem readNumber_append {n : Option Number} (h : readNumber cs = some (n, rest)) :
    readNumber (cs ++ tail) = some (n, rest ++ tail) := by
  cases cs with
  | nil => cases h
  | cons c cs =>
    by_cases hminus : c = '-'
    · subst hminus
      exact readUnsigned_append htail h
    · have hplain : ∀ ds, readNumber (c :: ds) = readUnsigned false (c :: ds) := by
        intro ds
        rw [readNumber]
        exact fun _ heq => hminus (List.cons.inj heq).1
      rw [hplain] at h
      rw [List.cons_append, hplain]
      exact readUnsigned_append htail h

end Numerals

theorem readNumber_eq_cons {n : Option Number} (h : readNumber cs = some (n, rest)) :
    ∃ c ds, cs = c :: ds ∧ (c.isDigit = true ∨ c = '-') := by
  cases cs with
  | nil => cases h
  | cons c ds =>
    refine ⟨c, ds, rfl, ?_⟩
    by_cases hminus : c = '-'
    · exact .inr hminus
    · left
      rw [readNumber] at h
      · unfold readUnsigned at h
        dsimp only at h
        split at h
        · cases h
        · rename_i hdigits
          by_cases hdigit : c.isDigit = true
          · exact hdigit
          · exact absurd (.inl (by simp [spanDigits, hdigit])) hdigits
      · exact fun _ heq => hminus (List.cons.inj heq).1

/-! ## Values -/

namespace Tree

/-- What is read where a numeral starts. -/
def ofNumeral (read : Option Number × List Char) : Tree × List Char :=
  (match read.1 with
    | some n => number n
    | none => hole, read.2)

theorem readValue_of_numeral {c : Char} {ds : List Char} (hskip : skipSpace cs = c :: ds)
    (hc : c.isDigit = true ∨ c = '-') (fuel room : Nat) :
    readValue (fuel + 1) room cs = (readNumber (c :: ds)).map ofNumeral := by
  have hne : ∀ d : Char, d.isDigit = false → d ≠ '-' → c ≠ d := by
    rintro d hdigit hminus rfl
    rcases hc with hc | hc
    · rw [hc] at hdigit
      cases hdigit
    · exact hminus hc
  rw [readValue.eq_def]
  simp only [hskip]
  split <;> rename_i heq
  case h_7 => split <;> rename_i hread <;> rw [hread] <;> rfl
  all_goals exact absurd (List.cons.inj heq).1 (hne _ (by decide) (by decide))

theorem readValue_nil (fuel room : Nat) : readValue fuel room [] = none := by
  cases fuel <;> simp [readValue, skipSpace, readNumber, readUnsigned, spanDigits]

theorem ne_nil_of_readItems {fuel room : Nat} {read : List Tree × List Char}
    (h : readItems fuel room cs = some read) : cs ≠ [] := by
  rintro rfl
  cases fuel <;> simp [readItems, readValue_nil] at h

theorem ne_nil_of_readMembers {fuel room : Nat}
    {read : Option (List (String × Tree)) × List Char}
    (h : readMembers fuel room cs = some read) : cs ≠ [] := by
  rintro rfl
  cases fuel <;> simp [readMembers, skipSpace] at h

mutual

/-- What is read from a text is read from it when more stands after it, and with more fuel. -/
theorem readValue_append : ∀ {fuel fuel' room : Nat} {cs rest tail : List Char} {t : Tree},
    readValue fuel room cs = some (t, rest) → fuel ≤ fuel' → EndsNumeral tail →
      readValue fuel' room (cs ++ tail) = some (t, rest ++ tail)
  | 0, _, _, _, _, _, _, h, _, _ => by simp [readValue] at h
  | fuel + 1, 0, _, _, _, _, _, _, hfuel, _ => absurd hfuel (Nat.not_succ_le_zero _)
  | fuel + 1, fuel' + 1, room, cs, rest, tail, t, h, hfuel, htail => by
    have hfuel := Nat.le_of_succ_le_succ hfuel
    -- One case for every character that a value starts with, the numerals last.
    rw [readValue.eq_def] at h
    simp only at h
    split at h <;> rename_i heq
    case h_1 | h_2 | h_3 =>
      cases h
      rw [readValue.eq_def]
      simp only [skipSpace_append heq, List.cons_append]
    case h_4 =>
      rw [readValue.eq_def]
      simp only [skipSpace_append heq]
      split at h
      · rename_i hstring
        cases h
        rw [readString_append hstring]
      · rename_i hstring
        cases h
        rw [readString_append hstring]
      · cases h
    case h_5 rest' =>
      rw [readValue.eq_def]
      simp only [skipSpace_append heq]
      split at h
      · rename_i hclose
        cases h
        simp only [skipSpace_append hclose]
      · rename_i hopen
        cases hitems : readItems fuel (room - 1) (skipSpace rest') with
        | none =>
          rw [hitems] at h
          cases h
        | some read =>
          rw [hitems] at h
          cases h
          -- No bracket of the tail closes the array: something stands there in the text itself.
          obtain ⟨c, ds, hskip⟩ := List.exists_cons_of_ne_nil (ne_nil_of_readItems hitems)
          have hnext := readItems_append hitems hfuel htail
          rw [hskip] at hnext hopen
          simp only [skipSpace_append hskip]
          split
          · rename_i hclose
            exact absurd (congrArg (· :: _) (List.cons.inj hclose).1) (hopen _)
          · rw [← List.cons_append, hnext]
    case h_6 rest' =>
      rw [readValue.eq_def]
      simp only [skipSpace_append heq]
      split at h
      · rename_i hclose
        cases h
        simp only [skipSpace_append hclose]
      · rename_i hopen
        cases hmembers : readMembers fuel (room - 1) (skipSpace rest') with
        | none =>
          rw [hmembers] at h
          cases h
        | some read =>
          obtain ⟨c, ds, hskip⟩ := List.exists_cons_of_ne_nil (ne_nil_of_readMembers hmembers)
          have hnext := readMembers_append hmembers hfuel htail
          rw [hmembers] at h
          rw [hskip] at hnext hopen
          simp only [skipSpace_append hskip]
          split
          · rename_i hclose
            exact absurd (congrArg (· :: _) (List.cons.inj hclose).1) (hopen _)
          · rw [← List.cons_append, hnext]
            obtain ⟨_ | members, _⟩ := read <;> cases h <;> rfl
    case h_7 =>
      cases hread : readNumber (skipSpace cs) with
      | none =>
        rw [hread] at h
        cases h
      | some read =>
        obtain ⟨c, ds, hskip, hc⟩ := readNumber_eq_cons hread
        have hnext := readNumber_append htail hread
        rw [hskip] at hnext
        rw [readValue_of_numeral (skipSpace_append hskip) hc, ← List.cons_append, hnext]
        rw [hread] at h
        obtain ⟨_ | n, _⟩ := read <;> cases h <;> rfl

theorem readItems_append : ∀ {fuel fuel' room : Nat} {cs rest tail : List Char} {ts : List Tree},
    readItems fuel room cs = some (ts, rest) → fuel ≤ fuel' → EndsNumeral tail →
      readItems fuel' room (cs ++ tail) = some (ts, rest ++ tail)
  | 0, _, _, _, _, _, _, h, _, _ => by simp [readItems] at h
  | fuel + 1, 0, _, _, _, _, _, _, hfuel, _ => absurd hfuel (Nat.not_succ_le_zero _)
  | fuel + 1, fuel' + 1, room, cs, rest, tail, ts, h, hfuel, htail => by
    have hfuel := Nat.le_of_succ_le_succ hfuel
    rw [readItems] at h ⊢
    split at h
    · cases h
    · rename_i hvalue
      rw [readValue_append hvalue hfuel htail]
      dsimp only
      split at h <;> rename_i heq
      · cases h
        simp only [skipSpace_append heq]
      · simp only [skipSpace_append heq]
        split at h
        · rename_i hitems
          cases h
          rw [readItems_append hitems hfuel htail]
        · cases h
      · cases h

theorem readMembers_append : ∀ {fuel fuel' room : Nat} {cs rest tail : List Char}
    {ts : Option (List (String × Tree))}, readMembers fuel room cs = some (ts, rest) →
      fuel ≤ fuel' → EndsNumeral tail →
        readMembers fuel' room (cs ++ tail) = some (ts, rest ++ tail)
  | 0, _, _, _, _, _, _, h, _, _ => by simp [readMembers] at h
  | fuel + 1, 0, _, _, _, _, _, _, hfuel, _ => absurd hfuel (Nat.not_succ_le_zero _)
  | fuel + 1, fuel' + 1, room, cs, rest, tail, ts, h, hfuel, htail => by
    have hfuel := Nat.le_of_succ_le_succ hfuel
    rw [readMembers] at h ⊢
    split at h <;> rename_i hquote
    · simp only [skipSpace_append hquote]
      split at h
      · cases h
      · rename_i hkey
        rw [readString_append hkey]
        dsimp only
        split at h <;> rename_i hcolon
        · simp only [skipSpace_append hcolon]
          split at h
          · cases h
          · rename_i hvalue
            rw [readValue_append hvalue hfuel htail]
            dsimp only
            split at h <;> rename_i hmark
            · cases h
              simp only [skipSpace_append hmark]
            · simp only [skipSpace_append hmark]
              split at h
              · cases h
              · rename_i hmembers
                cases h
                rw [readMembers_append hmembers hfuel htail]
            · cases h
        · cases h
    · cases h

end

/-- What is read from a text is read from it when more stands after it. -/
theorem read?_append {t : Tree} (h : read? cs = some (t, rest)) (htail : EndsNumeral tail) :
    read? (cs ++ tail) = some (t, rest ++ tail) :=
  readValue_append h (by rw [List.length_append]; omega) htail

end Tree
end Courier
