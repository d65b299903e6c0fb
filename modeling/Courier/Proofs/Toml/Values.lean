/-
What is written for a value in TOML is read back as that value.

A value stands at the end of its line, so it only has to be read up to a line break.  `Stands` says
that a text is read there as a scalar; it does for strings, booleans and the integers that 64 bits
hold.  Of integers the point is that digits alone begin no date, no time and no number of another
kind.
-/
import Courier.Toml.Document
import Courier.Proofs.Json.Numerals
import Courier.Proofs.Toml.Strings

namespace Courier
namespace Toml

/-- An item is read from a text at the end of a line. -/
def Reads (text : List Char) (item : Item) : Prop :=
  ∃ fuel rest, readValue fuel maxNesting (text ++ '\n' :: rest) = some (item, '\n' :: rest)

/-- A text is a value at the end of every line. -/
structure IsValue (text : List Char) : Prop where
  begins : ∀ c ∈ text.head?, c ≠ ' ' ∧ c ≠ '\t'
  ends : ∀ fuel rest, 2 * text.length ≤ fuel →
    ∃ item, readValue fuel maxNesting (text ++ '\n' :: rest) = some (item, '\n' :: rest)

/-- A text stands for a scalar at the end of every line. -/
structure Stands (text : List Char) (value : Scalar) : Prop where
  begins : ∃ c ∈ text.head?, c ≠ ' ' ∧ c ≠ '\t'
  read : ∀ fuel rest, readValue (fuel + 1) maxNesting (text ++ '\n' :: rest) =
    some (.scalar (.between (text ++ '\n' :: rest) ('\n' :: rest)) value, '\n' :: rest)

namespace Stands

variable {text : List Char} {value : Scalar} (h : Stands text value)
include h

theorem isValue : IsValue text := by
  obtain ⟨c, hhead, hblank⟩ := h.begins
  refine ⟨fun d hd => ?_, fun fuel rest hfuel => ?_⟩
  · rw [Option.mem_unique hd hhead]
    exact hblank
  · have hpos : 0 < text.length := List.length_pos_of_mem (List.mem_of_mem_head? hhead)
    obtain ⟨fuel, rfl⟩ : ∃ less, fuel = less + 1 := ⟨fuel - 1, by omega⟩
    exact ⟨_, h.read fuel rest⟩

/-- Nothing but the scalar is read from the text. -/
theorem eq_scalar {item : Item} (hitem : Reads text item) : ∃ span, item = .scalar span value := by
  obtain ⟨fuel, rest, hread⟩ := hitem
  cases fuel with
  | zero => simp [readValue] at hread
  | succ fuel =>
    rw [h.read] at hread
    exact ⟨_, (congrArg Prod.fst (Option.some.inj hread)).symm⟩

end Stands

/-! ## Strings -/

/-- A scalar that is no boolean is read as a string, a moment or a number. -/
theorem readValue_scalar (fuel room : Nat) {c : Char}
    (hc : c ≠ '[' ∧ c ≠ '{' ∧ c ≠ 't' ∧ c ≠ 'f') (cs : List Char) :
    readValue (fuel + 1) room (c :: cs) =
      match readString (c :: cs) with
      | some (text, rest) =>
        some (.scalar (.between (c :: cs) rest) (.string (String.ofList text)), rest)
      | none =>
        match skipMoment (c :: cs) with
        | some rest => some (.scalar (.between (c :: cs) rest) .moment, rest)
        | none =>
          (readNumber (c :: cs)).map fun (value, rest) =>
            (.scalar (.between (c :: cs) rest) value, rest) := by
  obtain ⟨hbracket, hbrace, ht, hf⟩ := hc
  rw [readValue] <;> first | rfl | simp_all

/-- A string begins with one of its marks. -/
theorem quoted_eq_cons (s : String) :
    ∃ mark cs, quoted s = mark :: cs ∧ (mark = '"' ∨ mark = '\'') := by
  have hmark : ∀ style : Style, ∃ mark cs, style.mark = mark :: cs ∧ (mark = '"' ∨ mark = '\'')
    | .basic | .longBasic => ⟨_, _, rfl, .inl rfl⟩
    | .literal | .longLiteral => ⟨_, _, rfl, .inr rfl⟩
  obtain ⟨mark, cs, heq, hor⟩ := hmark (styleOf s.toList)
  unfold quoted
  simp only [heq]
  split <;> exact ⟨mark, _, rfl, hor⟩

theorem stands_quoted (s : String) : Stands (quoted s) (.string s) := by
  obtain ⟨mark, cs, heq, hmark⟩ := quoted_eq_cons s
  refine ⟨?_, fun fuel rest => ?_⟩
  · rw [heq]
    refine ⟨mark, rfl, ?_⟩
    rcases hmark with rfl | rfl <;> decide
  · have hread : readString (quoted s ++ '\n' :: rest) = some (s.toList, '\n' :: rest) :=
      readString_quoted s (by simp) (by simp)
    have hnot : mark ≠ '[' ∧ mark ≠ '{' ∧ mark ≠ 't' ∧ mark ≠ 'f' := by
      rcases hmark with rfl | rfl <;> decide
    rw [heq, List.cons_append] at hread ⊢
    rw [readValue_scalar fuel _ hnot, hread]
    simp only [String.ofList_toList]

/-! ## Booleans -/

theorem stands_booleanText (b : Bool) : Stands (booleanText b) (.boolean b) := by
  cases b with
  | false => exact ⟨⟨'f', rfl, by decide⟩, fun fuel rest => rfl⟩
  | true => exact ⟨⟨'t', rfl, by decide⟩, fun fuel rest => rfl⟩

/-! ## Integers -/

section Digits

variable {digits : List Char} (hdigits : ∀ c ∈ digits, c.isDigit = true)
include hdigits

/-- What is left of digits and the end of their line after two digits is of the same kind. -/
theorem readTwo_digits {low high n : Nat} {rest cs : List Char}
    (h : readTwo low high (digits ++ '\n' :: rest) = some (n, cs)) :
    ∃ more, (∀ c ∈ more, c.isDigit = true) ∧ cs = more ++ '\n' :: rest := by
  have hline : '\n'.isDigit = false := by decide
  rcases digits with _ | ⟨a, _ | ⟨b, digits⟩⟩
  · cases rest <;> simp [readTwo, hline] at h
  · simp [readTwo, hline] at h
  · simp only [List.cons_append, readTwo] at h
    split at h
    · have hmore : ∀ c ∈ digits, c.isDigit = true := fun c hc =>
        hdigits c (List.mem_cons_of_mem _ (List.mem_cons_of_mem _ hc))
      exact ⟨digits, hmore, (congrArg Prod.snd (Option.some.inj h)).symm⟩
    · cases h

/-- There is no mark between digits or at the end of their line. -/
theorem skipChar_digits {mark : Char} (hmark : mark.isDigit = false) (hline : mark ≠ '\n')
    (rest : List Char) : skipChar mark (digits ++ '\n' :: rest) = none := by
  cases digits with
  | nil => exact if_neg hline.symm
  | cons c digits => exact if_neg (ne_of_holds (hdigits c List.mem_cons_self) hmark)

theorem skipTime_digits (rest : List Char) : skipTime (digits ++ '\n' :: rest) = none := by
  unfold skipTime
  cases htwo : readTwo 0 23 (digits ++ '\n' :: rest) with
  | none => rfl
  | some read =>
    obtain ⟨more, hmore, heq⟩ := readTwo_digits hdigits htwo
    have hcolon : skipChar ':' (more ++ '\n' :: rest) = none :=
      skipChar_digits hmore (by decide) (by decide) rest
    simp [heq, hcolon]

theorem skipDate_digits (rest : List Char) : skipDate (digits ++ '\n' :: rest) = none := by
  unfold skipDate
  cases hcentury : readTwo 0 99 (digits ++ '\n' :: rest) with
  | none => rfl
  | some read =>
    obtain ⟨more, hmore, heq⟩ := readTwo_digits hdigits hcentury
    cases hyear : readTwo 0 99 (more ++ '\n' :: rest) with
    | none => simp [heq, hyear]
    | some read' =>
      obtain ⟨last, hlast, heq'⟩ := readTwo_digits hmore hyear
      have hdash : skipChar '-' (last ++ '\n' :: rest) = none :=
        skipChar_digits hlast (by decide) (by decide) rest
      simp [heq, hyear, heq', hdash]

theorem moreDigits_digits (rest : List Char) :
    moreDigits Char.isDigit (digits ++ '\n' :: rest) = some (digits, '\n' :: rest) := by
  induction digits with
  | nil =>
    rw [List.nil_append, moreDigits] <;> simp
  | cons c digits ih =>
    obtain ⟨hc, htail⟩ := List.forall_mem_cons.mp hdigits
    rw [List.cons_append, moreDigits, if_pos hc, ih htail]
    · rfl
    · rintro d cs rfl
      exact absurd hc (by decide)

end Digits

theorem readWhole_toDigits (n : Nat) (rest : List Char) :
    readWhole (Nat.toDigits 10 n ++ '\n' :: rest) = some (Nat.toDigits 10 n, '\n' :: rest) := by
  have hdigits : ∀ c ∈ Nat.toDigits 10 n, c.isDigit = true := fun _ => isDigit_of_mem_digits
  rcases Nat.eq_zero_or_pos n with rfl | hpos
  · rw [Nat.toDigits_zero]
    rfl
  · have hzero : (Nat.toDigits 10 n).head? ≠ some '0' := head?_toDigits hpos
    have hne : Nat.toDigits 10 n ≠ [] := Nat.toDigits_ne_nil
    generalize Nat.toDigits 10 n = digits at *
    obtain ⟨c, digits, rfl⟩ := List.exists_cons_of_ne_nil hne
    obtain ⟨hc, htail⟩ := List.forall_mem_cons.mp hdigits
    rw [List.cons_append, readWhole, readDigits, if_pos hc, moreDigits_digits htail]
    · rfl
    · simp_all

/-- Two digits in a row, or one at the end of its line, begin a decimal number without a sign. -/
theorem readNumber_decimal {c : Char} {cs : List Char} (hc : c.isDigit = true)
    (hnext : ∀ d ∈ cs.head?, d.isDigit = true ∨ d = '\n') :
    readNumber (c :: cs) =
      (readWhole (c :: cs)).bind fun (whole, rest) => readTail false whole rest := by
  have hbase : ∀ d : Char, d.isDigit = false → d ≠ '\n' → ∀ tail, cs ≠ d :: tail := by
    rintro d hdigit hline tail rfl
    rcases hnext d rfl with hd | hd
    · rw [hd] at hdigit
      cases hdigit
    · exact hline hd
  have hsign : readSign (c :: cs) = (false, c :: cs) := by
    rw [readSign]
    · exact fun rest heq => ne_of_holds hc (d := '+') (by decide) (List.cons.inj heq).1
    · exact fun rest heq => ne_of_holds hc (d := '-') (by decide) (List.cons.inj heq).1
  have hi : c ≠ 'i' := ne_of_holds hc (by decide)
  have hn : c ≠ 'n' := ne_of_holds hc (by decide)
  have hx := hbase 'x' (by decide) (by decide)
  have ho := hbase 'o' (by decide) (by decide)
  have hb := hbase 'b' (by decide) (by decide)
  rw [readNumber, hsign]
  · simp only
    split
    · simp_all
    · simp_all
    · rfl
  all_goals simp_all

/-- The digits of a number are read as that number. -/
theorem readNumber_toDigits {n : Nat} (h : n ≤ Int64.maxValue.toNatClampNeg) (rest : List Char) :
    readNumber (Nat.toDigits 10 n ++ '\n' :: rest) = some (.integer n, '\n' :: rest) := by
  have hinteger : integer? n = some (.integer n) := by
    have hmin : Int64.minValue.toInt ≤ n := Int.le_trans (by decide) (Int.natCast_nonneg n)
    have hmax : (n : Int) ≤ Int64.maxValue.toInt := Int.ofNat_le.mpr h
    exact if_pos ⟨hmin, hmax⟩
  have hdecimal : Nat.ofDigitChars 10 (Nat.toDigits 10 n) 0 = n := Nat.ofDigitChars_ten_toDigits
  have hwhole := readWhole_toDigits n rest
  have hdigits : ∀ c ∈ Nat.toDigits 10 n, c.isDigit = true := fun _ => isDigit_of_mem_digits
  have hne : Nat.toDigits 10 n ≠ [] := Nat.toDigits_ne_nil
  generalize Nat.toDigits 10 n = digits at *
  obtain ⟨c, digits, rfl⟩ := List.exists_cons_of_ne_nil hne
  obtain ⟨hc, htail⟩ := List.forall_mem_cons.mp hdigits
  have hnext : ∀ d ∈ (digits ++ '\n' :: rest).head?, d.isDigit = true ∨ d = '\n' := by
    cases digits with
    | nil => exact fun d hd => .inr (Option.mem_some.mp hd).symm
    | cons d digits => exact fun e he => .inl (Option.mem_some.mp he ▸ htail d List.mem_cons_self)
  have htail : readTail false (c :: digits) ('\n' :: rest) = some (.integer n, '\n' :: rest) := by
    rw [readTail]
    · simp [hdecimal, hinteger]
    · simp
  rw [List.cons_append] at hwhole ⊢
  rw [readNumber_decimal hc hnext, hwhole]
  exact htail

theorem stands_toDigits {n : Nat} (h : n ≤ Int64.maxValue.toNatClampNeg) :
    Stands (Nat.toDigits 10 n) (.integer n) := by
  have hread := readNumber_toDigits h
  have hdigits : ∀ c ∈ Nat.toDigits 10 n, c.isDigit = true := fun _ => isDigit_of_mem_digits
  have hne : Nat.toDigits 10 n ≠ [] := Nat.toDigits_ne_nil
  generalize Nat.toDigits 10 n = digits at *
  have hmoment (rest : List Char) : skipMoment (digits ++ '\n' :: rest) = none := by
    rw [skipMoment, skipDate_digits hdigits]
    exact skipTime_digits hdigits rest
  obtain ⟨c, digits, rfl⟩ := List.exists_cons_of_ne_nil hne
  have hc : c.isDigit = true := hdigits c List.mem_cons_self
  have hquote : c ≠ '"' := ne_of_holds hc (by decide)
  have hmark : c ≠ '\'' := ne_of_holds hc (by decide)
  have hscalar : c ≠ '[' ∧ c ≠ '{' ∧ c ≠ 't' ∧ c ≠ 'f' :=
    ⟨ne_of_holds hc (by decide), ne_of_holds hc (by decide), ne_of_holds hc (by decide),
      ne_of_holds hc (by decide)⟩
  have hblank : c ≠ ' ' ∧ c ≠ '\t' :=
    ⟨ne_of_holds hc (by decide), ne_of_holds hc (by decide)⟩
  refine ⟨⟨c, rfl, hblank⟩, fun fuel rest => ?_⟩
  have hstring : readString (c :: (digits ++ '\n' :: rest)) = none := by
    rw [readString] <;> simp_all
  rw [List.cons_append, readValue_scalar _ _ hscalar, hstring]
  rw [← List.cons_append, hmoment, hread]
  rfl

end Toml
end Courier
