/-
What is written for a whole number is read back as that number.

A numeral goes on as long as it can, so what stands after it must not look like the rest of a
number: `EndsNumeral` says so.
-/
import Courier.Json.Printer
import Courier.Json.Reader

namespace Courier

/-- Whether a text cannot be taken for the rest of a numeral. -/
def EndsNumeral (rest : List Char) : Prop :=
  ∀ c, rest.head? = some c → c.isDigit = false ∧ c ≠ '.' ∧ c ≠ 'e' ∧ c ≠ 'E'

theorem endsNumeral_nil : EndsNumeral [] := by
  intro c h
  simp at h

theorem endsNumeral_cons {c : Char} (hdigit : c.isDigit = false) (hpoint : c ≠ '.')
    (he : c ≠ 'e') (hE : c ≠ 'E') (rest : List Char) : EndsNumeral (c :: rest) := by
  intro d h
  rw [List.head?_cons, Option.some.injEq] at h
  subst h
  exact ⟨hdigit, hpoint, he, hE⟩

/-! ## Digits -/

theorem isDigit_of_mem_digits {n : Nat} {c : Char} (h : c ∈ Nat.toDigits 10 n) :
    c.isDigit = true :=
  Nat.isDigit_of_mem_toDigits (by decide) (by decide) h

/-- No number but zero is written with a zero first. -/
theorem head?_toDigits {n : Nat} (h : 0 < n) : (Nat.toDigits 10 n).head? ≠ some '0' := by
  induction n using Nat.strongRecOn with
  | ind n ih =>
    by_cases hsmall : n < 10
    · have hdigit : ∀ m < 10, 0 < m → some m.digitChar ≠ some '0' := by decide
      rw [Nat.toDigits_of_lt_base hsmall, List.head?_cons]
      exact hdigit n hsmall h
    · rw [Nat.toDigits_of_base_le (by decide) (by omega), List.head?_append]
      have hrest := ih (n / 10) (by omega) (by omega)
      have hne : Nat.toDigits 10 (n / 10) ≠ [] := Nat.toDigits_ne_nil
      rw [List.head?_eq_some_head hne] at hrest ⊢
      simpa using hrest

theorem ne_of_holds {p : Char → Bool} {c d : Char} (hc : p c = true) (hd : p d = false) :
    c ≠ d := by
  rintro rfl
  rw [hc] at hd
  cases hd

section Runs

variable {p : Char → Bool} {run rest : List Char} (hrun : ∀ c ∈ run, p c = true)
  (hstop : ∀ c, rest.head? = some c → p c = false)
include hrun hstop

theorem takeWhile_append_stop : (run ++ rest).takeWhile p = run := by
  rw [List.takeWhile_append_of_pos hrun]
  cases rest with
  | nil => simp
  | cons c cs => simp [hstop c rfl]

theorem dropWhile_append_stop : (run ++ rest).dropWhile p = rest := by
  rw [List.dropWhile_append_of_pos hrun]
  cases rest with
  | nil => rfl
  | cons c cs => simp [hstop c rfl]

end Runs

theorem spanDigits_append {digits rest : List Char} (hdigits : ∀ c ∈ digits, c.isDigit = true)
    (hrest : EndsNumeral rest) : spanDigits (digits ++ rest) = (digits, rest) := by
  have hstop : ∀ c, rest.head? = some c → c.isDigit = false := fun c h => (hrest c h).1
  rw [spanDigits, takeWhile_append_stop hdigits hstop, dropWhile_append_stop hdigits hstop]

theorem readFraction_of_endsNumeral {rest : List Char} (h : EndsNumeral rest) :
    readFraction rest = some ([], rest) := by
  cases rest with
  | nil => rfl
  | cons c cs =>
    have hpoint : c ≠ '.' := (h c rfl).2.1
    rw [readFraction]
    simp_all

theorem readPower_of_endsNumeral {rest : List Char} (h : EndsNumeral rest) :
    readPower rest = some (none, rest) := by
  cases rest with
  | nil => rfl
  | cons c cs =>
    obtain ⟨-, -, he, hE⟩ := h c rfl
    simp only [readPower, he, hE, or_self, if_false]

/-! ## Numerals -/

/-- The digits of a natural number are read as a whole part without fraction and power. -/
theorem readUnsigned_toDigits (negative : Bool) (n : Nat) {rest : List Char}
    (hrest : EndsNumeral rest) :
    readUnsigned negative (Nat.toDigits 10 n ++ rest) =
      some (Number.ofDigits? negative (Nat.toDigits 10 n) [] none, rest) := by
  have hspan : spanDigits (Nat.toDigits 10 n ++ rest) = (Nat.toDigits 10 n, rest) :=
    spanDigits_append (fun c hc => isDigit_of_mem_digits hc) hrest
  have hplain : ¬((Nat.toDigits 10 n).isEmpty ∨
      ((Nat.toDigits 10 n).head? = some '0' ∧ Nat.toDigits 10 n ≠ ['0'])) := by
    rintro (hempty | ⟨hzero, hlong⟩)
    · exact Nat.toDigits_ne_nil (List.isEmpty_iff.mp hempty)
    · rcases Nat.eq_zero_or_pos n with rfl | hpos
      · exact hlong (Nat.toDigits_zero 10)
      · exact head?_toDigits hpos hzero
  rw [readUnsigned, hspan]
  simp only [if_neg hplain, readFraction_of_endsNumeral hrest, readPower_of_endsNumeral hrest]

theorem ofDigits?_toDigits {n : Nat} (h : n < UInt64.size) :
    Number.ofDigits? false (Nat.toDigits 10 n) [] none = some (.whole n) := by
  simp [Number.ofDigits?, Nat.ofDigitChars_ten_toDigits, h]

theorem ofDigits?_toDigits_negative {n : Nat} (hpos : 0 < n)
    (h : Int64.minValue.toInt ≤ -(n : Int)) :
    Number.ofDigits? true (Nat.toDigits 10 n) [] none = some (.whole (-n)) := by
  have hmin : Int64.minValue.toInt = -9223372036854775808 := by decide
  have hsize : n < UInt64.size := by
    have hmax : UInt64.size = 2 ^ 64 := by decide
    omega
  have hroom : (n : Int) ≤ 9223372036854775808 := by omega
  simp [Number.ofDigits?, Nat.ofDigitChars_ten_toDigits, hpos, hsize, hroom]

/-- A whole number in range is read back from its numeral. -/
theorem readNumber_intChars {n : Int} (h : (Number.whole n).InRange) {rest : List Char}
    (hrest : EndsNumeral rest) :
    readNumber (intChars n ++ rest) = some (some (.whole n), rest) := by
  obtain ⟨hmin, hmax⟩ := h
  unfold intChars
  by_cases hneg : n < 0
  · have habs : -(n.natAbs : Int) = n := by omega
    rw [if_pos hneg, List.cons_append, readNumber, readUnsigned_toDigits true _ hrest,
      ofDigits?_toDigits_negative (by omega) (by omega), habs]
  · have habs : (n.natAbs : Int) = n := by omega
    rw [if_neg hneg, readNumber, readUnsigned_toDigits false _ hrest,
      ofDigits?_toDigits (by omega), habs]
    intro cs hcs
    have hmem : '-' ∈ Nat.toDigits 10 n.natAbs := by
      have hne : Nat.toDigits 10 n.natAbs ≠ [] := Nat.toDigits_ne_nil
      cases hd : Nat.toDigits 10 n.natAbs with
      | nil => exact absurd hd hne
      | cons c ds =>
        rw [hd, List.cons_append] at hcs
        rw [(List.cons.inj hcs).1]
        exact List.mem_cons_self
    exact absurd (isDigit_of_mem_digits hmem) (by decide)

end Courier
