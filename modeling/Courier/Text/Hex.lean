/-
Hexadecimal digits, and that they stand for the numbers that they were written for.
-/

namespace Courier

/-- The lower-case digit for a number below sixteen. -/
def hexDigit (n : Nat) : Char :=
  if n < 10 then Char.ofNat ('0'.toNat + n) else Char.ofNat ('a'.toNat + (n - 10))

/-- The upper-case digit for a number below sixteen. -/
def upperHexDigit (n : Nat) : Char :=
  if n < 10 then Char.ofNat ('0'.toNat + n) else Char.ofNat ('A'.toNat + (n - 10))

/-- The number that a digit of either case stands for. -/
def hexValue? (c : Char) : Option Nat :=
  if c.isDigit then some (c.toNat - '0'.toNat)
  else if 'a' ≤ c ∧ c ≤ 'f' then some (c.toNat - 'a'.toNat + 10)
  else if 'A' ≤ c ∧ c ≤ 'F' then some (c.toNat - 'A'.toNat + 10)
  else none

/-- The number that digits stand for, the most significant first. -/
def hexValues? (digits : List Char) : Option Nat :=
  digits.foldl (fun n digit => do some (16 * (← n) + (← hexValue? digit))) (some 0)

/-! ## Digits stand for their numbers -/

theorem hexValue?_hexDigit {n : Nat} (h : n < 16) : hexValue? (hexDigit n) = some n := by
  revert n
  decide

theorem hexValue?_upperHexDigit {n : Nat} (h : n < 16) : hexValue? (upperHexDigit n) = some n := by
  revert n
  decide

/-- Four digits, the last two of which are those of a small number, stand for that number. -/
theorem hexValues?_small {digit : Nat → Char} (hdigit : ∀ n < 16, hexValue? (digit n) = some n)
    {n : Nat} (h : n < 256) :
    hexValues? ['0', '0', digit (n / 16), digit (n % 16)] = some n := by
  have hhigh : hexValue? (digit (n / 16)) = some (n / 16) := hdigit _ (by omega)
  have hlow : hexValue? (digit (n % 16)) = some (n % 16) := hdigit _ (by omega)
  have hzero : hexValue? '0' = some 0 := by decide
  simp only [hexValues?, List.foldl_cons, List.foldl_nil, hzero, hhigh, hlow, Option.bind_eq_bind,
    Option.bind_some]
  congr 1
  omega

end Courier
