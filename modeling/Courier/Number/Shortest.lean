/-
The shortest decimal that reads back as a given magnitude.

The reals that round to a magnitude form an interval.  For one digit, two digits and so on, the two
neighbours of the magnitude on the decimal grid of that many digits are tried; the first grid with a
hit wins, and of two hits the nearer one, an exact tie going to the even digit.  All of it is
arithmetic of natural numbers.
-/
import Courier.Number.Binary64

namespace Courier

/-- A decimal number by its digits, the first of them standing for `10 ^ lead`. -/
structure Decimal where
  digits : List Char
  lead : Int
  deriving DecidableEq, Repr

/-- How many decimal digits a natural number has. -/
def digitCount (n : Nat) : Nat :=
  (Nat.toDigits 10 n).length

namespace Magnitude

/-- The place of the first decimal digit of a quotient. -/
def leadingPlace (num den : Nat) : Int :=
  let guess : Int := digitCount num - digitCount den
  let reached :=
    if 0 ≤ guess then den * Nat.pow 10 guess.toNat ≤ num else den ≤ num * Nat.pow 10 (-guess).toNat
  if reached then guess else guess - 1

/-- Whether `d * 10 ^ place` rounds to the magnitude.  The ends of the interval are half a unit
away, below a power of two a quarter of one, and belong to it when the mantissa is even. -/
def readsBack (x : Magnitude) (d : Nat) (place : Int) : Bool :=
  let below := if x.mantissa = Nat.pow 2 52 ∧ -1074 < x.exponent then 1 else 2
  let quarter := x.exponent - 2
  -- Both sides in units of a quarter of the last place.
  let num := d * Nat.pow 10 place.toNat * Nat.pow 2 (-quarter).toNat
  let den := Nat.pow 10 (-place).toNat * Nat.pow 2 quarter.toNat
  let low := (4 * x.mantissa - below) * den
  let high := (4 * x.mantissa + 2) * den
  if x.mantissa % 2 = 0 then low ≤ num && num ≤ high else low < num && num < high

/-- The decimal of a given number of digits that reads back as the magnitude, if there is one. -/
def shortestWith? (x : Magnitude) (count : Nat) : Option Decimal :=
  let (num, den) := x.quotient
  let place := leadingPlace num den - count + 1
  let n := num * Nat.pow 10 (-place).toNat
  let d := den * Nat.pow 10 place.toNat
  let down := n / d
  let pick :=
    match x.readsBack down place, x.readsBack (down + 1) place with
    | true, true =>
      if 2 * (n % d) < d ∨ (2 * (n % d) = d ∧ down % 2 = 0) then some down else some (down + 1)
    | true, false => some down
    | false, true => some (down + 1)
    | false, false => none
  pick.map fun digits =>
    { digits := ((Nat.toDigits 10 digits).reverse.dropWhile (· = '0')).reverse
      lead := place + digitCount digits - 1 }

/-- The shortest decimal that reads back as the magnitude.  Seventeen digits are always enough. -/
def shortest (x : Magnitude) : Decimal :=
  if x.mantissa = 0 then ⟨['0'], 0⟩
  else ((List.range 17).findSome? fun i => x.shortestWith? (i + 1)).getD ⟨['0'], 0⟩

end Magnitude

namespace Decimal

/-- The digits around a decimal point, with zeros where digits are missing and always at least one
digit on each side. -/
def positional (x : Decimal) : List Char :=
  if x.lead < 0 then
    '0' :: '.' :: (List.replicate (-x.lead - 1).toNat '0' ++ x.digits)
  else
    let whole := x.lead.toNat + 1
    if x.digits.length ≤ whole then
      x.digits ++ List.replicate (whole - x.digits.length) '0' ++ ['.', '0']
    else x.digits.take whole ++ '.' :: x.digits.drop whole

/-- The digits with a point after the first, and the place of the first with its sign. -/
def scientific (x : Decimal) : List Char :=
  let mantissa :=
    match x.digits with
    | [] => ['0']
    | [digit] => [digit]
    | digit :: rest => digit :: '.' :: rest
  mantissa ++ 'e' :: (if x.lead < 0 then '-' else '+') :: Nat.toDigits 10 x.lead.natAbs

end Decimal
end Courier
