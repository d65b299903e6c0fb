/-
Finite binary64 numbers, computed exactly.

A number is held as a sign, a mantissa and an exponent, so that rounding is integer arithmetic that
a proof can see.  `Magnitude.round` takes a quotient of natural numbers to the nearest magnitude, a
tie to the even mantissa; products, quotients and powers of ten are rounded through it.
-/

namespace Courier

/-- The size of a finite binary64 number, `mantissa * 2 ^ exponent`.  The mantissa is below
`2 ^ 53`, the exponent at least `-1074`, and the mantissa at least `2 ^ 52` unless the exponent is
the smallest. -/
structure Magnitude where
  mantissa : Nat
  exponent : Int
  deriving DecidableEq, Repr

/-- A finite binary64 number.  Both zeros are numbers of their own. -/
structure Binary64 where
  negative : Bool
  magnitude : Magnitude
  deriving DecidableEq, Repr

namespace Magnitude

def zero : Magnitude := ⟨0, -1074⟩

/-- The quotient `num / den`, in units of `2 ^ exponent`, as a quotient again. -/
def inUnits (num den : Nat) (exponent : Int) : Nat × Nat :=
  if 0 ≤ exponent then (num, den * Nat.pow 2 exponent.toNat)
  else (num * Nat.pow 2 (-exponent).toNat, den)

/-- The exponent of the last place that a magnitude near `num / den` has. -/
def lastPlace (num den : Nat) : Int :=
  let guess : Int := num.log2 - den.log2
  let (n, d) := inUnits num den guess
  let leading := if n < d then guess - 1 else guess
  max (leading - 52) (-1074)

/-- The magnitude nearest to `num / den`, or nothing if that is too large for one. -/
def round (num den : Nat) : Option Magnitude :=
  if num = 0 then some zero
  else
    let place := lastPlace num den
    let (n, d) := inUnits num den place
    let down := n / d
    let rest := n % d
    let mantissa :=
      if 2 * rest < d ∨ (2 * rest = d ∧ down % 2 = 0) then down else down + 1
    let result : Magnitude :=
      if mantissa = Nat.pow 2 53 then ⟨Nat.pow 2 52, place + 1⟩ else ⟨mantissa, place⟩
    if result.exponent > 971 then none else some result

/-- The magnitude as a quotient. -/
def quotient (x : Magnitude) : Nat × Nat :=
  if 0 ≤ x.exponent then (x.mantissa * Nat.pow 2 x.exponent.toNat, 1)
  else (x.mantissa, Nat.pow 2 (-x.exponent).toNat)

def mul (x y : Magnitude) : Option Magnitude :=
  round (x.quotient.1 * y.quotient.1) (x.quotient.2 * y.quotient.2)

def div (x y : Magnitude) : Option Magnitude :=
  round (x.quotient.1 * y.quotient.2) (x.quotient.2 * y.quotient.1)

/-- The magnitude nearest to `10 ^ n`. -/
def powerOfTen (n : Nat) : Option Magnitude :=
  round (Nat.pow 10 n) 1

/-- A magnitude times a power of ten, rounded.  Below `10 ^ -308` the division is made in two
steps, each of them rounded; what two steps cannot reach is zero. -/
def scale (x : Magnitude) (power : Int) : Option Magnitude :=
  if x.mantissa = 0 then some zero
  else if 308 < power then none
  else if 0 ≤ power then do x.mul (← powerOfTen power.toNat)
  else if -308 ≤ power then do x.div (← powerOfTen (-power).toNat)
  else if -616 ≤ power then do
    let first ← x.div (← powerOfTen 308)
    first.div (← powerOfTen (-power - 308).toNat)
  else some zero

end Magnitude

namespace Binary64

/-- The number nearest to a natural number, with a sign. -/
def ofNat? (negative : Bool) (n : Nat) : Option Binary64 :=
  (Magnitude.round n 1).map (⟨negative, ·⟩)

end Binary64
end Courier
