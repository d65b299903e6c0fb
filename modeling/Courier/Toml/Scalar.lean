/-
Numbers, dates and times in TOML.

Digits may be grouped by underscores, each of which stands between two digits.  A date or a time is
checked for being one; what it is does not matter to anyone here.
-/
import Courier.Text.Hex
import Courier.Toml.Item

namespace Courier
namespace Toml

/-! ## Numbers -/

/-- Reads digits after the first of them: the digits, without the underscores between them. -/
def moreDigits (isDigit : Char → Bool) : List Char → Option (List Char × List Char)
  | '_' :: c :: rest =>
    if isDigit c then (moreDigits isDigit rest).map fun (digits, rest) => (c :: digits, rest)
    else none
  | c :: rest =>
    if isDigit c then (moreDigits isDigit rest).map fun (digits, rest) => (c :: digits, rest)
    else if c = '_' then none
    else some ([], c :: rest)
  | [] => some ([], [])

/-- Reads digits, at least one. -/
def readDigits (isDigit : Char → Bool) : List Char → Option (List Char × List Char)
  | c :: rest =>
    if isDigit c then (moreDigits isDigit rest).map fun (digits, rest) => (c :: digits, rest)
    else none
  | [] => none

/-- Reads the whole part of a number: a single zero, or digits that do not start with one. -/
def readWhole : List Char → Option (List Char × List Char)
  | '0' :: rest => some (['0'], rest)
  | cs => readDigits Char.isDigit cs

/-- Reads a sign, if there is one: whether it is a minus. -/
def readSign : List Char → Bool × List Char
  | '+' :: rest => (false, rest)
  | '-' :: rest => (true, rest)
  | cs => (false, cs)

/-- An integer, if 64 bits hold it. -/
def integer? (n : Int) : Option Scalar :=
  if Int64.minValue.toInt ≤ n ∧ n ≤ Int64.maxValue.toInt then some (.integer n) else none

/-- A number with a fraction or an exponent.  Only a positive one may not be too large. -/
def float? (negative : Bool) (digits : List Char) (power : Int) : Option Scalar :=
  match nearest? (Nat.ofDigitChars 10 digits 0) power with
  | some size => some (.float (.finite ⟨negative, size⟩))
  | none => if negative then some (.float (.infinite true)) else none

/-- Reads an integer in a base other than ten, after its first two characters. -/
def readBased (base : Nat) (isDigit : Char → Bool) (cs : List Char) : Option (Scalar × List Char) :=
  do
    let (digits, rest) ← readDigits isDigit cs
    let n ← digits.foldlM (fun n digit => (hexValue? digit).map (base * n + ·)) 0
    some (← integer? n, rest)

/-- Reads the exponent of a number, after its letter. -/
def readExponent (cs : List Char) : Option (Int × List Char) := do
  let (negative, cs) := readSign cs
  let (digits, rest) ← readDigits Char.isDigit cs
  let n : Int := Nat.ofDigitChars 10 digits 0
  some (if negative then -n else n, rest)

/-- Reads what may follow the whole part of a number. -/
def readTail (negative : Bool) (whole : List Char) : List Char → Option (Scalar × List Char)
  | '.' :: rest => do
    let (fraction, rest) ← readDigits Char.isDigit rest
    let place : Int := -(fraction.length : Int)
    match rest with
    | c :: after =>
      if c = 'e' ∨ c = 'E' then
        let (power, after) ← readExponent after
        some (← float? negative (whole ++ fraction) (place + power), after)
      else some (← float? negative (whole ++ fraction) place, c :: after)
    | [] => some (← float? negative (whole ++ fraction) place, [])
  | c :: rest =>
    let n : Int := Nat.ofDigitChars 10 whole 0
    if c = 'e' ∨ c = 'E' then do
      let (power, after) ← readExponent rest
      some (← float? negative whole power, after)
    else (integer? (if negative then -n else n)).map (·, c :: rest)
  | [] =>
    let n : Int := Nat.ofDigitChars 10 whole 0
    (integer? (if negative then -n else n)).map (·, [])

/-- Reads a number; only decimal ones have signs. -/
def readNumber : List Char → Option (Scalar × List Char)
  | '0' :: 'x' :: rest => readBased 16 (fun c => (hexValue? c).isSome) rest
  | '0' :: 'o' :: rest => readBased 8 (fun c => '0' ≤ c && c ≤ '7') rest
  | '0' :: 'b' :: rest => readBased 2 (fun c => c = '0' || c = '1') rest
  | cs =>
    let (negative, unsigned) := readSign cs
    match unsigned with
    | 'i' :: 'n' :: 'f' :: rest => some (.float (.infinite negative), rest)
    | 'n' :: 'a' :: 'n' :: rest => some (.float .notANumber, rest)
    | cs => do
      let (whole, rest) ← readWhole cs
      readTail negative whole rest

/-! ## Dates and times -/

/-- Reads a number of exactly two digits that is in a range. -/
def readTwo (low high : Nat) : List Char → Option (Nat × List Char)
  | a :: b :: rest =>
    let n := Nat.ofDigitChars 10 [a, b] 0
    if a.isDigit ∧ b.isDigit ∧ low ≤ n ∧ n ≤ high then some (n, rest) else none
  | _ => none

/-- Passes over a character. -/
def skipChar (c : Char) : List Char → Option (List Char)
  | d :: rest => if d = c then some rest else none
  | [] => none

/-- How many days a month has. -/
def daysOf (year month : Nat) : Nat :=
  if month = 2 then
    if year % 4 = 0 ∧ (year % 100 ≠ 0 ∨ year % 400 = 0) then 29 else 28
  else if month = 4 ∨ month = 6 ∨ month = 9 ∨ month = 11 then 30
  else 31

/-- Passes over a date. -/
def skipDate (cs : List Char) : Option (List Char) := do
  let (century, cs) ← readTwo 0 99 cs
  let (year, cs) ← readTwo 0 99 cs
  let (month, cs) ← readTwo 1 12 (← skipChar '-' cs)
  let (day, cs) ← readTwo 1 31 (← skipChar '-' cs)
  if day ≤ daysOf (100 * century + year) month then some cs else none

/-- Passes over the fraction of a second, if there is one. -/
def skipFraction : List Char → List Char
  | '.' :: c :: rest => if c.isDigit then rest.dropWhile Char.isDigit else '.' :: c :: rest
  | cs => cs

/-- Passes over a time. -/
def skipTime (cs : List Char) : Option (List Char) := do
  let (_, cs) ← readTwo 0 23 cs
  let (_, cs) ← readTwo 0 59 (← skipChar ':' cs)
  let (_, cs) ← readTwo 0 60 (← skipChar ':' cs)
  some (skipFraction cs)

/-- Passes over the distance from universal time, if there is one. -/
def skipOffset : List Char → List Char
  | c :: rest =>
    if c = 'Z' ∨ c = 'z' then rest
    else if c = '+' ∨ c = '-' then
      let offset := do
        let (_, cs) ← readTwo 0 23 rest
        let (_, cs) ← readTwo 0 59 (← skipChar ':' cs)
        some cs
      offset.getD (c :: rest)
    else c :: rest
  | [] => []

/-- Passes over a date, a date with a time, or a time. -/
def skipMoment (cs : List Char) : Option (List Char) :=
  match skipDate cs with
  | some (c :: rest) =>
    if c = 'T' ∨ c = 't' ∨ c = ' ' then
      match skipTime rest with
      | some rest => some (skipOffset rest)
      | none => some (c :: rest)
    else some (c :: rest)
  | some [] => some []
  | none => skipTime cs

end Toml
end Courier
