/-
Base64, the standard alphabet with padding.

Three bytes are four digits of six bits; one or two bytes at the end are padded with `=`.  Decoding
takes what encoding writes and nothing else: the padding has to be there, the bits it covers have to
be zero.
-/

namespace Courier
namespace Base64

/-- The digit for a number below sixty-four. -/
def digit (n : Nat) : Char :=
  if n < 26 then Char.ofNat ('A'.toNat + n)
  else if n < 52 then Char.ofNat ('a'.toNat + (n - 26))
  else if n < 62 then Char.ofNat ('0'.toNat + (n - 52))
  else if n = 62 then '+'
  else '/'

/-- The number that a digit stands for. -/
def value? (c : Char) : Option Nat :=
  if 'A' ≤ c ∧ c ≤ 'Z' then some (c.toNat - 'A'.toNat)
  else if 'a' ≤ c ∧ c ≤ 'z' then some (c.toNat - 'a'.toNat + 26)
  else if '0' ≤ c ∧ c ≤ '9' then some (c.toNat - '0'.toNat + 52)
  else if c = '+' then some 62
  else if c = '/' then some 63
  else none

def encode : List UInt8 → List Char
  | [] => []
  | [a] => [digit (a.toNat / 4), digit (a.toNat % 4 * 16), '=', '=']
  | [a, b] =>
    [digit (a.toNat / 4), digit (a.toNat % 4 * 16 + b.toNat / 16), digit (b.toNat % 16 * 4), '=']
  | a :: b :: c :: rest =>
    digit (a.toNat / 4) :: digit (a.toNat % 4 * 16 + b.toNat / 16) ::
      digit (b.toNat % 16 * 4 + c.toNat / 64) :: digit (c.toNat % 64) :: encode rest

/-- The bytes of the last four digits, of which the last two or the last one is padding. -/
def decodeLast? (a b c d : Char) : Option (List UInt8) := do
  let p ← value? a
  let q ← value? b
  if c = '=' ∧ d = '=' then
    if q % 16 = 0 then some [UInt8.ofNat (p * 4 + q / 16)] else none
  else if d = '=' then
    let r ← value? c
    if r % 4 = 0 then
      some [UInt8.ofNat (p * 4 + q / 16), UInt8.ofNat (q % 16 * 16 + r / 4)]
    else none
  else none

def decode? : List Char → Option (List UInt8)
  | [] => some []
  | a :: b :: c :: d :: rest =>
    if d = '=' then
      if rest.isEmpty then decodeLast? a b c d else none
    else
      match value? a, value? b, value? c, value? d, decode? rest with
      | some p, some q, some r, some s, some bytes =>
        some (UInt8.ofNat (p * 4 + q / 16) :: UInt8.ofNat (q % 16 * 16 + r / 4) ::
          UInt8.ofNat (r % 4 * 64 + s) :: bytes)
      | _, _, _, _, _ => none
  | _ => none

/-- The digits for the UTF-8 bytes of a text. -/
def ofText (s : String) : String :=
  String.ofList (encode s.toUTF8.data.toList)

/-- The text whose UTF-8 bytes some digits stand for. -/
def text? (s : String) : Option String :=
  (decode? s.toList).bind fun bytes => String.fromUTF8? ⟨bytes.toArray⟩

end Base64
end Courier
