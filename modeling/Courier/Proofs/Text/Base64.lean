/-
Base64 loses nothing, and reads nothing else.

Bytes are read back from their digits (`decode?_encode`), whatever is left of their number modulo
three, and so is every text from the digits of its UTF-8 bytes (`text?_ofText`).  What is read as
bytes is what they are written as (`decode?_eq_some_iff`), so no bytes can be written in two ways;
`isSome_decode?` says what such digits look like, without the reader and the writer.
-/
import Courier.Text.Base64
import Courier.Proofs.Stream.Lines

namespace Courier
namespace Base64

/-! ## Digits -/

theorem value?_digit {n : Nat} (h : n < 64) : value? (digit n) = some n := by
  have hall : ∀ n ∈ List.range 64, value? (digit n) = some n := by decide
  exact hall n (List.mem_range.mpr h)

theorem digit_ne_padding {n : Nat} (h : n < 64) : digit n ≠ '=' := by
  intro heq
  have hvalue := value?_digit h
  rw [heq, show value? '=' = none by decide] at hvalue
  cases hvalue

theorem ofNat_eq {b : UInt8} {n : Nat} (h : n = b.toNat) : UInt8.ofNat n = b := by
  rw [h, UInt8.ofNat_toNat]

/-! ## Bytes -/

/-- Two digits and two signs of padding are one byte. -/
theorem decodeLast?_one (a : UInt8) :
    decodeLast? (digit (a.toNat / 4)) (digit (a.toNat % 4 * 16)) '=' '=' = some [a] := by
  have ha : a.toNat < 256 := a.toNat_lt
  have hzero : a.toNat % 4 * 16 % 16 = 0 := by omega
  have hbyte : UInt8.ofNat (a.toNat / 4 * 4 + a.toNat % 4 * 16 / 16) = a := ofNat_eq (by omega)
  simp only [decodeLast?, value?_digit (n := a.toNat / 4) (by omega),
    value?_digit (n := a.toNat % 4 * 16) (by omega), Option.bind_eq_bind, Option.bind_some,
    and_self, if_true, hzero, hbyte]

/-- Three digits and one sign of padding are two bytes. -/
theorem decodeLast?_two (a b : UInt8) :
    decodeLast? (digit (a.toNat / 4)) (digit (a.toNat % 4 * 16 + b.toNat / 16))
      (digit (b.toNat % 16 * 4)) '=' = some [a, b] := by
  have ha : a.toNat < 256 := a.toNat_lt
  have hb : b.toNat < 256 := b.toNat_lt
  have hpadding : digit (b.toNat % 16 * 4) ≠ '=' := digit_ne_padding (by omega)
  have hzero : b.toNat % 16 * 4 % 4 = 0 := by omega
  have hfirst :
      UInt8.ofNat (a.toNat / 4 * 4 + (a.toNat % 4 * 16 + b.toNat / 16) / 16) = a :=
    ofNat_eq (by omega)
  have hsecond :
      UInt8.ofNat ((a.toNat % 4 * 16 + b.toNat / 16) % 16 * 16 + b.toNat % 16 * 4 / 4) = b :=
    ofNat_eq (by omega)
  simp only [decodeLast?, value?_digit (n := a.toNat / 4) (by omega),
    value?_digit (n := a.toNat % 4 * 16 + b.toNat / 16) (by omega),
    value?_digit (n := b.toNat % 16 * 4) (by omega), Option.bind_eq_bind, Option.bind_some,
    hpadding, false_and, if_false, if_true, hzero, hfirst, hsecond]

/-- Four digits are three bytes, whatever comes after them. -/
theorem decode?_three (a b c : UInt8) (rest : List Char) :
    decode? (digit (a.toNat / 4) :: digit (a.toNat % 4 * 16 + b.toNat / 16) ::
      digit (b.toNat % 16 * 4 + c.toNat / 64) :: digit (c.toNat % 64) :: rest) =
      (decode? rest).map fun bytes => a :: b :: c :: bytes := by
  have ha : a.toNat < 256 := a.toNat_lt
  have hb : b.toNat < 256 := b.toNat_lt
  have hc : c.toNat < 256 := c.toNat_lt
  have hpadding : digit (c.toNat % 64) ≠ '=' := digit_ne_padding (by omega)
  have hfirst :
      UInt8.ofNat (a.toNat / 4 * 4 + (a.toNat % 4 * 16 + b.toNat / 16) / 16) = a :=
    ofNat_eq (by omega)
  have hsecond :
      UInt8.ofNat ((a.toNat % 4 * 16 + b.toNat / 16) % 16 * 16 +
        (b.toNat % 16 * 4 + c.toNat / 64) / 4) = b :=
    ofNat_eq (by omega)
  have hthird :
      UInt8.ofNat ((b.toNat % 16 * 4 + c.toNat / 64) % 4 * 64 + c.toNat % 64) = c :=
    ofNat_eq (by omega)
  simp only [decode?, hpadding, if_false, value?_digit (n := a.toNat / 4) (by omega),
    value?_digit (n := a.toNat % 4 * 16 + b.toNat / 16) (by omega),
    value?_digit (n := b.toNat % 16 * 4 + c.toNat / 64) (by omega),
    value?_digit (n := c.toNat % 64) (by omega)]
  cases decode? rest with
  | none => rfl
  | some bytes => simp only [Option.map_some, hfirst, hsecond, hthird]

theorem decode?_encode (bytes : List UInt8) : decode? (encode bytes) = some bytes := by
  fun_induction encode bytes with
  | case1 => rfl
  | case2 a => simp only [decode?, if_true, List.isEmpty_nil, decodeLast?_one]
  | case3 a b => simp only [decode?, if_true, List.isEmpty_nil, decodeLast?_two]
  | case4 a b c rest ih => rw [decode?_three, ih, Option.map_some]

/-! ## Digits that stand for bytes -/

/-- The digits, each at the place of the number that it stands for. -/
def alphabet : List Char :=
  ['A', 'B', 'C', 'D', 'E', 'F', 'G', 'H', 'I', 'J', 'K', 'L', 'M', 'N', 'O', 'P',
    'Q', 'R', 'S', 'T', 'U', 'V', 'W', 'X', 'Y', 'Z', 'a', 'b', 'c', 'd', 'e', 'f',
    'g', 'h', 'i', 'j', 'k', 'l', 'm', 'n', 'o', 'p', 'q', 'r', 's', 't', 'u', 'v',
    'w', 'x', 'y', 'z', '0', '1', '2', '3', '4', '5', '6', '7', '8', '9', '+', '/']

/-- Digits that stand for bytes come in fours.  In the last four one or two signs of padding may stand
in the place of digits; then the bits of the digit before them that make no whole byte are zero. -/
inductive Canonical : List Char → Prop where
  | nil : Canonical []
  | four {a b c d : Char} {rest : List Char} : a ∈ alphabet → b ∈ alphabet → c ∈ alphabet →
      d ∈ alphabet → Canonical rest → Canonical (a :: b :: c :: d :: rest)
  | three {a b c : Char} {n : Nat} : a ∈ alphabet → b ∈ alphabet → alphabet[4 * n]? = some c →
      Canonical [a, b, c, '=']
  | two {a b : Char} {n : Nat} : a ∈ alphabet → alphabet[16 * n]? = some b →
      Canonical [a, b, '=', '=']

/-- Only one digit stands for a number. -/
theorem digit_of_value? {c : Char} {n : Nat} (h : value? c = some n) : n < 64 ∧ c = digit n := by
  have hc : ∀ m, c.toNat = m → c = Char.ofNat m := fun m hm => by rw [← hm, Char.ofNat_toNat]
  unfold value? at h
  split at h
  · rename_i hupper
    have hlow : 65 ≤ c.toNat := hupper.1
    have hhigh : c.toNat ≤ 90 := hupper.2
    obtain rfl : c.toNat - 65 = n := Option.some.inj h
    refine ⟨by omega, ?_⟩
    rw [digit, if_pos (by omega)]
    exact hc _ (show c.toNat = 65 + (c.toNat - 65) by omega)
  · split at h
    · rename_i hlower
      have hlow : 97 ≤ c.toNat := hlower.1
      have hhigh : c.toNat ≤ 122 := hlower.2
      obtain rfl : c.toNat - 97 + 26 = n := Option.some.inj h
      refine ⟨by omega, ?_⟩
      rw [digit, if_neg (by omega), if_pos (by omega)]
      exact hc _ (show c.toNat = 97 + (c.toNat - 97 + 26 - 26) by omega)
    · split at h
      · rename_i hnumeral
        have hlow : 48 ≤ c.toNat := hnumeral.1
        have hhigh : c.toNat ≤ 57 := hnumeral.2
        obtain rfl : c.toNat - 48 + 52 = n := Option.some.inj h
        refine ⟨by omega, ?_⟩
        rw [digit, if_neg (by omega), if_neg (by omega), if_pos (by omega)]
        exact hc _ (show c.toNat = 48 + (c.toNat - 48 + 52 - 52) by omega)
      · split at h
        · rename_i hplus
          cases h
          exact ⟨by decide, hplus⟩
        · split at h
          · rename_i hslash
            cases h
            exact ⟨by decide, hslash⟩
          · cases h

theorem value?_eq_some_iff {c : Char} {n : Nat} :
    value? c = some n ↔ alphabet[n]? = some c := by
  have hall : ∀ n ∈ List.range 64, alphabet[n]? = some (digit n) := by decide
  constructor
  · intro h
    obtain ⟨hn, rfl⟩ := digit_of_value? h
    exact hall n (List.mem_range.mpr hn)
  · intro h
    have hn : n < 64 := (List.getElem?_eq_some_iff.mp h).1
    rw [hall n (List.mem_range.mpr hn)] at h
    rw [← Option.some.inj h, value?_digit hn]

theorem exists_value?_iff {c : Char} : (∃ n, value? c = some n) ↔ c ∈ alphabet := by
  simp only [value?_eq_some_iff]
  exact List.mem_iff_getElem?.symm

theorem toNat_ofNat {n : Nat} (h : n < 256) : (UInt8.ofNat n).toNat = n :=
  UInt8.toNat_ofNat_of_lt' h

/-- The last four digits, if there is padding among them, stand for the bytes they are written for. -/
theorem eq_encode_of_decodeLast? {a b c : Char} {bytes : List UInt8}
    (h : decodeLast? a b c '=' = some bytes) : [a, b, c, '='] = encode bytes := by
  simp only [decodeLast?, Option.bind_eq_bind, Option.bind_eq_some_iff] at h
  obtain ⟨p, hp, q, hq, h⟩ := h
  obtain ⟨hp, rfl⟩ := digit_of_value? hp
  obtain ⟨hq, rfl⟩ := digit_of_value? hq
  split at h
  · rename_i hpadding
    obtain ⟨rfl, -⟩ := hpadding
    split at h
    · rename_i hzero
      cases h
      have hfirst : (p * 4 + q / 16) / 4 = p := by omega
      have hsecond : (p * 4 + q / 16) % 4 * 16 = q := by omega
      rw [encode, toNat_ofNat (by omega), hfirst, hsecond]
    · cases h
  · rw [if_pos trivial, Option.bind_eq_some_iff] at h
    obtain ⟨r, hr, h⟩ := h
    obtain ⟨hr, rfl⟩ := digit_of_value? hr
    split at h
    · rename_i hzero
      cases h
      have hfirst : (p * 4 + q / 16) / 4 = p := by omega
      have hsecond : (p * 4 + q / 16) % 4 * 16 + (q % 16 * 16 + r / 4) / 16 = q := by omega
      have hthird : (q % 16 * 16 + r / 4) % 16 * 4 = r := by omega
      rw [encode, toNat_ofNat (by omega), toNat_ofNat (by omega), hfirst, hsecond, hthird]
    · cases h

/-- Bytes are read from no digits but those they are written as. -/
theorem eq_encode_of_decode? {digits : List Char} {bytes : List UInt8}
    (h : decode? digits = some bytes) : digits = encode bytes := by
  fun_induction decode? digits generalizing bytes with
  | case1 =>
    cases h
    rfl
  | case2 a b c rest hempty =>
    rw [List.isEmpty_iff.mp hempty]
    exact eq_encode_of_decodeLast? h
  | case3 => cases h
  | case4 a b c d rest _ p q r s more hmore hd hc hb ha ih =>
    obtain ⟨hp, rfl⟩ := digit_of_value? ha
    obtain ⟨hq, rfl⟩ := digit_of_value? hb
    obtain ⟨hr, rfl⟩ := digit_of_value? hc
    obtain ⟨hs, rfl⟩ := digit_of_value? hd
    cases h
    have hfirst : (p * 4 + q / 16) / 4 = p := by omega
    have hsecond : (p * 4 + q / 16) % 4 * 16 + (q % 16 * 16 + r / 4) / 16 = q := by omega
    have hthird : (q % 16 * 16 + r / 4) % 16 * 4 + (r % 4 * 64 + s) / 64 = r := by omega
    have hfourth : (r % 4 * 64 + s) % 64 = s := by omega
    rw [encode, toNat_ofNat (by omega), toNat_ofNat (by omega), toNat_ofNat (by omega), hfirst,
      hsecond, hthird, hfourth, ih hmore]
  | case5 => cases h
  | case6 => cases h

theorem decode?_eq_some_iff {digits : List Char} {bytes : List UInt8} :
    decode? digits = some bytes ↔ digits = encode bytes :=
  ⟨eq_encode_of_decode?, fun h => h ▸ decode?_encode bytes⟩

theorem digit_mem_alphabet {n : Nat} (h : n < 64) : digit n ∈ alphabet :=
  exists_value?_iff.mp ⟨n, value?_digit h⟩

theorem canonical_encode (bytes : List UInt8) : Canonical (encode bytes) := by
  have hdigit : ∀ n, n < 64 → alphabet[n]? = some (digit n) :=
    fun n h => value?_eq_some_iff.mp (value?_digit h)
  fun_induction encode bytes with
  | case1 => exact .nil
  | case2 a =>
    have ha : a.toNat < 256 := a.toNat_lt
    have hlast : alphabet[16 * (a.toNat % 4)]? = some (digit (a.toNat % 4 * 16)) := by
      rw [Nat.mul_comm]
      exact hdigit _ (by omega)
    exact .two (digit_mem_alphabet (by omega)) hlast
  | case3 a b =>
    have ha : a.toNat < 256 := a.toNat_lt
    have hb : b.toNat < 256 := b.toNat_lt
    have hlast : alphabet[4 * (b.toNat % 16)]? = some (digit (b.toNat % 16 * 4)) := by
      rw [Nat.mul_comm]
      exact hdigit _ (by omega)
    exact .three (digit_mem_alphabet (by omega)) (digit_mem_alphabet (by omega)) hlast
  | case4 a b c rest ih =>
    have ha : a.toNat < 256 := a.toNat_lt
    have hb : b.toNat < 256 := b.toNat_lt
    have hc : c.toNat < 256 := c.toNat_lt
    exact .four (digit_mem_alphabet (by omega)) (digit_mem_alphabet (by omega))
      (digit_mem_alphabet (by omega)) (digit_mem_alphabet (by omega)) ih

theorem isSome_decode?_of_canonical {digits : List Char} (h : Canonical digits) :
    (decode? digits).isSome = true := by
  induction h with
  | nil => rfl
  | @four a b c d rest ha hb hc hd _ ih =>
    obtain ⟨p, hp⟩ := exists_value?_iff.mpr ha
    obtain ⟨q, hq⟩ := exists_value?_iff.mpr hb
    obtain ⟨r, hr⟩ := exists_value?_iff.mpr hc
    obtain ⟨s, hs⟩ := exists_value?_iff.mpr hd
    obtain ⟨more, hmore⟩ := Option.isSome_iff_exists.mp ih
    have hpadding : d ≠ '=' := fun heq => absurd (heq ▸ hd) (by decide)
    simp only [decode?, if_neg hpadding, hp, hq, hr, hs, hmore, Option.isSome_some]
  | @three a b c n ha hb hc =>
    obtain ⟨p, hp⟩ := exists_value?_iff.mpr ha
    obtain ⟨q, hq⟩ := exists_value?_iff.mpr hb
    have hpadding : c ≠ '=' := fun heq => absurd (heq ▸ List.mem_of_getElem? hc) (by decide)
    have hzero : 4 * n % 4 = 0 := by omega
    simp [decode?, decodeLast?, hp, hq, value?_eq_some_iff.mpr hc, hpadding, hzero]
  | @two a b n ha hb =>
    obtain ⟨p, hp⟩ := exists_value?_iff.mpr ha
    have hzero : 16 * n % 16 = 0 := by omega
    simp [decode?, decodeLast?, hp, value?_eq_some_iff.mpr hb, hzero]

/-- The digits that stand for bytes are the canonical ones. -/
theorem isSome_decode? {digits : List Char} :
    (decode? digits).isSome = true ↔ Canonical digits := by
  refine ⟨fun h => ?_, isSome_decode?_of_canonical⟩
  obtain ⟨bytes, hbytes⟩ := Option.isSome_iff_exists.mp h
  rw [eq_encode_of_decode? hbytes]
  exact canonical_encode bytes

instance (digits : List Char) : Decidable (Canonical digits) :=
  decidable_of_iff _ isSome_decode?

/-! ## Texts -/

theorem fromUTF8?_eq_some_iff {bytes : ByteArray} {s : String} :
    String.fromUTF8? bytes = some s ↔ bytes = s.toUTF8 := by
  constructor
  · intro h
    unfold String.fromUTF8? at h
    split at h
    · cases h
      rfl
    · cases h
  · intro h
    rw [h]
    exact Stream.fromUTF8?_encode s

theorem text?_ofText (s : String) : text? (ofText s) = some s := by
  rw [text?, ofText, String.toList_ofList, decode?_encode, Option.bind_some]
  exact Stream.fromUTF8?_encode s

/-- A text is read from the digits of its UTF-8 bytes, and from no others. -/
theorem text?_eq_some_iff {digits s : String} : text? digits = some s ↔ digits = ofText s := by
  refine ⟨fun h => ?_, fun h => h ▸ text?_ofText s⟩
  obtain ⟨bytes, hdigits, hbytes⟩ := Option.bind_eq_some_iff.mp h
  have hencoded : bytes = s.toUTF8.data.toList :=
    congrArg (fun bytes => bytes.data.toList) (fromUTF8?_eq_some_iff.mp hbytes)
  rw [← String.ofList_toList (s := digits), eq_encode_of_decode? hdigits, hencoded]
  rfl

/-- What is read as no text is no writing of bytes, or one of bytes that are not UTF-8. -/
theorem text?_eq_none_iff {digits : String} :
    text? digits = none ↔ ¬Canonical digits.toList ∨
      ∃ bytes, digits.toList = encode bytes ∧ ¬(⟨bytes.toArray⟩ : ByteArray).IsValidUTF8 := by
  have hutf8 : ∀ bytes : ByteArray, String.fromUTF8? bytes = none ↔ ¬bytes.IsValidUTF8 := by
    intro bytes
    unfold String.fromUTF8?
    split <;> simp [*]
  unfold text?
  rw [← isSome_decode?]
  cases hdecoded : decode? digits.toList with
  | none => simp
  | some bytes =>
    rw [Option.bind_some, hutf8]
    have hdigits : digits.toList = encode bytes := eq_encode_of_decode? hdecoded
    constructor
    · exact fun hinvalid => .inr ⟨bytes, hdigits, hinvalid⟩
    · rintro (hnone | ⟨others, hothers, hinvalid⟩)
      · exact absurd rfl hnone
      · rw [hothers, decode?_encode] at hdecoded
        rwa [← Option.some.inj hdecoded]

end Base64
end Courier
