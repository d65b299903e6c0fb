/-
White space as Unicode counts it, and the trimming of texts by it.

Addresses, lines and settings are trimmed of every character with the `White_Space` property, not
of the four ASCII blanks alone.  Texts are trimmed as lists of characters, so that statements about
the result are statements about lists; `trim` is the same on strings.
-/

namespace Courier
namespace Text

/-- The code points with the `White_Space` property, as inclusive ranges. -/
def blankRanges : List (Nat × Nat) :=
  [(0x09, 0x0D), (0x20, 0x20), (0x85, 0x85), (0xA0, 0xA0), (0x1680, 0x1680), (0x2000, 0x200A),
    (0x2028, 0x2029), (0x202F, 0x202F), (0x205F, 0x205F), (0x3000, 0x3000)]

/-- Whether a character is white space. -/
def isBlank (c : Char) : Bool :=
  blankRanges.any fun range => range.1 ≤ c.toNat && c.toNat ≤ range.2

/-- Drops the white space at the end of a text. -/
def trimEnd (cs : List Char) : List Char :=
  (cs.reverse.dropWhile isBlank).reverse

/-- Drops the white space at both ends of a text. -/
def trimChars (cs : List Char) : List Char :=
  trimEnd (cs.dropWhile isBlank)

/-- Drops the white space at both ends of a text. -/
def trim (s : String) : String :=
  String.ofList (trimChars s.toList)

/-! ## Cutting a text at a separator -/

/-- The part of a text before its first separator, and the part after it if there is one. -/
def cut (separator : Char) : List Char → List Char × Option (List Char)
  | [] => ([], none)
  | c :: cs =>
    if c = separator then ([], some cs)
    else
      let (before, after) := cut separator cs
      (c :: before, after)

/-- The first part holds no separator. -/
theorem not_mem_cut_fst (separator : Char) (cs : List Char) :
    separator ∉ (cut separator cs).1 := by
  induction cs with
  | nil => simp [cut]
  | cons c cs ih =>
    by_cases h : c = separator
    · simp [cut, h]
    · simpa [cut, h] using ⟨Ne.symm h, ih⟩

/-- A cut loses nothing but the separator. -/
theorem append_cut (separator : Char) (cs : List Char) :
    (cut separator cs).1 ++ ((cut separator cs).2.map (separator :: ·)).getD [] = cs := by
  induction cs with
  | nil => simp [cut]
  | cons c cs ih =>
    by_cases h : c = separator
    · simp [cut, h]
    · simpa [cut, h] using ih

/-- A text without a separator before it is cut where the separator stands. -/
theorem cut_append_cons {separator : Char} {before : List Char} (h : separator ∉ before)
    (after : List Char) :
    cut separator (before ++ separator :: after) = (before, some after) := by
  induction before with
  | nil => simp [cut]
  | cons c cs ih =>
    simp only [List.mem_cons, not_or] at h
    simp [cut, Ne.symm h.1, ih h.2]

/-- A text without a separator is left whole. -/
theorem cut_of_not_mem {separator : Char} {cs : List Char} (h : separator ∉ cs) :
    cut separator cs = (cs, none) := by
  induction cs with
  | nil => simp [cut]
  | cons c cs ih =>
    simp only [List.mem_cons, not_or] at h
    simp [cut, Ne.symm h.1, ih h.2]

end Text
end Courier
