/-
Cutting a stream into lines.

What a stream brings does not depend on the pieces in which it is read (`told_eq_readAll`).  The
line feed and the carriage return are bytes of no character but themselves, so the bytes of a text
hold them only where the text does.
-/
import Courier.Stream.Lines

namespace Courier
namespace Stream

/-! ## Bytes of texts -/

/-- The bytes of a text. -/
def encode (s : String) : List UInt8 :=
  s.toUTF8.data.toList

theorem encode_eq_flatMap (s : String) : encode s = s.toList.flatMap String.utf8EncodeChar := by
  have hbytes : s.toList.utf8Encode = s.toByteArray := String.utf8Encode_toList
  unfold encode
  rw [String.toUTF8_eq_toByteArray, ← hbytes, List.utf8Encode, List.toList_data_toByteArray]

theorem fromUTF8?_encode (s : String) : String.fromUTF8? ⟨(encode s).toArray⟩ = some s := by
  have hbytes : (⟨(encode s).toArray⟩ : ByteArray) = s.toByteArray := rfl
  unfold String.fromUTF8?
  rw [hbytes, dif_pos s.isValidUTF8]
  rfl

/-- A byte below 0x80 stands for one character, and only for that. -/
theorem utf8EncodeChar_of_mem {b : UInt8} {c : Char} (hb : b ∈ String.utf8EncodeChar c)
    (hsmall : b.toNat < 0x80) : c = Char.ofNat b.toNat := by
  unfold String.utf8EncodeChar at hb
  dsimp only at hb
  split at hb
  · rename_i hascii
    have hvalue : b.toNat = c.toNat := by
      rw [List.mem_singleton.mp hb, UInt8.toNat_ofNat']
      exact Nat.mod_eq_of_lt (Nat.lt_of_le_of_lt hascii (by decide))
    rw [hvalue, Char.ofNat_toNat]
  -- Every byte of several that stand for one character has its highest bit set.
  · exfalso
    split at hb
    · simp only [List.mem_cons, List.not_mem_nil, or_false] at hb
      rcases hb with rfl | rfl <;> rw [UInt8.toNat_ofNat'] at hsmall <;> omega
    · split at hb
      · simp only [List.mem_cons, List.not_mem_nil, or_false] at hb
        rcases hb with rfl | rfl | rfl <;> rw [UInt8.toNat_ofNat'] at hsmall <;> omega
      · simp only [List.mem_cons, List.not_mem_nil, or_false] at hb
        rcases hb with rfl | rfl | rfl | rfl <;> rw [UInt8.toNat_ofNat'] at hsmall <;> omega

theorem lineFeed_mem_encode {s : String} (h : lineFeed ∈ encode s) : '\n' ∈ s.toList := by
  rw [encode_eq_flatMap] at h
  obtain ⟨c, hc, hb⟩ := List.mem_flatMap.mp h
  rw [utf8EncodeChar_of_mem hb (by decide)] at hc
  exact hc

theorem dropReturn_encode (s : String) :
    dropReturn (encode s) = encode s ∨ ∃ t, s = t ++ "\r" ∧ dropReturn (encode s) = encode t := by
  unfold dropReturn
  split
  · rename_i hreturn
    right
    have hne : s.toList ≠ [] := by
      intro hnil
      rw [encode_eq_flatMap, hnil] at hreturn
      cases hreturn
    obtain ⟨cs, c, hcs⟩ : ∃ cs c, s.toList = cs ++ [c] :=
      ⟨_, _, (List.dropLast_concat_getLast hne).symm⟩
    have hbytes : encode s = cs.flatMap String.utf8EncodeChar ++ String.utf8EncodeChar c := by
      rw [encode_eq_flatMap, hcs, List.flatMap_append, List.flatMap_singleton]
    have hlast : (String.utf8EncodeChar c).getLast? = some carriageReturn := by
      rw [hbytes, List.getLast?_append] at hreturn
      rwa [List.getLast?_eq_some_getLast String.utf8EncodeChar_ne_nil, Option.some_or,
        ← List.getLast?_eq_some_getLast] at hreturn
    have hc : c = '\r' := utf8EncodeChar_of_mem (List.mem_of_getLast? hlast) (by decide)
    subst hc
    refine ⟨String.ofList cs, ?_, ?_⟩
    · rw [← String.toList_inj, hcs, String.toList_append, String.toList_ofList]
      rfl
    · rw [hbytes, encode_eq_flatMap, String.toList_ofList]
      exact List.dropLast_concat
  · exact .inl rfl

theorem dropReturn_encode_append (s : String) :
    dropReturn (encode s ++ [carriageReturn]) = encode s := by
  simp [dropReturn]

/-! ## Lines -/

theorem cutLines_cons_lineFeed (bytes : List UInt8) :
    cutLines (lineFeed :: bytes) = ([] :: (cutLines bytes).1, (cutLines bytes).2) := by
  simp [cutLines]

theorem cutLines_line {line : List UInt8} (hline : lineFeed ∉ line) (bytes : List UInt8) :
    cutLines (line ++ lineFeed :: bytes) = (line :: (cutLines bytes).1, (cutLines bytes).2) := by
  induction line with
  | nil => exact cutLines_cons_lineFeed bytes
  | cons b line ih =>
    have hb : b ≠ lineFeed := fun heq => hline (heq ▸ List.mem_cons_self)
    have hrest := ih fun hmem => hline (List.mem_cons_of_mem b hmem)
    simp only [List.cons_append, cutLines, hrest, if_neg hb]

theorem cutLines_rest {line : List UInt8} (hline : lineFeed ∉ line) :
    cutLines line = ([], line) := by
  induction line with
  | nil => rfl
  | cons b line ih =>
    have hb : b ≠ lineFeed := fun heq => hline (heq ▸ List.mem_cons_self)
    have hrest := ih fun hmem => hline (List.mem_cons_of_mem b hmem)
    simp only [cutLines, hrest, if_neg hb]

theorem cutLines_lines {lines : List (List UInt8)} {rest : List UInt8}
    (hlines : ∀ line ∈ lines, lineFeed ∉ line) (hrest : lineFeed ∉ rest) :
    cutLines (lines.flatMap (· ++ [lineFeed]) ++ rest) = (lines, rest) := by
  induction lines with
  | nil => exact cutLines_rest hrest
  | cons line lines ih =>
    rw [List.flatMap_cons, List.append_assoc, List.append_assoc, List.singleton_append,
      cutLines_line (hlines line List.mem_cons_self),
      ih fun l hl => hlines l (List.mem_cons_of_mem line hl)]

/-- What follows the last line of a piece goes on in the next one. -/
theorem cutLines_append (piece next : List UInt8) :
    cutLines (piece ++ next) =
      ((cutLines piece).1 ++ (cutLines ((cutLines piece).2 ++ next)).1,
        (cutLines ((cutLines piece).2 ++ next)).2) := by
  induction piece with
  | nil => rfl
  | cons b piece ih =>
    rw [List.cons_append]
    by_cases hb : b = lineFeed
    · subst hb
      rw [cutLines_cons_lineFeed, cutLines_cons_lineFeed, ih]
      rfl
    · rcases hpiece : cutLines piece with ⟨_ | ⟨line, lines⟩, rest⟩ <;> rw [hpiece] at ih
      · simp only [cutLines, hpiece, ih, if_neg hb, List.nil_append, List.cons_append]
      · simp only [cutLines, hpiece, ih, if_neg hb, List.cons_append]

/-! ## Pieces -/

theorem arrivals_append (first second : List (List UInt8)) :
    arrivals (first ++ second) =
      if .closed ∈ arrivals first then arrivals first
      else arrivals first ++ arrivals second := by
  induction first with
  | nil => rfl
  | cons line first ih =>
    rw [List.cons_append, arrivals, arrivals]
    split
    · exact ih
    · rfl
    · rw [ih]
      split <;> simp_all

namespace Reader

/-- What a reader tells of the rest of a stream that it reads piece by piece. -/
def told (reader : Reader) : List (List UInt8) → List Arrival
  | [] => reader.finish.1
  | piece :: pieces => (reader.feed piece).1 ++ (reader.feed piece).2.told pieces

theorem told_of_closed {reader : Reader} (hclosed : reader.isOpen = false)
    (pieces : List (List UInt8)) : reader.told pieces = [] := by
  induction pieces with
  | nil => simp [told, finish, hclosed]
  | cons piece pieces ih => simp [told, feed, hclosed, ih]

theorem told_append (reader : Reader) (piece next : List UInt8) (pieces : List (List UInt8)) :
    reader.told (piece :: next :: pieces) = reader.told ((piece ++ next) :: pieces) := by
  cases hopen : reader.isOpen with
  | false => rw [told_of_closed hopen, told_of_closed hopen]
  | true =>
    have hcut := cutLines_append (reader.pending ++ piece) next
    rw [List.append_assoc] at hcut
    simp only [told, feed, hopen, if_true, hcut, List.map_append, arrivals_append]
    by_cases hclosed : .closed ∈ arrivals ((cutLines (reader.pending ++ piece)).1.map dropReturn)
    · simp only [hclosed, if_true, decide_not, decide_true, Bool.not_true]
      rw [told_of_closed rfl, told_of_closed rfl]
      simp
    · simp [hclosed, List.append_assoc]

/-- What a stream brings does not depend on the pieces in which it is read. -/
theorem told_eq_readAll (pieces : List (List UInt8)) :
    ({} : Reader).told pieces = readAll pieces.flatten := by
  have hall : ∀ (reader : Reader) (piece : List UInt8) (pieces : List (List UInt8)),
      reader.told (piece :: pieces) = reader.told [piece ++ pieces.flatten] := by
    intro reader piece pieces
    induction pieces generalizing piece with
    | nil => rw [List.flatten_nil, List.append_nil]
    | cons next pieces ih => rw [told_append, ih, List.append_assoc, List.flatten_cons]
  cases pieces with
  | nil => rfl
  | cons piece pieces => exact hall {} piece pieces

end Reader
end Stream
end Courier
