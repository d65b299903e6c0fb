/-
The characters of a JSON text.

No text of a tree holds a line break or another character below U+0020, whatever its strings hold:
strings escape them, and everything else is made of digits and marks.
-/
import Courier.Json.Printer

namespace Courier

/-- Whether no character is below U+0020. -/
def Printable (cs : List Char) : Prop :=
  ∀ c ∈ cs, 0x20 ≤ c.toNat

instance (cs : List Char) : Decidable (Printable cs) :=
  decidable_of_iff (cs.all fun c => 0x20 ≤ c.toNat) (by simp [Printable])

namespace Printable

@[simp] theorem nil : Printable [] :=
  nofun

@[simp] theorem cons_iff {c : Char} {cs : List Char} :
    Printable (c :: cs) ↔ 0x20 ≤ c.toNat ∧ Printable cs :=
  List.forall_mem_cons

@[simp] theorem append_iff {cs ds : List Char} :
    Printable (cs ++ ds) ↔ Printable cs ∧ Printable ds :=
  List.forall_mem_append

theorem of_subset {cs ds : List Char} (hsubset : ∀ c ∈ cs, c ∈ ds) (hds : Printable ds) :
    Printable cs :=
  fun c hc => hds c (hsubset c hc)

theorem of_isDigit {cs : List Char} (hdigits : ∀ c ∈ cs, c.isDigit = true) : Printable cs := by
  intro c hc
  have hdigit := hdigits c hc
  simp only [Char.isDigit, Bool.and_eq_true, decide_eq_true_eq, ge_iff_le,
    UInt32.le_iff_toNat_le] at hdigit
  exact Nat.le_trans (by decide) hdigit.1

theorem replicate (n : Nat) : Printable (List.replicate n '0') := by
  intro c hc
  rw [List.eq_of_mem_replicate hc]
  decide

end Printable

/-! ## Strings -/

theorem printable_hexDigit : ∀ n < 16, 0x20 ≤ (hexDigit n).toNat := by
  decide

theorem printable_escaped (c : Char) : Printable (escaped c) := by
  unfold escaped
  iterate 7
    split
    · decide
  split
  · rename_i hcontrol
    have hhigh := printable_hexDigit (c.toNat / 16) (by omega)
    have hlow := printable_hexDigit (c.toNat % 16) (by omega)
    simp [hhigh, hlow]
  · rename_i hcontrol
    simpa using hcontrol

theorem printable_quoted (s : String) : Printable (quoted s) := by
  unfold quoted
  simp only [Printable.cons_iff, Printable.append_iff, Printable.nil, and_true]
  refine ⟨by decide, ?_, by decide⟩
  intro c hc
  obtain ⟨d, _, hd⟩ := List.mem_flatMap.mp hc
  exact printable_escaped d c hd

/-! ## Numbers -/

theorem printable_toDigits (n : Nat) : Printable (Nat.toDigits 10 n) :=
  .of_isDigit fun _ hc => Nat.isDigit_of_mem_toDigits (by decide) (by decide) hc

theorem printable_intChars (n : Int) : Printable (intChars n) := by
  unfold intChars
  split
  · exact Printable.cons_iff.mpr ⟨by decide, printable_toDigits _⟩
  · exact printable_toDigits _

namespace Magnitude

theorem printable_shortestWith? {x : Magnitude} {count : Nat} {decimal : Decimal}
    (h : x.shortestWith? count = some decimal) : Printable decimal.digits := by
  unfold shortestWith? at h
  obtain ⟨digits, _, rfl⟩ := Option.map_eq_some_iff.mp h
  refine (printable_toDigits digits).of_subset fun c hc => ?_
  have hmem := List.dropWhile_subset _ (List.mem_reverse.mp hc)
  exact List.mem_reverse.mp hmem

theorem printable_shortest (x : Magnitude) : Printable x.shortest.digits := by
  have hzero : Printable ['0'] := by decide
  unfold shortest
  split
  · exact hzero
  · cases hfound : (List.range 17).findSome? fun i => x.shortestWith? (i + 1) with
    | none => exact hzero
    | some decimal =>
      obtain ⟨i, _, hdecimal⟩ := List.exists_of_findSome?_eq_some hfound
      exact printable_shortestWith? hdecimal

end Magnitude

namespace Decimal

variable {x : Decimal} (hdigits : Printable x.digits)
include hdigits

theorem printable_positional : Printable x.positional := by
  have htake : ∀ n, Printable (x.digits.take n) :=
    fun n => hdigits.of_subset fun _ hc => List.mem_of_mem_take hc
  have hdrop : ∀ n, Printable (x.digits.drop n) :=
    fun n => hdigits.of_subset fun _ hc => List.mem_of_mem_drop hc
  unfold positional
  simp only [apply_ite Printable, Printable.cons_iff, Printable.append_iff]
  split
  · exact ⟨by decide, by decide, .replicate _, hdigits⟩
  · split
    · exact ⟨⟨hdigits, .replicate _⟩, by decide, by decide, .nil⟩
    · exact ⟨htake _, by decide, hdrop _⟩

theorem printable_scientific : Printable x.scientific := by
  have hsign : 0x20 ≤ (if x.lead < 0 then '-' else '+').toNat := by split <;> decide
  unfold scientific
  simp only [Printable.append_iff, Printable.cons_iff]
  refine ⟨?_, by decide, hsign, printable_toDigits _⟩
  split
  · decide
  · rename_i heq
    rwa [heq] at hdigits
  · rename_i heq
    rw [heq, Printable.cons_iff] at hdigits
    simp only [Printable.cons_iff]
    exact ⟨hdigits.1, by decide, hdigits.2⟩

end Decimal

theorem Number.printable_chars (n : Number) : Printable n.chars := by
  cases n with
  | whole n => exact printable_intChars n
  | real x =>
    have hdigits := x.magnitude.printable_shortest
    have hsize : Printable (if positionalPlaces.1 ≤ x.magnitude.shortest.lead ∧
        x.magnitude.shortest.lead ≤ positionalPlaces.2 then x.magnitude.shortest.positional
        else x.magnitude.shortest.scientific) := by
      split
      · exact Decimal.printable_positional hdigits
      · exact Decimal.printable_scientific hdigits
    show Printable (if x.negative then '-' :: _ else _)
    split
    · exact Printable.cons_iff.mpr ⟨by decide, hsize⟩
    · exact hsize

/-! ## Values -/

namespace Tree

mutual

/-- The text of a tree holds no character below U+0020, whatever its strings and keys hold. -/
theorem printable_chars : ∀ t : Tree, Printable t.chars
  | null | bool true | bool false | hole | array [] | object [] => by decide
  | number n => n.printable_chars
  | string s => printable_quoted s
  | array (t :: ts) => by
    simp [chars, printable_chars t, printable_moreItems ts]
  | object ((k, t) :: ts) => by
    simp [chars, printable_chars t, printable_moreMembers ts, printable_quoted k]

theorem printable_moreItems : ∀ ts : List Tree, Printable (moreItems ts)
  | [] => by decide
  | t :: ts => by
    simp [moreItems, printable_chars t, printable_moreItems ts]

theorem printable_moreMembers : ∀ members : List (String × Tree), Printable (moreMembers members)
  | [] => by decide
  | (k, t) :: ts => by
    simp [moreMembers, printable_chars t, printable_moreMembers ts, printable_quoted k]

end

end Tree
end Courier
