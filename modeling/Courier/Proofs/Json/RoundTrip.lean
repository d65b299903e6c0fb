/-
What is written for a JSON tree is read back as that tree, and nothing that is read nests too
deeply.

Reading follows the text of a tree from its first character on, so the statements keep whatever
stands after the tree.  Fuel is counted in characters: twice as much as the text is long is enough,
for of two nested calls at least one takes a character.
-/
import Courier.Proofs.Json.Nesting
import Courier.Proofs.Json.Numerals
import Courier.Proofs.Json.Strings

namespace Courier

/-! ## The first character of a text -/

/-- Whether a character neither is skipped nor closes an array or an object. -/
def StartsValue (c : Char) : Prop :=
  c ≠ ' ' ∧ c ≠ '\t' ∧ c ≠ '\n' ∧ c ≠ '\r' ∧ c ≠ ']' ∧ c ≠ '}'

instance (c : Char) : Decidable (StartsValue c) :=
  inferInstanceAs (Decidable (_ ∧ _))

theorem StartsValue.skipSpace_cons {c : Char} (h : StartsValue c) (cs : List Char) :
    skipSpace (c :: cs) = c :: cs := by
  obtain ⟨hspace, htab, hnewline, hreturn, -, -⟩ := h
  rw [skipSpace, if_neg (by simp [hspace, htab, hnewline, hreturn])]

theorem startsValue_of_isDigit {c : Char} (h : c.isDigit = true) : StartsValue c := by
  have hne : ∀ d : Char, d.isDigit = false → c ≠ d := fun _ => ne_of_holds h
  exact ⟨hne _ rfl, hne _ rfl, hne _ rfl, hne _ rfl, hne _ rfl, hne _ rfl⟩

/-- The first character of a numeral. -/
theorem intChars_eq_cons (n : Int) :
    ∃ c cs, intChars n = c :: cs ∧ (c.isDigit = true ∨ c = '-') := by
  unfold intChars
  by_cases hneg : n < 0
  · exact ⟨'-', _, if_pos hneg, .inr rfl⟩
  · rw [if_neg hneg]
    cases hdigits : Nat.toDigits 10 n.natAbs with
    | nil => exact absurd hdigits Nat.toDigits_ne_nil
    | cons c cs =>
      exact ⟨c, cs, rfl, .inl (isDigit_of_mem_digits (hdigits ▸ List.mem_cons_self))⟩

namespace Tree

/-- The text of a tree starts with a character that a reader takes for the start of a value. -/
theorem chars_eq_cons : ∀ {t : Tree}, t.Exact → ∃ c cs, t.chars = c :: cs ∧ StartsValue c
  | null, _ => ⟨'n', _, rfl, by decide⟩
  | bool true, _ => ⟨'t', _, rfl, by decide⟩
  | bool false, _ => ⟨'f', _, rfl, by decide⟩
  | string _, _ => ⟨'"', _, rfl, by decide⟩
  | number (.real _), h => h.elim
  | number (.whole n), _ => by
    obtain ⟨c, cs, heq, hc⟩ := intChars_eq_cons n
    refine ⟨c, cs, by rw [chars, Number.chars, heq], ?_⟩
    rcases hc with hdigit | rfl
    · exact startsValue_of_isDigit hdigit
    · decide
  | array [], _ => ⟨'[', _, rfl, by decide⟩
  | array (_ :: _), _ => ⟨'[', _, rfl, by decide⟩
  | object [], _ => ⟨'{', _, rfl, by decide⟩
  | object ((_, _) :: _), _ => ⟨'{', _, rfl, by decide⟩
  | hole, h => h.elim

/-- Nothing that stands before a value or closes an array or an object goes on with a numeral. -/
theorem endsNumeral_moreItems (ts : List Tree) (rest : List Char) :
    EndsNumeral (moreItems ts ++ rest) := by
  cases ts with
  | nil => exact endsNumeral_cons (by decide) (by decide) (by decide) (by decide) _
  | cons t ts => exact endsNumeral_cons (by decide) (by decide) (by decide) (by decide) _

theorem endsNumeral_moreMembers (members : List (String × Tree)) (rest : List Char) :
    EndsNumeral (moreMembers members ++ rest) := by
  cases members with
  | nil => exact endsNumeral_cons (by decide) (by decide) (by decide) (by decide) _
  | cons member members =>
    exact endsNumeral_cons (by decide) (by decide) (by decide) (by decide) _

/-! ## Numerals and strings among values -/

theorem readValue_numeral {c : Char} {cs rest : List Char} {n : Number}
    (hc : c.isDigit = true ∨ c = '-') (hread : readNumber (c :: cs) = some (some n, rest))
    (fuel room : Nat) : readValue (fuel + 1) room (c :: cs) = some (number n, rest) := by
  have hne : ∀ d : Char, d.isDigit = false → d ≠ '-' → c ≠ d := by
    rintro d hdigit hminus rfl
    rcases hc with hc | hc
    · rw [hc] at hdigit
      cases hdigit
    · exact hminus hc
  have hskip : skipSpace (c :: cs) = c :: cs := by
    rw [skipSpace, if_neg]
    rintro (h | h | h | h)
    all_goals exact absurd h (hne _ (by decide) (by decide))
  rw [readValue.eq_def]
  simp only [hskip]
  split <;> rename_i heq
  · exact absurd (List.cons.inj heq).1 (hne _ (by decide) (by decide))
  · exact absurd (List.cons.inj heq).1 (hne _ (by decide) (by decide))
  · exact absurd (List.cons.inj heq).1 (hne _ (by decide) (by decide))
  · exact absurd (List.cons.inj heq).1 (hne _ (by decide) (by decide))
  · exact absurd (List.cons.inj heq).1 (hne _ (by decide) (by decide))
  · exact absurd (List.cons.inj heq).1 (hne _ (by decide) (by decide))
  · rw [hread]

theorem quoted_append (s : String) (rest : List Char) :
    quoted s ++ rest = '"' :: (s.toList.flatMap escaped ++ '"' :: rest) := by
  simp only [quoted, List.cons_append, List.append_assoc, List.nil_append]

/-! ## Steps of a reader -/

theorem readValue_array {c : Char} {cs rest : List Char} {items : List Tree} {fuel room : Nat}
    (hc : StartsValue c) (hroom : room ≠ 0)
    (hitems : readItems fuel (room - 1) (c :: cs) = some (items, rest)) :
    readValue (fuel + 1) room ('[' :: c :: cs) = some (array items, rest) := by
  have hskip := hc.skipSpace_cons cs
  obtain ⟨-, -, -, -, hclose, -⟩ := hc
  have hopen : skipSpace ('[' :: c :: cs) = '[' :: c :: cs := by simp [skipSpace]
  rw [readValue, hopen]
  simp only [hskip]
  split
  · rename_i heq
    exact absurd (List.cons.inj heq).1 hclose
  · rw [hitems]
    simp [within, hroom]

theorem readValue_object {cs rest : List Char} {members : List (String × Tree)} {fuel room : Nat}
    (hroom : room ≠ 0)
    (hmembers : readMembers fuel (room - 1) ('"' :: cs) = some (some members, rest)) :
    readValue (fuel + 1) room ('{' :: '"' :: cs) = some (object members, rest) := by
  simp [readValue, skipSpace, hmembers, within, hroom]

theorem readItems_last {t : Tree} {cs rest : List Char} {fuel room : Nat}
    (hvalue : readValue fuel room cs = some (t, ']' :: rest)) :
    readItems (fuel + 1) room cs = some ([t], rest) := by
  simp [readItems, hvalue, skipSpace]

theorem readItems_cons {t : Tree} {ts : List Tree} {cs more rest : List Char} {fuel room : Nat}
    (hvalue : readValue fuel room cs = some (t, ',' :: more))
    (hitems : readItems fuel room more = some (ts, rest)) :
    readItems (fuel + 1) room cs = some (t :: ts, rest) := by
  simp [readItems, hvalue, skipSpace, hitems]

theorem readMembers_last {k : String} {t : Tree} {cs rest : List Char} {fuel room : Nat}
    (hvalue : readValue fuel room cs = some (t, '}' :: rest)) :
    readMembers (fuel + 1) room (quoted k ++ ':' :: cs) = some (some [(k, t)], rest) := by
  rw [quoted_append]
  simp [readMembers, skipSpace, readString_flatMap_escaped, hvalue]

theorem readMembers_cons {k : String} {t : Tree} {ts : List (String × Tree)}
    {cs more rest : List Char} {fuel room : Nat}
    (hvalue : readValue fuel room cs = some (t, ',' :: more))
    (hmembers : readMembers fuel room more = some (some ts, rest)) :
    readMembers (fuel + 1) room (quoted k ++ ':' :: cs) = some (some ((k, t) :: ts), rest) := by
  rw [quoted_append]
  simp [readMembers, skipSpace, readString_flatMap_escaped, hvalue, hmembers]

/-! ## Values -/

/- The induction is on the fuel, which every call takes from, while the cases are those of the tree.
The length of a text is counted twice: once for a value and once for the list of items or members
that it starts. -/
mutual

theorem readValue_chars : ∀ {t : Tree} {fuel room : Nat} {rest : List Char}, t.Exact →
    t.nesting ≤ room → 2 * t.chars.length ≤ fuel → EndsNumeral rest →
      readValue fuel room (t.chars ++ rest) = some (t, rest)
  | null, fuel + 1, _, _, _, _, _, _ | bool true, fuel + 1, _, _, _, _, _, _
  | bool false, fuel + 1, _, _, _, _, _, _ => by
    simp [readValue, chars, skipSpace]
  | number (.whole n), fuel + 1, _, rest, hexact, _, _, hrest => by
    obtain ⟨c, cs, hcons, hc⟩ := intChars_eq_cons n
    have hread : readNumber (c :: (cs ++ rest)) = some (some (.whole n), rest) := by
      rw [← List.cons_append, ← hcons]
      exact readNumber_intChars hexact hrest
    rw [chars, Number.chars, hcons, List.cons_append]
    exact readValue_numeral hc hread _ _
  | number (.real _), _, _, _, hexact, _, _, _ => hexact.elim
  | string s, fuel + 1, _, rest, _, _, _, _ => by
    rw [chars, quoted_append]
    simp [readValue, skipSpace, readString_flatMap_escaped]
  | array [], fuel + 1, room, _, _, hroom, _, _ => by
    have hroom' : room ≠ 0 := Nat.ne_of_gt hroom
    simp [readValue, chars, skipSpace, within, hroom']
  | array (t :: ts), fuel + 1, room, rest, hexact, hroom, hfuel, _ => by
    rw [nesting] at hroom
    rw [chars, List.length_cons] at hfuel
    have hitems := @readItems_chars t ts fuel (room - 1) rest hexact (by omega) (by omega)
    obtain ⟨c, cs, hcons, hc⟩ := chars_eq_cons hexact.1
    rw [hcons, List.cons_append, List.cons_append] at hitems
    rw [chars, hcons, List.cons_append, List.cons_append, List.cons_append]
    exact readValue_array hc (by omega) hitems
  | object [], fuel + 1, room, _, _, hroom, _, _ => by
    have hroom' : room ≠ 0 := Nat.ne_of_gt hroom
    simp [readValue, chars, skipSpace, within, hroom']
  | object ((k, t) :: ts), fuel + 1, room, rest, hexact, hroom, hfuel, _ => by
    rw [nesting] at hroom
    rw [chars, List.length_cons] at hfuel
    have hmembers := @readMembers_chars k t ts fuel (room - 1) rest hexact (by omega) (by omega)
    rw [List.append_assoc, quoted_append] at hmembers
    rw [chars, List.cons_append, List.append_assoc, quoted_append]
    exact readValue_object (by omega) hmembers
  | hole, _, _, _, hexact, _, _, _ => hexact.elim
  | null, 0, _, _, _, _, hfuel, _ | bool true, 0, _, _, _, _, hfuel, _
  | bool false, 0, _, _, _, _, hfuel, _ | string _, 0, _, _, _, _, hfuel, _
  | array [], 0, _, _, _, _, hfuel, _ | array (_ :: _), 0, _, _, _, _, hfuel, _
  | object [], 0, _, _, _, _, hfuel, _ | object (_ :: _), 0, _, _, _, _, hfuel, _ => by
    simp [chars, quoted] at hfuel
  | number (.whole n), 0, _, _, _, _, hfuel, _ => by
    obtain ⟨c, cs, hcons, -⟩ := intChars_eq_cons n
    simp [chars, Number.chars, hcons] at hfuel

theorem readItems_chars : ∀ {t : Tree} {ts : List Tree} {fuel room : Nat} {rest : List Char},
    ItemsExact (t :: ts) → itemsNesting (t :: ts) ≤ room →
      2 * (t.chars ++ moreItems ts).length ≤ fuel →
        readItems fuel room (t.chars ++ moreItems ts ++ rest) = some (t :: ts, rest)
  | _, [], 0, _, _, _, _, hfuel | _, _ :: _, 0, _, _, _, _, hfuel => by
    simp [moreItems] at hfuel
  | t, [], fuel + 1, room, rest, hexact, hroom, hfuel => by
    rw [itemsNesting] at hroom
    rw [List.length_append, moreItems, List.length_singleton] at hfuel
    have hvalue := @readValue_chars t fuel room _ hexact.1 (by omega) (by omega)
      (endsNumeral_moreItems [] rest)
    rw [List.append_assoc]
    exact readItems_last hvalue
  | t, u :: us, fuel + 1, room, rest, hexact, hroom, hfuel => by
    rw [itemsNesting] at hroom
    rw [List.length_append, moreItems, List.length_cons] at hfuel
    have hvalue := @readValue_chars t fuel room _ hexact.1 (by omega) (by omega)
      (endsNumeral_moreItems (u :: us) rest)
    have hitems := @readItems_chars u us fuel room rest hexact.2 (by omega) (by omega)
    rw [List.append_assoc]
    exact readItems_cons hvalue hitems

theorem readMembers_chars : ∀ {k : String} {t : Tree} {ts : List (String × Tree)}
    {fuel room : Nat} {rest : List Char}, MembersExact ((k, t) :: ts) →
      membersNesting ((k, t) :: ts) ≤ room →
      2 * (quoted k ++ ':' :: (t.chars ++ moreMembers ts)).length ≤ fuel →
        readMembers fuel room (quoted k ++ ':' :: (t.chars ++ moreMembers ts) ++ rest) =
          some (some ((k, t) :: ts), rest)
  | _, _, _, 0, _, _, _, _, hfuel => by
    rw [List.length_append, List.length_cons] at hfuel
    omega
  | k, t, [], fuel + 1, room, rest, hexact, hroom, hfuel => by
    rw [membersNesting] at hroom
    rw [List.length_append, List.length_cons, List.length_append] at hfuel
    have hvalue := @readValue_chars t fuel room _ hexact.1 (by omega) (by omega)
      (endsNumeral_moreMembers [] rest)
    rw [List.append_assoc, List.cons_append, List.append_assoc]
    exact readMembers_last hvalue
  | k, t, (l, u) :: us, fuel + 1, room, rest, hexact, hroom, hfuel => by
    rw [membersNesting] at hroom
    rw [List.length_append, List.length_cons, List.length_append, moreMembers,
      List.length_cons] at hfuel
    have hvalue := @readValue_chars t fuel room _ hexact.1 (by omega) (by omega)
      (endsNumeral_moreMembers ((l, u) :: us) rest)
    have hmembers := @readMembers_chars l u us fuel room rest hexact.2 (by omega) (by omega)
    rw [List.append_assoc, List.cons_append, List.append_assoc]
    exact readMembers_cons hvalue hmembers

end

/-- A tree is read back from its text, whatever stands after it. -/
theorem read?_chars {t : Tree} (hexact : t.Exact) (hnesting : t.nesting ≤ maxNesting)
    {rest : List Char} (hrest : EndsNumeral rest) :
    read? (t.chars ++ rest) = some (t, rest) := by
  rw [read?]
  exact readValue_chars hexact hnesting (by rw [List.length_append]; omega) hrest

/-- The text of a tree is read to its end. -/
theorem read?_text {t : Tree} (hexact : t.Exact) (hnesting : t.nesting ≤ maxNesting) :
    read? t.text.toList = some (t, []) := by
  have hread := read?_chars hexact hnesting endsNumeral_nil
  rwa [List.append_nil, ← String.toList_ofList (l := t.chars)] at hread

/-! ## What is read nests within bounds -/

theorem nesting_within_le {room : Nat} {t : Tree} (hwhole : (within room t).isWhole = true)
    (h : t.isWhole = true → t.nesting ≤ room - 1 + 1) : (within room t).nesting ≤ room := by
  unfold within at hwhole ⊢
  by_cases hroom : room = 0
  · rw [if_pos hroom] at hwhole
    cases hwhole
  · rw [if_neg hroom] at hwhole ⊢
    have := h hwhole
    omega

mutual

theorem nesting_le_of_readValue : ∀ {fuel room : Nat} {cs rest : List Char} {t : Tree},
    readValue fuel room cs = some (t, rest) → t.isWhole = true → t.nesting ≤ room
  | 0, _, _, _, _, h, _ => by simp [readValue] at h
  | fuel + 1, room, cs, rest, t, h, hwhole => by
    rw [readValue.eq_def] at h
    simp only at h
    split at h
    case h_1 | h_2 | h_3 =>
      cases h
      exact Nat.zero_le _
    case h_4 =>
      split at h <;> cases h
      · exact Nat.zero_le _
      · cases hwhole
    case h_5 =>
      split at h
      · cases h
        exact nesting_within_le hwhole fun _ => Nat.le_add_left _ _
      · split at h <;> cases h
        rename_i hitems
        exact nesting_within_le hwhole fun hwhole =>
          Nat.succ_le_succ (itemsNesting_le_of_readItems hitems hwhole)
    case h_6 =>
      split at h
      · cases h
        exact nesting_within_le hwhole fun _ => Nat.le_add_left _ _
      · split at h <;> cases h
        · rename_i hmembers
          exact nesting_within_le hwhole fun hwhole =>
            Nat.succ_le_succ (membersNesting_le_of_readMembers hmembers hwhole)
        · cases hwhole
    case h_7 =>
      split at h <;> cases h
      · exact Nat.zero_le _
      · cases hwhole

theorem itemsNesting_le_of_readItems : ∀ {fuel room : Nat} {cs rest : List Char} {ts : List Tree},
    readItems fuel room cs = some (ts, rest) → areWhole ts = true → itemsNesting ts ≤ room
  | 0, _, _, _, _, h, _ => by simp [readItems] at h
  | fuel + 1, room, cs, rest, t, h, hwhole => by
    rw [readItems] at h
    split at h
    · cases h
    · rename_i hvalue
      split at h
      · cases h
        rw [areWhole, areWhole, Bool.and_true] at hwhole
        have hhead := nesting_le_of_readValue hvalue hwhole
        simpa [itemsNesting] using hhead
      · split at h <;> cases h
        rename_i hitems
        rw [areWhole, Bool.and_eq_true] at hwhole
        have hhead := nesting_le_of_readValue hvalue hwhole.1
        have htail := itemsNesting_le_of_readItems hitems hwhole.2
        exact Nat.max_le.mpr ⟨hhead, htail⟩
      · cases h

theorem membersNesting_le_of_readMembers : ∀ {fuel room : Nat} {cs rest : List Char}
    {ts : List (String × Tree)}, readMembers fuel room cs = some (some ts, rest) →
      membersAreWhole ts = true → membersNesting ts ≤ room
  | 0, _, _, _, _, h, _ => by simp [readMembers] at h
  | fuel + 1, room, cs, rest, t, h, hwhole => by
    rw [readMembers] at h
    split at h <;> try cases h
    split at h <;> try cases h
    split at h <;> try cases h
    split at h <;> try cases h
    rename_i hvalue
    split at h
    · rw [Option.some.injEq, Prod.mk.injEq, Option.map_eq_some_iff] at h
      obtain ⟨⟨key, -, rfl⟩, -⟩ := h
      rw [membersAreWhole, membersAreWhole, Bool.and_true] at hwhole
      have hhead := nesting_le_of_readValue hvalue hwhole
      simpa [membersNesting] using hhead
    · split at h
      · cases h
      · rename_i hmembers
        simp only [Option.some.injEq, Prod.mk.injEq, Option.bind_eq_bind,
          Option.bind_eq_some_iff] at h
        obtain ⟨⟨key, -, members, rfl, rfl⟩, -⟩ := h
        rw [membersAreWhole, Bool.and_eq_true] at hwhole
        have hhead := nesting_le_of_readValue hvalue hwhole.1
        have htail := membersNesting_le_of_readMembers hmembers hwhole.2
        exact Nat.max_le.mpr ⟨hhead, htail⟩
    · cases h

end

/-- A tree without holes that was read is nested as deep as a text may be. -/
theorem nesting_le_of_read? {cs rest : List Char} {t : Tree} (h : read? cs = some (t, rest))
    (hwhole : t.isWhole = true) : t.nesting ≤ maxNesting :=
  nesting_le_of_readValue h hwhole

end Tree
end Courier
