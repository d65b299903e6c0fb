/-
Members of objects: keys with values.

A text may list members in any order and repeat a key.  A value holds them in increasing order of
their keys, each key once, so that equal contents are equal lists.  `Members.ofList` goes from the
first to the second, the last of several members with one key standing.  Whatever order a text lists
the members of a value in, it holds that value (`Members.ofList_of_perm`).  Keys are ordered as
strings are, by code points, which is also the order of their UTF-8 bytes.
-/

namespace Courier
namespace Members

variable {α β : Type}

/-- Members in strictly increasing order of their keys. -/
def Ordered (members : List (String × α)) : Prop :=
  members.Pairwise fun a b => a.1 < b.1

instance (members : List (String × α)) : Decidable (Ordered members) :=
  inferInstanceAs (Decidable (members.Pairwise fun a b => a.1 < b.1))

/-- Sets the value of a key among members in order. -/
def put (key : String) (value : α) : List (String × α) → List (String × α)
  | [] => [(key, value)]
  | (k, v) :: rest =>
    if key < k then (key, value) :: (k, v) :: rest
    else if k < key then (k, v) :: put key value rest
    else (key, value) :: rest

/-- The value of a key. -/
def get? (key : String) : List (String × α) → Option α
  | [] => none
  | (k, v) :: rest => if k = key then some v else get? key rest

/-- Puts members into order, the last one with a key standing. -/
def ofList (members : List (String × α)) : List (String × α) :=
  members.foldl (fun done member => put member.1 member.2 done) []

/-- Two keys neither of which is the smaller are one key. -/
theorem eq_of_not_lt {a b : String} (hab : ¬a < b) (hba : ¬b < a) : a = b :=
  String.le_antisymm (String.not_lt.mp hba) (String.not_lt.mp hab)

theorem mem_put {key k : String} {value v : α} {members : List (String × α)}
    (h : (k, v) ∈ put key value members) :
    (k, v) = (key, value) ∨ (k, v) ∈ members := by
  induction members with
  | nil => simpa [put] using h
  | cons member rest ih =>
    obtain ⟨k', v'⟩ := member
    simp only [put] at h
    split at h
    · simpa using h
    · split at h
      · rcases List.mem_cons.mp h with h | h
        · exact .inr (by simp [h])
        · rcases ih h with h | h
          · exact .inl h
          · exact .inr (by simp [h])
      · rcases List.mem_cons.mp h with h | h
        · exact .inl h
        · exact .inr (by simp [h])

/-- Setting a value keeps the order. -/
theorem ordered_put (key : String) (value : α) {members : List (String × α)}
    (h : Ordered members) : Ordered (put key value members) := by
  induction members with
  | nil => simp [put, Ordered]
  | cons member rest ih =>
    obtain ⟨k, v⟩ := member
    obtain ⟨hk, hrest⟩ := List.pairwise_cons.mp h
    simp only [put]
    split
    · rename_i hlt
      refine List.pairwise_cons.mpr ⟨?_, h⟩
      intro m hm
      rcases List.mem_cons.mp hm with rfl | hm
      · exact hlt
      · exact String.lt_trans hlt (hk m hm)
    · split
      · rename_i hlt
        refine List.pairwise_cons.mpr ⟨?_, ih hrest⟩
        rintro ⟨k', v'⟩ hm
        rcases mem_put hm with h' | h'
        · cases h'
          exact hlt
        · exact hk _ h'
      · rename_i hnot hnot'
        cases eq_of_not_lt hnot hnot'
        exact List.pairwise_cons.mpr ⟨hk, hrest⟩

theorem ordered_foldl_put (members : List (String × α)) {done : List (String × α)}
    (h : Ordered done) :
    Ordered (members.foldl (fun done member => put member.1 member.2 done) done) := by
  induction members generalizing done with
  | nil => exact h
  | cons member rest ih => exact ih (ordered_put _ _ h)

theorem ordered_ofList (members : List (String × α)) : Ordered (ofList members) :=
  ordered_foldl_put members List.Pairwise.nil

/-- A key that is not there yet comes to those that are. -/
theorem put_perm {key : String} {value : α} {members : List (String × α)}
    (h : ∀ member ∈ members, member.1 ≠ key) :
    (put key value members).Perm ((key, value) :: members) := by
  induction members with
  | nil => exact .rfl
  | cons member rest ih =>
    obtain ⟨k, v⟩ := member
    have hk : k ≠ key := h (k, v) List.mem_cons_self
    have hrest := ih fun m hm => h m (List.mem_cons_of_mem _ hm)
    simp only [put]
    split
    · exact .rfl
    · split
      · exact (hrest.cons _).trans (.swap ..)
      · rename_i hnot hnot'
        exact absurd (eq_of_not_lt hnot' hnot) hk

theorem foldl_put_perm {members done : List (String × α)}
    (h : (done ++ members).Pairwise fun a b => a.1 ≠ b.1) :
    (members.foldl (fun done member => put member.1 member.2 done) done).Perm
      (done ++ members) := by
  induction members generalizing done with
  | nil => exact .of_eq (List.append_nil done).symm
  | cons member rest ih =>
    have hnew : ∀ m ∈ done, m.1 ≠ member.1 := fun m hm =>
      (List.pairwise_append.mp h).2.2 m hm member List.mem_cons_self
    have hput : (put member.1 member.2 done ++ rest).Perm (done ++ member :: rest) :=
      ((put_perm hnew).append_right rest).trans List.perm_middle.symm
    exact (ih ((hput.pairwise_iff Ne.symm).mpr h)).trans hput

/-- Members in order are what any listing of them is put into. -/
theorem ofList_of_perm {listed members : List (String × α)} (hordered : Ordered members)
    (h : listed.Perm members) : ofList listed = members := by
  have hne : ∀ {a b : String × α}, a.1 < b.1 → a.1 ≠ b.1 := fun hlt heq =>
    String.lt_irrefl _ (heq ▸ hlt)
  have hdistinct : listed.Pairwise fun a b => a.1 ≠ b.1 :=
    (h.pairwise_iff Ne.symm).mpr (hordered.imp hne)
  refine List.Perm.eq_of_pairwise (fun a b _ _ hab hba => ?_) (ordered_ofList listed) hordered
    ((foldl_put_perm hdistinct).trans h)
  exact absurd hab (String.lt_asymm hba)

/-- Members in order stay as they are. -/
theorem ofList_of_ordered {members : List (String × α)} (h : Ordered members) :
    ofList members = members :=
  ofList_of_perm h .rfl

end Members

/-- Texts under keys, each key once. -/
structure Metadata where
  entries : List (String × String)
  ordered : Members.Ordered entries

namespace Metadata

instance : DecidableEq Metadata := fun a b =>
  match a, b with
  | ⟨entries, _⟩, ⟨entries', _⟩ =>
    if h : entries = entries' then isTrue (by subst h; rfl)
    else isFalse fun h' => h (congrArg Metadata.entries h')

/-- No entries. -/
def empty : Metadata := ⟨[], List.Pairwise.nil⟩

instance : Inhabited Metadata := ⟨empty⟩

/-- The metadata of a list of entries, the last one with a key standing. -/
def ofList (entries : List (String × String)) : Metadata :=
  ⟨Members.ofList entries, Members.ordered_ofList entries⟩

/-- Sets the text under a key. -/
def insert (metadata : Metadata) (key value : String) : Metadata :=
  ⟨Members.put key value metadata.entries, Members.ordered_put key value metadata.ordered⟩

/-- Whether a key has a text. -/
def contains (metadata : Metadata) (key : String) : Bool :=
  metadata.entries.any (·.1 = key)

def isEmpty (metadata : Metadata) : Bool :=
  metadata.entries.isEmpty

/-- The entries of some metadata in some order.  The order is nobody's choice: metadata has none of
its own. -/
structure Listing (metadata : Metadata) where
  entries : List (String × String)
  perm : entries.Perm metadata.entries
  deriving DecidableEq

/-- The entries in the order of their keys. -/
def sorted (metadata : Metadata) : metadata.Listing :=
  ⟨metadata.entries, .rfl⟩

/-- Metadata is what any listing of it holds. -/
theorem Listing.ofList_entries {metadata : Metadata} (listing : metadata.Listing) :
    ofList listing.entries = metadata := by
  cases metadata with
  | mk entries ordered =>
    unfold ofList
    congr 1
    exact Members.ofList_of_perm ordered listing.perm

end Metadata
end Courier
