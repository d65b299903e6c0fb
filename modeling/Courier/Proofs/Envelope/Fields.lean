/-
Fields of records: what is written for a value is read back as that value.

`Wire.Lawful` collects what the types of small fields have in common: their values are written as
small trees, never as null, and are read back.  Addresses and free JSON are read back under
conditions of their own, so they have lemmas instead of instances.  A field of a record is found by
its key among the members that carry that key, whatever the other members are; `required_of_filter`
and `optional_of_filter` say what is read then, and `optional_eq_mapM` says it where a value may be
read back as something else (`reread`).
-/
import Courier.Envelope.Text
import Courier.Proofs.Json.RoundTrip

namespace Courier

/-- Choices whose names tell them apart. -/
class Choice.Lawful (α : Type) [Choice α] : Prop where
  ofName?_name : ∀ a : α, Choice.ofName? (Choice.name a) = some a

instance : Choice.Lawful Event := ⟨fun a => by cases a <;> rfl⟩
instance : Choice.Lawful Method := ⟨fun a => by cases a <;> rfl⟩
instance : Choice.Lawful Status := ⟨fun a => by cases a <;> rfl⟩
instance : Choice.Lawful SessionState := ⟨fun a => by cases a <;> rfl⟩
instance : Choice.Lawful Compression := ⟨fun a => by cases a <;> rfl⟩
instance : Choice.Lawful Encryption := ⟨fun a => by cases a <;> rfl⟩
instance : Choice.Lawful Scheme := ⟨fun a => by cases a <;> rfl⟩

namespace Wire

variable {α : Type}

/-! ## Types of small fields -/

/-- Types whose values are written as small trees and read back. -/
class Lawful (α : Type) [Wire α] : Prop where
  ofTree?_tree : ∀ a : α, ofTree? (tree a) = some a
  exact_tree : ∀ a : α, (tree a).Exact
  nesting_tree : ∀ a : α, (tree a).nesting ≤ 1
  tree_ne_null : ∀ a : α, tree a ≠ .null

instance [Choice α] [Choice.Lawful α] : Lawful α where
  ofTree?_tree := Choice.Lawful.ofName?_name
  exact_tree _ := trivial
  nesting_tree _ := Nat.zero_le _
  tree_ne_null _ := by rintro ⟨⟩

instance : Lawful String where
  ofTree?_tree _ := rfl
  exact_tree _ := trivial
  nesting_tree _ := Nat.zero_le _
  tree_ne_null _ := by rintro ⟨⟩

instance : Lawful Int32 where
  ofTree?_tree n := by
    have hmin : Int32.minValue.toInt ≤ n.toInt := Int32.minValue_le_toInt n
    have hmax : n.toInt ≤ Int32.maxValue.toInt := Int32.toInt_le n
    simp only [tree, ofTree?, hmin, hmax, and_self, if_true, Int32.ofInt_toInt]
  exact_tree n := by
    have hmin : Int32.minValue.toInt ≤ n.toInt := Int32.minValue_le_toInt n
    have hmax : n.toInt ≤ Int32.maxValue.toInt := Int32.toInt_le n
    have hlow : Int64.minValue.toInt ≤ Int32.minValue.toInt := by decide
    have hhigh : Int32.maxValue.toInt < UInt64.size := by decide
    exact ⟨by omega, by omega⟩
  nesting_tree _ := Nat.zero_le _
  tree_ne_null _ := by rintro ⟨⟩

/-- What is read from what is written for a value. -/
def reread [Wire α] (a : α) : Option α :=
  ofTree? (tree a)

/-- A list is read back exactly if each of its items is. -/
theorem reread_list_eq_some_iff [Wire α] {xs : List α} :
    reread xs = some xs ↔ ∀ x ∈ xs, reread x = some x := by
  show (xs.map tree).mapM ofTree? = some xs ↔ _
  induction xs with
  | nil => simp
  | cons x xs ih =>
    rw [List.map_cons, List.mapM_cons, List.forall_mem_cons, ← ih]
    simp [reread, Option.bind_eq_some_iff]

theorem mapM_ofTree? [Wire α] [Lawful α] (xs : List α) :
    (xs.map tree).mapM ofTree? = some xs :=
  reread_list_eq_some_iff.mpr fun x _ => Lawful.ofTree?_tree x

/-- A list of choices is written as a list of names. -/
instance [Choice α] [Choice.Lawful α] : Lawful (List α) where
  ofTree?_tree := mapM_ofTree?
  exact_tree xs := by
    refine Tree.itemsExact_iff.mpr fun item hitem => ?_
    obtain ⟨x, -, rfl⟩ := List.mem_map.mp hitem
    exact Lawful.exact_tree x
  nesting_tree xs := by
    refine Nat.succ_le_succ (Tree.itemsNesting_le_iff.mpr fun item hitem => ?_)
    obtain ⟨x, -, rfl⟩ := List.mem_map.mp hitem
    exact Nat.le_refl 0
  tree_ne_null _ := by rintro ⟨⟩

theorem mapM_entries (entries : List (String × String)) :
    (entries.map fun entry => (entry.1, Tree.string entry.2)).mapM
      (fun member => (ofTree? member.2 : Option String).map ((member.1, ·))) = some entries := by
  induction entries with
  | nil => rfl
  | cons entry entries ih =>
    rw [List.map_cons, List.mapM_cons, ih]
    rfl

/-! ## Metadata, however it is listed -/

section Listing

variable {metadata : Metadata} (listing : metadata.Listing)

theorem ofTree?_listing : ofTree? listing.tree = some metadata := by
  show (((listing.entries.map fun entry => (entry.1, Tree.string entry.2)).mapM
    fun member => (ofTree? member.2 : Option String).map ((member.1, ·))).map
      Metadata.ofList) = some metadata
  rw [mapM_entries, Option.map_some, listing.ofList_entries]

theorem exact_listing : listing.tree.Exact := by
  refine Tree.membersExact_iff.mpr fun member hmember => ?_
  obtain ⟨entry, -, rfl⟩ := List.mem_map.mp hmember
  exact trivial

theorem nesting_listing : listing.tree.nesting = 1 := by
  have hflat : Tree.membersNesting (listing.entries.map fun entry => (entry.1, .string entry.2)) ≤
      0 := by
    refine Tree.membersNesting_le_iff.mpr fun member hmember => ?_
    obtain ⟨entry, -, rfl⟩ := List.mem_map.mp hmember
    exact Nat.le_refl 0
  exact congrArg Nat.succ (Nat.le_zero.mp hflat)

end Listing

/-! ## Addresses and free JSON -/

theorem ofTree?_tree_node {node : Node} (h : Node.parse node.text = .ok node) :
    ofTree? (tree node) = some node := by
  simp only [tree, ofTree?, h, Except.toOption]

theorem ofTree?_tree_json {j : Json} (h : j.Exact) : ofTree? (tree j) = some j :=
  Json.value?_toTree h

theorem tree_json_ne_null {j : Json} (h : j ≠ .null) : tree j ≠ .null := by
  intro hnull
  cases j <;> first | exact h rfl | cases hnull

/-- Only null stands for null. -/
theorem ofTree?_ne_null {t : Tree} (ht : t ≠ .null) : ofTree? t ≠ some Json.null := by
  intro h
  cases t <;> simp_all [ofTree?, Tree.value?]

/-! ## Members with a key -/

section Members

variable {key : String} {members : List (String × Tree)}

theorem filter_member_self (key : String) (t : Option Tree) :
    (member key t).filter (·.1 = key) = member key t := by
  cases t <;> simp [member]

theorem filter_member_of_ne {key other : String} (h : other ≠ key) (t : Option Tree) :
    (member other t).filter (·.1 = key) = [] := by
  cases t <;> simp [member, h]

theorem lookup_of_member {t : Option Tree} (h : members.filter (·.1 = key) = member key t) :
    lookup key members = some t := by
  unfold lookup
  rw [h]
  cases t <;> rfl

variable [Wire α]

theorem filter_field_self (key : String) (a : Option α) :
    (field key a).filter (·.1 = key) = field key a :=
  filter_member_self key _

theorem filter_field_of_ne {key other : String} (h : other ≠ key) (a : Option α) :
    (field other a).filter (·.1 = key) = [] :=
  filter_member_of_ne h _

theorem lookup_of_filter {a : Option α} (h : members.filter (·.1 = key) = field key a) :
    lookup key members = some (a.map tree) :=
  lookup_of_member h

theorem required_of_filter {a : α} (h : members.filter (·.1 = key) = field key (some a))
    (hread : ofTree? (tree a) = some a) : required key members = some a := by
  simp only [required, lookup_of_filter h, Option.map_some, Option.bind_eq_bind, Option.bind_some,
    hread]

/-- Nothing is read where no member has the key. -/
theorem required_of_filter_nil (h : members.filter (·.1 = key) = []) :
    (required key members : Option α) = none := by
  simp only [required, lookup, h, Option.bind_eq_bind, Option.bind_some, Option.bind_none]

/-- An optional field is read as what is read from what was written for it. -/
theorem optional_eq_mapM {a : Option α} (h : members.filter (·.1 = key) = field key a)
    (hnull : ∀ x, a = some x → tree x ≠ .null) : optional key members = a.mapM reread := by
  simp only [optional, lookup_of_filter h, Option.bind_eq_bind, Option.bind_some]
  cases a with
  | none => rfl
  | some x =>
    have htree := hnull x rfl
    rw [Option.map_some]
    split
    · rename_i heq
      cases heq
    · -- A null would be taken for an absent value, but none is written.
      rename_i heq
      exact absurd (Option.some.inj heq) htree
    · rename_i t hne heq
      rw [← Option.some.inj heq]
      rfl

theorem mapM_reread_eq_some_iff {a : Option α} :
    a.mapM reread = some a ↔ ∀ x, a = some x → reread x = some x := by
  cases a with
  | none => simp
  | some x => simp

theorem optional_of_filter {a : Option α} (h : members.filter (·.1 = key) = field key a)
    (hread : ∀ x, a = some x → ofTree? (tree x) = some x)
    (hnull : ∀ x, a = some x → tree x ≠ .null) : optional key members = some a :=
  (optional_eq_mapM h hnull).trans (mapM_reread_eq_some_iff.mpr hread)

theorem optional_of_lawful [Lawful α] {a : Option α}
    (h : members.filter (·.1 = key) = field key a) : optional key members = some a :=
  optional_of_filter h (fun x _ => Lawful.ofTree?_tree x) fun x _ => Lawful.tree_ne_null x

end Members

end Wire
end Courier
