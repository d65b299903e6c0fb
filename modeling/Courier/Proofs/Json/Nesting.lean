/-
How deep a JSON value nests, and what is lost between a value and a tree that lists it.

`Tree.nesting` counts the arrays and objects that contain each other.  A value is never deeper than
the tree that it was taken from (`nesting_toTree_le`), and a value whose members are in order is
what the tree that lists it stands for (`value?_toTree`).
-/
import Courier.Json.Basic

namespace Courier

/-! ## Nesting -/

namespace Tree

mutual

/-- How many arrays and objects contain each other. -/
def nesting : Tree → Nat
  | array items => itemsNesting items + 1
  | object members => membersNesting members + 1
  | _ => 0

def itemsNesting : List Tree → Nat
  | [] => 0
  | t :: ts => max (nesting t) (itemsNesting ts)

def membersNesting : List (String × Tree) → Nat
  | [] => 0
  | (_, t) :: ts => max (nesting t) (membersNesting ts)

end

/-- Members nest no deeper than a bound if each of them does. -/
theorem membersNesting_append (first second : List (String × Tree)) :
    membersNesting (first ++ second) = max (membersNesting first) (membersNesting second) := by
  induction first with
  | nil => exact (Nat.zero_max _).symm
  | cons member first ih =>
    rw [List.cons_append, membersNesting, membersNesting, ih, Nat.max_assoc]

theorem membersNesting_le_iff {members : List (String × Tree)} {n : Nat} :
    membersNesting members ≤ n ↔ ∀ member ∈ members, member.2.nesting ≤ n := by
  induction members with
  | nil => simp [membersNesting]
  | cons member rest ih =>
    rw [membersNesting, Nat.max_le, ih, List.forall_mem_cons]

theorem itemsNesting_le_iff {items : List Tree} {n : Nat} :
    itemsNesting items ≤ n ↔ ∀ item ∈ items, item.nesting ≤ n := by
  induction items with
  | nil => simp [itemsNesting]
  | cons item rest ih =>
    rw [itemsNesting, Nat.max_le, ih, List.forall_mem_cons]

end Tree

/-! ## Values that are written exactly -/

namespace Json

mutual

/-- Whether a value is written and read back without loss: its numbers are whole and in range, and
the members of its objects are in order, each key once. -/
def Exact : Json → Prop
  | number (.whole n) => (Number.whole n).InRange
  | number (.real _) => False
  | array items => ItemsExact items
  | object members => Members.Ordered members ∧ MembersExact members
  | _ => True

def ItemsExact : List Json → Prop
  | [] => True
  | x :: xs => Exact x ∧ ItemsExact xs

def MembersExact : List (String × Json) → Prop
  | [] => True
  | (_, x) :: xs => Exact x ∧ MembersExact xs

end

end Json

namespace Tree

mutual

/-- Whether a tree is read back from its text: it has no hole, and its numbers are whole and in
range. -/
def Exact : Tree → Prop
  | number (.whole n) => (Number.whole n).InRange
  | number (.real _) => False
  | array items => ItemsExact items
  | object members => MembersExact members
  | hole => False
  | _ => True

def ItemsExact : List Tree → Prop
  | [] => True
  | t :: ts => Exact t ∧ ItemsExact ts

def MembersExact : List (String × Tree) → Prop
  | [] => True
  | (_, t) :: ts => Exact t ∧ MembersExact ts

end

theorem membersExact_iff {members : List (String × Tree)} :
    MembersExact members ↔ ∀ member ∈ members, member.2.Exact := by
  induction members with
  | nil => simp [MembersExact]
  | cons member rest ih => rw [MembersExact, ih, List.forall_mem_cons]

theorem itemsExact_iff {items : List Tree} :
    ItemsExact items ↔ ∀ item ∈ items, item.Exact := by
  induction items with
  | nil => simp [ItemsExact]
  | cons item rest ih => rw [ItemsExact, ih, List.forall_mem_cons]

/-! A tree that is read back from its text has no hole. -/

mutual

theorem isWhole_of_exact : ∀ {t : Tree}, t.Exact → t.isWhole = true
  | null, _ | bool _, _ | number _, _ | string _, _ => rfl
  | array items, h => @areWhole_of_exact items h
  | object members, h => @membersAreWhole_of_exact members h
  | hole, h => h.elim

theorem areWhole_of_exact : ∀ {items : List Tree}, ItemsExact items → areWhole items = true
  | [], _ => rfl
  | _ :: _, ⟨h, hs⟩ => by rw [areWhole, isWhole_of_exact h, areWhole_of_exact hs]; rfl

theorem membersAreWhole_of_exact :
    ∀ {members : List (String × Tree)}, MembersExact members → membersAreWhole members = true
  | [], _ => rfl
  | (_, _) :: _, ⟨h, hs⟩ => by
    rw [membersAreWhole, isWhole_of_exact h, membersAreWhole_of_exact hs]; rfl

end

end Tree

namespace Json

/-! ## From a value to a tree and back -/

mutual

theorem exact_toTree : ∀ {j : Json}, j.Exact → j.toTree.Exact
  | null, _ | bool _, _ | string _, _ => trivial
  | number (.whole _), h => h
  | number (.real _), h => h.elim
  | array items, h => @itemsExact_toTrees items h
  | object members, h => @membersExact_toMembers members h.2

theorem itemsExact_toTrees : ∀ {items : List Json}, ItemsExact items →
    Tree.ItemsExact (toTrees items)
  | [], _ => trivial
  | _ :: _, ⟨h, hs⟩ => ⟨exact_toTree h, itemsExact_toTrees hs⟩

theorem membersExact_toMembers : ∀ {members : List (String × Json)}, MembersExact members →
    Tree.MembersExact (toMembers members)
  | [], _ => trivial
  | (_, _) :: _, ⟨h, hs⟩ => ⟨exact_toTree h, membersExact_toMembers hs⟩

end

mutual

/-- A value in order is what the tree that lists it stands for. -/
theorem value?_toTree : ∀ {j : Json}, j.Exact → j.toTree.value? = some j
  | null, _ | bool _, _ | string _, _ | number _, _ => rfl
  | array items, h => by
    rw [toTree, Tree.value?, @values?_toTrees items h]
    rfl
  | object members, ⟨hordered, h⟩ => by
    rw [toTree, Tree.value?, @memberValues?_toMembers members h, Option.map_some,
      Members.ofList_of_ordered hordered]

theorem values?_toTrees : ∀ {items : List Json}, ItemsExact items →
    Tree.values? (toTrees items) = some items
  | [], _ => rfl
  | _ :: _, ⟨h, hs⟩ => by
    rw [toTrees, Tree.values?, value?_toTree h, values?_toTrees hs]
    rfl

theorem memberValues?_toMembers : ∀ {members : List (String × Json)}, MembersExact members →
    Tree.memberValues? (toMembers members) = some members
  | [], _ => rfl
  | (_, _) :: _, ⟨h, hs⟩ => by
    rw [toMembers, Tree.memberValues?, value?_toTree h, memberValues?_toMembers hs]
    rfl

end

/-! ## A value is no deeper than its tree -/

theorem membersNesting_toMembers_le_iff {members : List (String × Json)} {n : Nat} :
    Tree.membersNesting (toMembers members) ≤ n ↔
      ∀ member ∈ members, member.2.toTree.nesting ≤ n := by
  induction members with
  | nil => simp [toMembers, Tree.membersNesting]
  | cons member rest ih =>
    rw [toMembers, Tree.membersNesting, Nat.max_le, ih, List.forall_mem_cons]

/-- Whatever order members are put into, each of them was among those listed. -/
theorem mem_of_mem_ofList {α : Type} {members : List (String × α)} {member : String × α}
    (h : member ∈ Members.ofList members) : member ∈ members := by
  have hfold : ∀ (ms done : List (String × α)),
      member ∈ ms.foldl (fun done m => Members.put m.1 m.2 done) done →
        member ∈ done ∨ member ∈ ms := by
    intro ms
    induction ms with
    | nil => exact fun _ hmem => .inl hmem
    | cons m ms ih =>
      intro done hmem
      rcases ih _ hmem with hput | hrest
      · rcases Members.mem_put hput with heq | hdone
        · have hmember : member = m := heq
          exact .inr (hmember ▸ List.mem_cons_self)
        · exact .inl hdone
      · exact .inr (List.mem_cons_of_mem _ hrest)
  rcases hfold members [] h with hnil | hmem
  · exact absurd hnil List.not_mem_nil
  · exact hmem

mutual

theorem nesting_toTree_le : ∀ {t : Tree} {j : Json}, t.value? = some j →
    j.toTree.nesting ≤ t.nesting
  | .null, _, h | .bool _, _, h | .number _, _, h | .string _, _, h => by
    rw [Tree.value?, Option.some.injEq] at h
    subst h
    exact Nat.zero_le _
  | .hole, _, h => by simp [Tree.value?] at h
  | .array items, _, h => by
    rw [Tree.value?, Option.map_eq_some_iff] at h
    obtain ⟨values, hvalues, rfl⟩ := h
    exact Nat.succ_le_succ (itemsNesting_toTrees_le hvalues)
  | .object members, _, h => by
    rw [Tree.value?, Option.map_eq_some_iff] at h
    obtain ⟨values, hvalues, rfl⟩ := h
    refine Nat.succ_le_succ (membersNesting_toMembers_le_iff.mpr fun member hmember => ?_)
    exact membersNesting_toMembers_le_iff.mp (membersNesting_toMembers_le hvalues) member
      (mem_of_mem_ofList hmember)

theorem itemsNesting_toTrees_le : ∀ {ts : List Tree} {values : List Json},
    Tree.values? ts = some values → Tree.itemsNesting (toTrees values) ≤ Tree.itemsNesting ts
  | [], _, h => by
    rw [Tree.values?, Option.some.injEq] at h
    subst h
    exact Nat.le_refl _
  | t :: ts, _, h => by
    simp only [Tree.values?, Option.bind_eq_bind, Option.bind_eq_some_iff, Option.some.injEq] at h
    obtain ⟨value, hvalue, values, hvalues, rfl⟩ := h
    have hhead := nesting_toTree_le hvalue
    have htail := itemsNesting_toTrees_le hvalues
    simp only [toTrees, Tree.itemsNesting]
    omega

theorem membersNesting_toMembers_le : ∀ {ts : List (String × Tree)} {values : List (String × Json)},
    Tree.memberValues? ts = some values →
      Tree.membersNesting (toMembers values) ≤ Tree.membersNesting ts
  | [], _, h => by
    rw [Tree.memberValues?, Option.some.injEq] at h
    subst h
    exact Nat.le_refl _
  | (k, t) :: ts, _, h => by
    simp only [Tree.memberValues?, Option.bind_eq_bind, Option.bind_eq_some_iff,
      Option.some.injEq] at h
    obtain ⟨value, hvalue, values, hvalues, rfl⟩ := h
    have hhead := nesting_toTree_le hvalue
    have htail := membersNesting_toMembers_le hvalues
    simp only [toMembers, Tree.membersNesting]
    omega

end

end Json
end Courier
