/-
Documents survive their texts.

A presence, a linked command and a reason are read back from their texts as they were, whatever
their strings and lists hold and whichever fields they leave out: no field is taken for another, and
an empty list is not taken for an absent one.  A contact and a delegation hold addresses, which
travel as texts of their own, so these come back exactly if each of their addresses does
(`documents_round_trip`).

The text of a value gives its tree back if the tree is legible: without holes, and nested within
bounds.  What is read from that tree is said field by field, by what is read back from each field.
-/
import Courier.Document.Contact
import Courier.Document.Delegation
import Courier.Document.Presence
import Courier.Proofs.Envelope.RoundTrip

namespace Courier

open Wire

/-! ## Trees that their texts give back -/

/-- Whether a tree is read back from its text, nesting at most so deep. -/
structure Tree.Legible (depth : Nat) (t : Tree) : Prop where
  exact : t.Exact
  nesting : t.nesting ≤ depth

namespace Tree

theorem Legible.mono {m n : Nat} {t : Tree} (h : t.Legible m) (hmn : m ≤ n) : t.Legible n :=
  ⟨h.exact, Nat.le_trans h.nesting hmn⟩

theorem legible_array {n : Nat} {items : List Tree} (h : ∀ item ∈ items, item.Legible n) :
    (array items).Legible (n + 1) where
  exact := itemsExact_iff.mpr fun item hitem => (h item hitem).exact
  nesting := Nat.succ_le_succ (itemsNesting_le_iff.mpr fun item hitem => (h item hitem).nesting)

theorem legible_object {n : Nat} {members : List (String × Tree)}
    (h : ∀ member ∈ members, member.2.Legible n) : (object members).Legible (n + 1) where
  exact := membersExact_iff.mpr fun member hmember => (h member hmember).exact
  nesting := Nat.succ_le_succ
    (membersNesting_le_iff.mpr fun member hmember => (h member hmember).nesting)

theorem ofText?_text {t : Tree} (h : t.Legible maxNesting) : ofText? t.text = some t := by
  rw [ofText?, read?_text h.exact h.nesting]
  rfl

end Tree

namespace Wire

variable {α : Type} [Wire α]

theorem legible_of_lawful [Lawful α] {n : Nat} (hn : 1 ≤ n) (a : α) : (tree a).Legible n :=
  ⟨Lawful.exact_tree a, Nat.le_trans (Lawful.nesting_tree a) hn⟩

theorem legible_node {n : Nat} (node : Node) : (tree node).Legible n :=
  ⟨trivial, Nat.zero_le n⟩

theorem legible_identity {n : Nat} (identity : Identity) : (tree identity).Legible n :=
  ⟨trivial, Nat.zero_le n⟩

theorem legible_list {n : Nat} (h : ∀ a : α, (tree a).Legible n) (xs : List α) :
    (tree xs).Legible (n + 1) := by
  refine Tree.legible_array fun item hitem => ?_
  obtain ⟨x, -, rfl⟩ := List.mem_map.mp hitem
  exact h x

theorem legible_field {n : Nat} (h : ∀ a : α, (tree a).Legible n) (key : String) (a : Option α) :
    ∀ member ∈ field key a, member.2.Legible n :=
  forall_mem_field.mpr fun x _ => h x

/-- What is read from the text of a value is what is read from its tree. -/
theorem ofText?_text {n : Nat} {a : α} (h : (tree a).Legible n) (hn : n ≤ maxNesting) :
    ofText? (text a) = reread a := by
  rw [ofText?, text, Tree.ofText?_text (h.mono hn)]
  rfl

/-! ## Addresses and lists that are read back -/

theorem reread_node_eq_some_iff {node : Node} :
    reread node = some node ↔ Node.parse node.text = .ok node := by
  show (Node.parse node.text).toOption = some node ↔ _
  cases Node.parse node.text <;> simp [Except.toOption]

theorem reread_identity_eq_some_iff {identity : Identity} :
    reread identity = some identity ↔ Identity.parse identity.text = .ok identity := by
  show (Identity.parse identity.text).toOption = some identity ↔ _
  cases Identity.parse identity.text <;> simp [Except.toOption]

theorem tree_list_ne_null (xs : List α) : tree xs ≠ .null := by
  rintro ⟨⟩

/-- A list in an optional field, if each item is always read back. -/
theorem optional_list {key : String} {members : List (String × Tree)} {xs : Option (List α)}
    (h : members.filter (·.1 = key) = field key xs) (hread : ∀ a : α, reread a = some a) :
    optional key members = some xs :=
  optional_of_filter h (fun _ _ => reread_list_eq_some_iff.mpr fun x _ => hread x)
    fun xs _ => tree_list_ne_null xs

end Wire

instance : Choice.Lawful Availability := ⟨fun a => by cases a <;> rfl⟩
instance : Choice.Lawful Routing := ⟨fun a => by cases a <;> rfl⟩

instance : Lawful Bool where
  ofTree?_tree _ := rfl
  exact_tree _ := trivial
  nesting_tree _ := Nat.zero_le _
  tree_ne_null _ := by rintro ⟨⟩

/-! ## Records, field by field -/

namespace Presence

theorem filter_members (presence : Presence) :
    presence.members.filter (·.1 = "status") = field "status" presence.availability ∧
    presence.members.filter (·.1 = "message") = field "message" presence.message ∧
    presence.members.filter (·.1 = "routingRule") = field "routingRule" presence.routing ∧
    presence.members.filter (·.1 = "lastSeen") = field "lastSeen" presence.lastSeen ∧
    presence.members.filter (·.1 = "priority") = field "priority" presence.priority ∧
    presence.members.filter (·.1 = "instances") = field "instances" presence.places := by
  refine ⟨?_, ?_, ?_, ?_, ?_, ?_⟩ <;>
    simp [members, List.filter_append, filter_field_self, filter_field_of_ne]

theorem reread_eq (presence : Presence) : reread presence = some presence := by
  obtain ⟨hstatus, hmessage, hrouting, hseen, hpriority, hplaces⟩ := presence.filter_members
  show ofMembers? presence.members = some presence
  simp only [ofMembers?, optional_of_lawful hstatus, optional_of_lawful hmessage,
    optional_of_lawful hrouting, optional_of_lawful hseen, optional_of_lawful hpriority,
    optional_list hplaces Lawful.ofTree?_tree, Option.bind_eq_bind, Option.bind_some]

theorem legible (presence : Presence) : (tree presence).Legible 3 := by
  refine Tree.legible_object ?_
  simp only [members, List.forall_mem_append]
  have hsmall : ∀ {α : Type} [Wire α] [Lawful α] (a : α), (tree a).Legible 2 :=
    fun a => legible_of_lawful (by decide) a
  exact ⟨⟨⟨⟨⟨legible_field hsmall _ _, legible_field hsmall _ _⟩, legible_field hsmall _ _⟩,
    legible_field hsmall _ _⟩, legible_field hsmall _ _⟩,
    legible_field (legible_list fun s => legible_of_lawful (Nat.le_refl 1) s) _ _⟩

end Presence

namespace Contact

theorem filter_members (contact : Contact) :
    contact.members.filter (·.1 = "identity") = field "identity" contact.identity ∧
    contact.members.filter (·.1 = "name") = field "name" contact.name ∧
    contact.members.filter (·.1 = "isPending") = field "isPending" contact.isPending ∧
    contact.members.filter (·.1 = "sharePresence") =
      field "sharePresence" contact.sharePresence ∧
    contact.members.filter (·.1 = "shareAccountInfo") =
      field "shareAccountInfo" contact.shareAccount := by
  refine ⟨?_, ?_, ?_, ?_, ?_⟩ <;>
    simp [members, List.filter_append, filter_field_self, filter_field_of_ne]

/-- A contact is read back with whatever its identity is read back as. -/
theorem reread_eq (contact : Contact) :
    reread contact = (contact.identity.mapM reread).map fun identity =>
      { contact with identity } := by
  obtain ⟨hidentity, hname, hpending, hpresence, haccount⟩ := contact.filter_members
  show ofMembers? contact.members = _
  simp only [ofMembers?, optional_eq_mapM hidentity (fun _ _ => by rintro ⟨⟩),
    optional_of_lawful hname, optional_of_lawful hpending, optional_of_lawful hpresence,
    optional_of_lawful haccount, Option.bind_eq_bind, Option.bind_some]
  cases contact.identity.mapM reread <;> rfl

theorem reread_eq_some_iff {contact : Contact} :
    reread contact = some contact ↔
      ∀ identity ∈ contact.identity, Identity.parse identity.text = .ok identity := by
  simp only [← reread_identity_eq_some_iff]
  rw [reread_eq, Option.map_eq_some_iff]
  constructor
  · rintro ⟨identity, hread, hsame⟩
    obtain rfl : identity = contact.identity := congrArg Contact.identity hsame
    exact mapM_reread_eq_some_iff.mp hread
  · exact fun h => ⟨contact.identity, mapM_reread_eq_some_iff.mpr h, rfl⟩

theorem legible (contact : Contact) : (tree contact).Legible 2 := by
  refine Tree.legible_object ?_
  simp only [members, List.forall_mem_append]
  have hsmall : ∀ {α : Type} [Wire α] [Lawful α] (a : α), (tree a).Legible 1 :=
    fun a => legible_of_lawful (Nat.le_refl 1) a
  exact ⟨⟨⟨⟨legible_field legible_identity _ _, legible_field hsmall _ _⟩,
    legible_field hsmall _ _⟩, legible_field hsmall _ _⟩, legible_field hsmall _ _⟩

end Contact

namespace LinkedCommand

theorem filter_members (command : LinkedCommand) :
    command.members.filter (·.1 = "type") = field "type" (some command.mediaType) ∧
    command.members.filter (·.1 = "methods") = field "methods" (some command.methods) := by
  refine ⟨?_, ?_⟩ <;>
    simp [members, List.filter_append, filter_field_self, filter_field_of_ne]

theorem reread_eq (command : LinkedCommand) : reread command = some command := by
  obtain ⟨htype, hmethods⟩ := command.filter_members
  show ofMembers? command.members = some command
  simp only [ofMembers?, required_of_filter htype (Lawful.ofTree?_tree _),
    required_of_filter hmethods (Lawful.ofTree?_tree _), Option.bind_eq_bind, Option.bind_some]

theorem legible (command : LinkedCommand) : (tree command).Legible 2 := by
  refine Tree.legible_object ?_
  simp only [members, List.forall_mem_append]
  exact ⟨legible_field (fun s => legible_of_lawful (Nat.le_refl 1) s) _ _,
    legible_field (fun methods => legible_of_lawful (Nat.le_refl 1) methods) _ _⟩

end LinkedCommand

namespace Delegation

theorem filter_members (delegation : Delegation) :
    delegation.members.filter (·.1 = "target") = field "target" delegation.target ∧
    delegation.members.filter (·.1 = "destinations") =
      field "destinations" delegation.destinations ∧
    delegation.members.filter (·.1 = "commands") = field "commands" delegation.commands ∧
    delegation.members.filter (·.1 = "messages") = field "messages" delegation.messages := by
  refine ⟨?_, ?_, ?_, ?_⟩ <;>
    simp [members, List.filter_append, filter_field_self, filter_field_of_ne]

/-- A delegation is read back with whatever its addresses are read back as. -/
theorem reread_eq (delegation : Delegation) :
    reread delegation = (do
      let target ← delegation.target.mapM reread
      let destinations ← delegation.destinations.mapM reread
      some { delegation with target, destinations }) := by
  obtain ⟨htarget, hdestinations, hcommands, hmessages⟩ := delegation.filter_members
  show ofMembers? delegation.members = _
  simp only [ofMembers?, optional_eq_mapM htarget (fun _ _ => by rintro ⟨⟩),
    optional_eq_mapM hdestinations (fun _ _ => tree_list_ne_null _),
    optional_list hcommands LinkedCommand.reread_eq, optional_list hmessages Lawful.ofTree?_tree,
    Option.bind_eq_bind, Option.bind_some]

theorem reread_eq_some_iff {delegation : Delegation} :
    reread delegation = some delegation ↔
      (∀ node ∈ delegation.target, Node.parse node.text = .ok node) ∧
        ∀ identities ∈ delegation.destinations, ∀ identity ∈ identities,
          Identity.parse identity.text = .ok identity := by
  simp only [← reread_node_eq_some_iff, ← reread_identity_eq_some_iff, ← reread_list_eq_some_iff]
  rw [reread_eq]
  simp only [Option.bind_eq_bind, Option.bind_eq_some_iff, Option.some.injEq]
  constructor
  · rintro ⟨target, htarget, destinations, hdestinations, hsame⟩
    obtain rfl : target = delegation.target := congrArg Delegation.target hsame
    obtain rfl : destinations = delegation.destinations := congrArg Delegation.destinations hsame
    exact ⟨mapM_reread_eq_some_iff.mp htarget, mapM_reread_eq_some_iff.mp hdestinations⟩
  · rintro ⟨htarget, hdestinations⟩
    exact ⟨_, mapM_reread_eq_some_iff.mpr htarget, _,
      mapM_reread_eq_some_iff.mpr hdestinations, rfl⟩

theorem legible (delegation : Delegation) : (tree delegation).Legible 4 := by
  refine Tree.legible_object ?_
  simp only [members, List.forall_mem_append]
  exact ⟨⟨⟨legible_field legible_node _ _,
    legible_field (legible_list legible_identity) _ _⟩,
    legible_field (legible_list LinkedCommand.legible) _ _⟩,
    legible_field (legible_list fun s => legible_of_lawful (by decide) s) _ _⟩

end Delegation

/-! ## Texts -/

/-- What is written for a presence, a linked command or a reason is read back as it was, with every
field and every list, empty or left out.  So is a contact or a delegation if and only if each
address in it is what its text stands for. -/
theorem documents_round_trip :
    (∀ presence : Presence, ofText? (text presence) = some presence) ∧
    (∀ contact : Contact, ofText? (text contact) = some contact ↔
      ∀ identity ∈ contact.identity, Identity.parse identity.text = .ok identity) ∧
    (∀ delegation : Delegation, ofText? (text delegation) = some delegation ↔
      (∀ node ∈ delegation.target, Node.parse node.text = .ok node) ∧
        ∀ identities ∈ delegation.destinations, ∀ identity ∈ identities,
          Identity.parse identity.text = .ok identity) ∧
    (∀ command : LinkedCommand, ofText? (text command) = some command) ∧
    ∀ reason : Reason, ofText? (text reason) = some reason := by
  refine ⟨fun presence => ?_, fun contact => ?_, fun delegation => ?_, fun command => ?_,
    fun reason => ?_⟩
  · rw [ofText?_text presence.legible (by decide), presence.reread_eq]
  · rw [ofText?_text contact.legible (by decide), Contact.reread_eq_some_iff]
  · rw [ofText?_text delegation.legible (by decide), Delegation.reread_eq_some_iff]
  · rw [ofText?_text command.legible (by decide), command.reread_eq]
  · rw [ofText?_text (legible_of_lawful (Nat.le_refl 1) reason) (by decide)]
    exact Lawful.ofTree?_tree reason

/-- A delegation with addresses that leave parts out, strings that are escaped, and empty lists. -/
def sparseDelegation : Delegation where
  target := some ⟨⟨none, some "example.org"⟩, some "a/b@c"⟩
  destinations := some [⟨some "a b", none⟩, ⟨some "bob", some "example.org"⟩]
  commands := some [⟨"\"\n", []⟩, ⟨"", [.get, .get, .merge]⟩]
  messages := some []

theorem documents_round_trip_sparse :
    (∀ node ∈ sparseDelegation.target, Node.parse node.text = .ok node) ∧
      (∀ identities ∈ sparseDelegation.destinations, ∀ identity ∈ identities,
        Identity.parse identity.text = .ok identity) ∧
      ofText? (text sparseDelegation) = some sparseDelegation := by
  have htarget : ∀ node ∈ sparseDelegation.target, Node.parse node.text = .ok node := by
    rintro node ⟨⟩
    rfl
  have hdestinations : ∀ identities ∈ sparseDelegation.destinations, ∀ identity ∈ identities,
      Identity.parse identity.text = .ok identity := by
    rintro identities ⟨⟩
    exact List.forall_mem_cons.mpr ⟨rfl, List.forall_mem_singleton.mpr rfl⟩
  exact ⟨htarget, hdestinations,
    (documents_round_trip.2.2.1 sparseDelegation).mpr ⟨htarget, hdestinations⟩⟩

end Courier
