/-
Envelopes survive their texts.

An envelope that can be recovered (`Envelope.Recoverable`) is read back as it was from each of its
texts, in whatever order they list its metadata; and an envelope that was read meets those of the
conditions that concern nulls and nesting by itself.  The kind is not written: each kind is known by
a field that it must have and that no kind tried before it finds.
-/
import Courier.Proofs.Envelope.Fields

namespace Courier

open Wire

/-! ## Records inside envelopes -/

theorem forall_mem_field {α : Type} [Wire α] {key : String} {a : Option α} {P : Tree → Prop} :
    (∀ member ∈ field key a, P member.2) ↔ ∀ x, a = some x → P (tree x) := by
  cases a <;> simp [field, member]

instance : Lawful Reason where
  ofTree?_tree reason := by
    have hcode : ((field "code" (some reason.code) ++
        field "description" reason.description).filter (·.1 = "code")) =
          field "code" (some reason.code) := by
      simp [List.filter_append, filter_field_self, filter_field_of_ne]
    have hdescription : ((field "code" (some reason.code) ++
        field "description" reason.description).filter (·.1 = "description")) =
          field "description" reason.description := by
      simp [List.filter_append, filter_field_self, filter_field_of_ne]
    simp only [tree, ofTree?, members?, Option.bind_eq_bind, Option.bind_some,
      required_of_filter hcode (Lawful.ofTree?_tree _), optional_of_lawful hdescription]
  exact_tree reason := by
    refine Tree.membersExact_iff.mpr (List.forall_mem_append.mpr ⟨?_, ?_⟩)
    · exact forall_mem_field.mpr fun x _ => Lawful.exact_tree x
    · exact forall_mem_field.mpr fun x _ => Lawful.exact_tree x
  nesting_tree reason := by
    refine Nat.succ_le_succ (Tree.membersNesting_le_iff.mpr (List.forall_mem_append.mpr ⟨?_, ?_⟩))
    · exact forall_mem_field (P := (·.nesting ≤ 0)) |>.mpr fun _ _ => Nat.le_refl 0
    · exact forall_mem_field (P := (·.nesting ≤ 0)) |>.mpr fun _ _ => Nat.le_refl 0
  tree_ne_null _ := by rintro ⟨⟩

theorem Metadata.eq_empty_of_isEmpty {metadata : Metadata} (h : metadata.isEmpty = true) :
    metadata = .empty := by
  cases metadata with
  | mk entries ordered =>
    cases List.isEmpty_iff.mp h
    rfl

namespace Header

/-- The addresses in a header. -/
def nodes (header : Header) : List Node :=
  header.sender.toList ++ header.recipient.toList ++ header.hop.toList

variable {header : Header} {listing : header.metadata.Listing} {members : List (String × Tree)}

/-- Members among which the fields of a header stand, each under its key alone, and its metadata as
it is listed. -/
structure Carried (header : Header) (listing : header.metadata.Listing)
    (members : List (String × Tree)) : Prop where
  id : members.filter (·.1 = "id") = field "id" header.id
  sender : members.filter (·.1 = "from") = field "from" header.sender
  recipient : members.filter (·.1 = "to") = field "to" header.recipient
  hop : members.filter (·.1 = "pp") = field "pp" header.hop
  metadata : members.filter (·.1 = "metadata") =
    member "metadata" (if header.metadata.isEmpty then none else some listing.tree)

theorem Carried.defaulted_metadata (h : header.Carried listing members) :
    defaulted "metadata" .empty members = some header.metadata := by
  simp only [defaulted, lookup_of_member h.metadata, Option.bind_eq_bind, Option.bind_some]
  by_cases hempty : header.metadata.isEmpty = true
  · rw [if_pos hempty, Metadata.eq_empty_of_isEmpty hempty]
  · rw [if_neg hempty]
    exact ofTree?_listing listing

theorem Carried.ofMembers? (h : header.Carried listing members)
    (hnodes : ∀ node ∈ header.nodes, Node.parse node.text = .ok node) :
    Header.ofMembers? members = some header := by
  have hread : ∀ node ∈ header.nodes, ofTree? (tree node) = some node :=
    fun node hnode => ofTree?_tree_node (hnodes node hnode)
  have hnull : ∀ node : Node, tree node ≠ .null := fun node => by rintro ⟨⟩
  have hsender := optional_of_filter h.sender
    (fun node hnode => hread node (by simp [nodes, hnode])) fun node _ => hnull node
  have hrecipient := optional_of_filter h.recipient
    (fun node hnode => hread node (by simp [nodes, hnode])) fun node _ => hnull node
  have hhop := optional_of_filter h.hop
    (fun node hnode => hread node (by simp [nodes, hnode])) fun node _ => hnull node
  simp only [Header.ofMembers?, optional_of_lawful h.id, hsender, hrecipient, hhop,
    h.defaulted_metadata, Option.bind_eq_bind, Option.bind_some]

end Header

/-! ## The four kinds

The members of an envelope are those of its header and then its own, under other keys. -/

theorem Message.carried (message : Message) (listing : message.header.metadata.Listing) :
    message.header.Carried listing (message.members listing) := by
  constructor <;>
    simp [Message.members, Header.members, List.filter_append, filter_field_self,
      filter_field_of_ne, filter_member_self, filter_member_of_ne]

theorem Notification.carried (notification : Notification)
    (listing : notification.header.metadata.Listing) :
    notification.header.Carried listing (notification.members listing) := by
  constructor <;>
    simp [Notification.members, Header.members, List.filter_append, filter_field_self,
      filter_field_of_ne, filter_member_self, filter_member_of_ne]

theorem Command.carried (command : Command) (listing : command.header.metadata.Listing) :
    command.header.Carried listing (command.members listing) := by
  constructor <;>
    simp [Command.members, Header.members, List.filter_append, filter_field_self,
      filter_field_of_ne, filter_member_self, filter_member_of_ne]

theorem Session.carried (session : Session) (listing : session.header.metadata.Listing) :
    session.header.Carried listing (session.members listing) := by
  constructor <;>
    simp [Session.members, Header.members, List.filter_append, filter_field_self,
      filter_field_of_ne, filter_member_self, filter_member_of_ne]

theorem Message.filter_members (message : Message)
    (listing : message.header.metadata.Listing) :
    (message.members listing).filter (·.1 = "type") = field "type" (some message.mediaType) ∧
    (message.members listing).filter (·.1 = "content") =
      field "content" (some message.content) := by
  refine ⟨?_, ?_⟩ <;>
    simp [Message.members, Header.members, List.filter_append, filter_field_self,
      filter_field_of_ne, filter_member_of_ne]

theorem Message.ofMembers?_members {message : Message}
    (listing : message.header.metadata.Listing)
    (hnodes : ∀ node ∈ message.header.nodes, Node.parse node.text = .ok node)
    (hcontent : message.content.Exact) :
    Message.ofMembers? (message.members listing) = some message := by
  obtain ⟨htype, hdocument⟩ := message.filter_members listing
  simp only [Message.ofMembers?, (message.carried listing).ofMembers? hnodes,
    required_of_filter htype (Lawful.ofTree?_tree _),
    required_of_filter hdocument (ofTree?_tree_json hcontent), Option.bind_eq_bind,
    Option.bind_some]

theorem Notification.filter_members (notification : Notification)
    (listing : notification.header.metadata.Listing) :
    (notification.members listing).filter (·.1 = "event") =
      field "event" (some notification.event) ∧
    (notification.members listing).filter (·.1 = "reason") =
      field "reason" notification.reason := by
  refine ⟨?_, ?_⟩ <;>
    simp [Notification.members, Header.members, List.filter_append, filter_field_self,
      filter_field_of_ne, filter_member_of_ne]

theorem Notification.ofMembers?_members {notification : Notification}
    (listing : notification.header.metadata.Listing)
    (hnodes : ∀ node ∈ notification.header.nodes, Node.parse node.text = .ok node) :
    Notification.ofMembers? (notification.members listing) = some notification := by
  obtain ⟨hevent, hreason⟩ := notification.filter_members listing
  simp only [Notification.ofMembers?, (notification.carried listing).ofMembers? hnodes,
    required_of_filter hevent (Lawful.ofTree?_tree _), optional_of_lawful hreason,
    Option.bind_eq_bind, Option.bind_some]

theorem Command.filter_members (command : Command)
    (listing : command.header.metadata.Listing) :
    (command.members listing).filter (·.1 = "method") = field "method" (some command.method) ∧
    (command.members listing).filter (·.1 = "uri") = field "uri" command.uri ∧
    (command.members listing).filter (·.1 = "type") = field "type" command.mediaType ∧
    (command.members listing).filter (·.1 = "resource") = field "resource" command.resource ∧
    (command.members listing).filter (·.1 = "status") = field "status" command.status ∧
    (command.members listing).filter (·.1 = "reason") = field "reason" command.reason := by
  refine ⟨?_, ?_, ?_, ?_, ?_, ?_⟩ <;>
    simp [Command.members, Header.members, List.filter_append, filter_field_self,
      filter_field_of_ne, filter_member_of_ne]

/-- Free JSON that is not null is read back from an optional field. -/
theorem optional_json {key : String} {members : List (String × Tree)} {document : Option Json}
    (h : members.filter (·.1 = key) = field key document)
    (hexact : ∀ j, document = some j → j.Exact) (hnull : document ≠ some .null) :
    optional key members = some document := by
  refine optional_of_filter h (fun j hj => ofTree?_tree_json (hexact j hj)) fun j hj => ?_
  apply tree_json_ne_null
  rintro rfl
  exact hnull hj

theorem Json.filter_ne_null {document : Option Json} (h : document ≠ some .null) :
    document.filter (· ≠ .null) = document := by
  cases document with
  | none => rfl
  | some j => exact Option.filter_some_pos (decide_eq_true fun hj => h (congrArg some hj))

/-- A null in an optional field is read as absence, all other free JSON as itself. -/
theorem optional_document {key : String} {members : List (String × Tree)} {document : Option Json}
    (h : members.filter (·.1 = key) = field key document)
    (hexact : ∀ j, document = some j → j.Exact) :
    optional key members = some (document.filter (· ≠ .null)) := by
  by_cases hnull : document = some .null
  · subst hnull
    have hlookup : lookup key members = some (some .null) := lookup_of_filter h
    unfold Wire.optional
    rw [hlookup]
    rfl
  · rw [optional_json h hexact hnull, Json.filter_ne_null hnull]

theorem Command.ofMembers?_members {command : Command}
    (listing : command.header.metadata.Listing)
    (hnodes : ∀ node ∈ command.header.nodes, Node.parse node.text = .ok node)
    (hexact : ∀ j, command.resource = some j → j.Exact) (hnull : command.resource ≠ some .null) :
    Command.ofMembers? (command.members listing) = some command := by
  obtain ⟨hmethod, huri, htype, hresource, hstatus, hreason⟩ := command.filter_members listing
  simp only [Command.ofMembers?, (command.carried listing).ofMembers? hnodes,
    required_of_filter hmethod (Lawful.ofTree?_tree _), optional_of_lawful huri,
    optional_of_lawful htype, optional_json hresource hexact hnull, optional_of_lawful hstatus,
    optional_of_lawful hreason, Option.bind_eq_bind, Option.bind_some]

theorem Session.filter_members (session : Session)
    (listing : session.header.metadata.Listing) :
    (session.members listing).filter (·.1 = "state") = field "state" (some session.state) ∧
    (session.members listing).filter (·.1 = "encryptionOptions") =
      field "encryptionOptions" session.encryptionOptions ∧
    (session.members listing).filter (·.1 = "encryption") =
      field "encryption" session.encryption ∧
    (session.members listing).filter (·.1 = "compressionOptions") =
      field "compressionOptions" session.compressionOptions ∧
    (session.members listing).filter (·.1 = "compression") =
      field "compression" session.compression ∧
    (session.members listing).filter (·.1 = "scheme") = field "scheme" session.scheme ∧
    (session.members listing).filter (·.1 = "authentication") =
      field "authentication" session.authentication ∧
    (session.members listing).filter (·.1 = "reason") = field "reason" session.reason := by
  refine ⟨?_, ?_, ?_, ?_, ?_, ?_, ?_, ?_⟩ <;>
    simp [Session.members, Header.members, List.filter_append, filter_field_self,
      filter_field_of_ne, filter_member_of_ne]

/-- A session without a document if the document is null. -/
def Session.withoutNull (session : Session) : Session :=
  { session with authentication := session.authentication.filter (· ≠ .null) }

theorem Session.withoutNull_of_ne {session : Session} (h : session.authentication ≠ some .null) :
    session.withoutNull = session := by
  rw [withoutNull, Json.filter_ne_null h]

/-- The members of a session are read as that session, and a null document as none. -/
theorem Session.ofMembers?_withoutNull {session : Session}
    (listing : session.header.metadata.Listing)
    (hnodes : ∀ node ∈ session.header.nodes, Node.parse node.text = .ok node)
    (hexact : ∀ j, session.authentication = some j → j.Exact) :
    Session.ofMembers? (session.members listing) = some session.withoutNull := by
  obtain ⟨hstate, hencryptions, hencryption, hcompressions, hcompression, hscheme,
    hauthentication, hreason⟩ := session.filter_members listing
  simp only [Session.ofMembers?, (session.carried listing).ofMembers? hnodes,
    required_of_filter hstate (Lawful.ofTree?_tree _), optional_of_lawful hencryptions,
    optional_of_lawful hencryption, optional_of_lawful hcompressions,
    optional_of_lawful hcompression, optional_of_lawful hscheme,
    optional_document hauthentication hexact, optional_of_lawful hreason, Option.bind_eq_bind,
    Option.bind_some, withoutNull]

theorem Session.ofMembers?_members {session : Session}
    (listing : session.header.metadata.Listing)
    (hnodes : ∀ node ∈ session.header.nodes, Node.parse node.text = .ok node)
    (hexact : ∀ j, session.authentication = some j → j.Exact)
    (hnull : session.authentication ≠ some .null) :
    Session.ofMembers? (session.members listing) = some session := by
  rw [Session.ofMembers?_withoutNull listing hnodes hexact, Session.withoutNull_of_ne hnull]

/-! ## No kind is taken for another

Kinds are tried in the order session, command, notification, message.  Each needs a field that no
later kind writes. -/

theorem Session.ofMembers?_of_filter {members : List (String × Tree)}
    (h : members.filter (·.1 = "state") = []) : Session.ofMembers? members = none := by
  simp only [Session.ofMembers?, required_of_filter_nil h, Option.bind_eq_bind, Option.bind_none,
    Option.bind_fun_none]

theorem Command.ofMembers?_of_filter {members : List (String × Tree)}
    (h : members.filter (·.1 = "method") = []) : Command.ofMembers? members = none := by
  simp only [Command.ofMembers?, required_of_filter_nil h, Option.bind_eq_bind, Option.bind_none,
    Option.bind_fun_none]

theorem Notification.ofMembers?_of_filter {members : List (String × Tree)}
    (h : members.filter (·.1 = "event") = []) : Notification.ofMembers? members = none := by
  simp only [Notification.ofMembers?, required_of_filter_nil h, Option.bind_eq_bind,
    Option.bind_none, Option.bind_fun_none]

/-! ## What an envelope must be to be recovered -/

/-- The metadata nests the same in whatever order it is listed. -/
theorem Header.membersNesting_members (header : Header)
    (listing other : header.metadata.Listing) :
    Tree.membersNesting (header.members listing) = Tree.membersNesting (header.members other) := by
  simp only [Header.members, Tree.membersNesting_append]
  congr 1
  split
  · rfl
  · simp only [member, Tree.membersNesting, nesting_listing]

namespace Envelope

/-- The free JSON in an envelope. -/
def documents : Envelope → List Json
  | message m => [m.content]
  | notification _ => []
  | command c => c.resource.toList
  | session s => s.authentication.toList

/-- Whether no optional document is null, which is how absence may be written too. -/
def NullFree : Envelope → Prop
  | command c => c.resource ≠ some .null
  | session s => s.authentication ≠ some .null
  | _ => True

/-- How deep an envelope nests as a tree, in whatever order its metadata is listed
(`nesting_tree`). -/
def nesting (envelope : Envelope) : Nat :=
  (envelope.tree envelope.sorted).nesting

/-- Whether an envelope can be recovered from its texts. -/
structure Recoverable (envelope : Envelope) : Prop where
  nodes : ∀ node ∈ envelope.header.nodes, Node.parse node.text = .ok node
  nullFree : envelope.NullFree
  documents : ∀ j ∈ envelope.documents, j.Exact
  nesting : envelope.nesting ≤ maxNesting

theorem nesting_tree (envelope : Envelope) (listing : envelope.Listing) :
    (envelope.tree listing).nesting = envelope.nesting := by
  refine congrArg (· + 1) ?_
  cases envelope with
  | message m =>
    simp only [members, Message.members, Tree.membersNesting_append,
      m.header.membersNesting_members listing (message m).sorted]
  | notification n =>
    simp only [members, Notification.members, Tree.membersNesting_append,
      n.header.membersNesting_members listing (notification n).sorted]
  | command c =>
    simp only [members, Command.members, Tree.membersNesting_append,
      c.header.membersNesting_members listing (command c).sorted]
  | session s =>
    simp only [members, Session.members, Tree.membersNesting_append,
      s.header.membersNesting_members listing (session s).sorted]

/-- The members of an envelope are addresses, small fields, metadata as it is listed, and
documents. -/
theorem forall_mem_members {P : Tree → Prop} (hnode : ∀ node : Node, P (Wire.tree node))
    (hlawful : ∀ (α : Type) [Wire α] [Lawful α] (a : α), P (Wire.tree a))
    (hlisting : ∀ {metadata : Metadata} (listing : metadata.Listing), P listing.tree)
    (envelope : Envelope) (listing : envelope.Listing)
    (hdocuments : ∀ j ∈ envelope.documents, P (Wire.tree j)) :
    ∀ member ∈ envelope.members listing, P member.2 := by
  have hfield : ∀ (α : Type) [Wire α] [Lawful α] (key : String) (a : Option α),
      ∀ member ∈ field key a, P member.2 := fun α _ _ key a =>
    forall_mem_field.mpr fun x _ => hlawful α x
  have hnodes : ∀ (key : String) (a : Option Node), ∀ member ∈ field key a, P member.2 :=
    fun key a => forall_mem_field.mpr fun x _ => hnode x
  have hheader : ∀ (header : Header) (listing : header.metadata.Listing),
      ∀ member ∈ header.members listing, P member.2 := by
    intro header listing
    have hmetadata : ∀ member ∈ Wire.member "metadata"
        (if header.metadata.isEmpty then none else some listing.tree), P member.2 := by
      split
      · exact nofun
      · exact List.forall_mem_singleton.mpr (hlisting listing)
    simp only [Header.members, List.forall_mem_append]
    exact ⟨⟨⟨⟨hfield _ _ _, hnodes _ _⟩, hnodes _ _⟩, hnodes _ _⟩, hmetadata⟩
  cases envelope with
  | message m =>
    have hcontent : ∀ member ∈ field "content" (some m.content), P member.2 :=
      forall_mem_field.mpr fun j hj => hdocuments j (by simpa [documents] using hj.symm)
    simp only [members, Message.members, List.forall_mem_append]
    exact ⟨⟨hheader _ _, hfield _ _ _⟩, hcontent⟩
  | notification n =>
    simp only [members, Notification.members, List.forall_mem_append]
    exact ⟨⟨hheader _ _, hfield _ _ _⟩, hfield _ _ _⟩
  | command c =>
    have hresource : ∀ member ∈ field "resource" c.resource, P member.2 :=
      forall_mem_field.mpr fun j hj => hdocuments j (by simp [documents, hj])
    simp only [members, Command.members, List.forall_mem_append]
    exact ⟨⟨⟨⟨⟨⟨hheader _ _, hfield _ _ _⟩, hfield _ _ _⟩, hfield _ _ _⟩, hresource⟩,
      hfield _ _ _⟩, hfield _ _ _⟩
  | session s =>
    have hauthentication : ∀ member ∈ field "authentication" s.authentication, P member.2 :=
      forall_mem_field.mpr fun j hj => hdocuments j (by simp [documents, hj])
    simp only [members, Session.members, List.forall_mem_append]
    exact ⟨⟨⟨⟨⟨⟨⟨⟨hheader _ _, hfield _ _ _⟩, hfield _ _ _⟩, hfield _ _ _⟩, hfield _ _ _⟩,
      hfield _ _ _⟩, hfield _ _ _⟩, hauthentication⟩, hfield _ _ _⟩

theorem exact_tree {envelope : Envelope} (listing : envelope.Listing)
    (h : ∀ j ∈ envelope.documents, j.Exact) : (envelope.tree listing).Exact := by
  refine Tree.membersExact_iff.mpr (forall_mem_members ?_ ?_ exact_listing envelope listing ?_)
  · exact fun _ => trivial
  · exact fun _ _ _ a => Lawful.exact_tree a
  · exact fun j hj => Json.exact_toTree (h j hj)

/-! ## Reading what was written -/

/-- The members of an envelope are read as that envelope. -/
theorem ofMembers?_members {envelope : Envelope} (h : envelope.Recoverable)
    (listing : envelope.Listing) : ofMembers? (envelope.members listing) = some envelope := by
  obtain ⟨hnodes, hnull, hdocuments, -⟩ := h
  cases envelope with
  | message m =>
    have hread : Message.ofMembers? (m.members listing) = some m :=
      Message.ofMembers?_members listing hnodes (hdocuments _ (by simp [documents]))
    have hstate : (m.members listing).filter (·.1 = "state") = [] := by
      simp [Message.members, Header.members, List.filter_append, filter_field_of_ne,
        filter_member_of_ne]
    have hmethod : (m.members listing).filter (·.1 = "method") = [] := by
      simp [Message.members, Header.members, List.filter_append, filter_field_of_ne,
        filter_member_of_ne]
    have hevent : (m.members listing).filter (·.1 = "event") = [] := by
      simp [Message.members, Header.members, List.filter_append, filter_field_of_ne,
        filter_member_of_ne]
    simp [ofMembers?, members, hread, Session.ofMembers?_of_filter hstate,
      Command.ofMembers?_of_filter hmethod, Notification.ofMembers?_of_filter hevent]
  | notification n =>
    have hread : Notification.ofMembers? (n.members listing) = some n :=
      Notification.ofMembers?_members listing hnodes
    have hstate : (n.members listing).filter (·.1 = "state") = [] := by
      simp [Notification.members, Header.members, List.filter_append, filter_field_of_ne,
        filter_member_of_ne]
    have hmethod : (n.members listing).filter (·.1 = "method") = [] := by
      simp [Notification.members, Header.members, List.filter_append, filter_field_of_ne,
        filter_member_of_ne]
    simp [ofMembers?, members, hread, Session.ofMembers?_of_filter hstate,
      Command.ofMembers?_of_filter hmethod]
  | command c =>
    have hread : Command.ofMembers? (c.members listing) = some c :=
      Command.ofMembers?_members listing hnodes
        (fun j hj => hdocuments j (by simp [documents, hj])) hnull
    have hstate : (c.members listing).filter (·.1 = "state") = [] := by
      simp [Command.members, Header.members, List.filter_append, filter_field_of_ne,
        filter_member_of_ne]
    simp [ofMembers?, members, hread, Session.ofMembers?_of_filter hstate]
  | session s =>
    have hread : Session.ofMembers? (s.members listing) = some s :=
      Session.ofMembers?_members listing hnodes
        (fun j hj => hdocuments j (by simp [documents, hj])) hnull
    simp [ofMembers?, members, hread]

/-- What is read from the text of an envelope is what its members are read as. -/
theorem ofText_text_of_members {envelope received : Envelope} {listing : envelope.Listing}
    (hexact : ∀ j ∈ envelope.documents, j.Exact) (hnesting : envelope.nesting ≤ maxNesting)
    (hmembers : ofMembers? (envelope.members listing) = some received) :
    ofText (envelope.text listing) = .ok received := by
  have hwhole : (envelope.tree listing).Exact := exact_tree listing hexact
  have htree : ofTree? (envelope.tree listing) = some received := hmembers
  have hdepth : (envelope.tree listing).nesting ≤ maxNesting :=
    nesting_tree envelope listing ▸ hnesting
  rw [ofText, text, Tree.read?_text hwhole hdepth]
  simp only [Tree.isWhole_of_exact hwhole, if_true, htree, skipSpace, List.isEmpty_nil]

theorem ofText_text_of_recoverable {envelope : Envelope} (h : envelope.Recoverable)
    (listing : envelope.Listing) : ofText (envelope.text listing) = .ok envelope :=
  ofText_text_of_members h.documents h.nesting (ofMembers?_members h listing)

/-- An envelope nests one deeper than its documents, as far as these nest at all. -/
theorem nesting_le_of_documents {envelope : Envelope} {n : Nat} (hn : 1 ≤ n)
    (h : ∀ j ∈ envelope.documents, j.toTree.nesting ≤ n) : envelope.nesting ≤ n + 1 := by
  refine Nat.succ_le_succ (Tree.membersNesting_le_iff.mpr
    (forall_mem_members (P := (·.nesting ≤ n)) ?_ ?_ ?_ envelope envelope.sorted h))
  · exact fun _ => Nat.zero_le _
  · exact fun _ _ _ a => Nat.le_trans (Lawful.nesting_tree a) hn
  · exact fun listing => Nat.le_trans (Nat.le_of_eq (nesting_listing listing)) hn

end Envelope

/-! ## What was read meets the conditions on nulls and nesting -/

namespace Wire

theorem mem_of_lookup {key : String} {members : List (String × Tree)} {t : Tree}
    (h : lookup key members = some (some t)) : (key, t) ∈ members := by
  unfold lookup at h
  split at h
  · cases h
  · rename_i member heq
    have hmem : member ∈ members.filter (·.1 = key) := heq ▸ List.mem_cons_self
    obtain ⟨hmember, hkey⟩ := List.mem_filter.mp hmem
    have hvalue : member.2 = t := by
      rw [Option.some.injEq, Option.some.injEq] at h
      exact h
    rwa [← of_decide_eq_true hkey, ← hvalue]
  · cases h

theorem value?_of_required {key : String} {members : List (String × Tree)} {j : Json}
    (h : required key members = some j) : ∃ t, (key, t) ∈ members ∧ t.value? = some j := by
  simp only [required, Option.bind_eq_bind, Option.bind_eq_some_iff] at h
  obtain ⟨found, hlookup, t, rfl, hvalue⟩ := h
  exact ⟨t, mem_of_lookup hlookup, hvalue⟩

/-- A document that an optional field was read as is not null, and stands among the members. -/
theorem value?_of_optional {key : String} {members : List (String × Tree)}
    {document : Option Json} (h : optional key members = some document) :
    document ≠ some .null ∧
      ∀ j, document = some j → ∃ t, (key, t) ∈ members ∧ t.value? = some j := by
  simp only [optional, Option.bind_eq_bind, Option.bind_eq_some_iff] at h
  obtain ⟨found, hlookup, h⟩ := h
  split at h
  · cases h
    exact ⟨by rintro ⟨⟩, by rintro j ⟨⟩⟩
  · cases h
    exact ⟨by rintro ⟨⟩, by rintro j ⟨⟩⟩
  · rename_i t hnull
    obtain ⟨j, hvalue, rfl⟩ := Option.map_eq_some_iff.mp h
    refine ⟨?_, ?_⟩
    · rintro heq
      rw [Option.some.inj heq] at hvalue
      exact ofTree?_ne_null (fun ht => hnull (by rw [ht])) hvalue
    · rintro j' ⟨⟩
      exact ⟨t, mem_of_lookup hlookup, hvalue⟩

end Wire

namespace Envelope

theorem ofMembers?_cases {members : List (String × Tree)} {envelope : Envelope}
    (h : ofMembers? members = some envelope) :
    (∃ s, Session.ofMembers? members = some s ∧ envelope = session s) ∨
    (∃ c, Command.ofMembers? members = some c ∧ envelope = command c) ∨
    (∃ n, Notification.ofMembers? members = some n ∧ envelope = notification n) ∨
    (∃ m, Message.ofMembers? members = some m ∧ envelope = message m) := by
  simp only [ofMembers?, Option.orElse_eq_orElse, Option.orElse_eq_or, Option.or_eq_some_iff,
    Option.map_eq_some_iff] at h
  rcases h with ⟨s, hs, rfl⟩ | ⟨-, ⟨c, hc, rfl⟩ | ⟨-, ⟨n, hn, rfl⟩ | ⟨-, m, hm, rfl⟩⟩⟩
  · exact .inl ⟨s, hs, rfl⟩
  · exact .inr (.inl ⟨c, hc, rfl⟩)
  · exact .inr (.inr (.inl ⟨n, hn, rfl⟩))
  · exact .inr (.inr (.inr ⟨m, hm, rfl⟩))

/-- The documents of an envelope stand among the members that it was read from, and none of them is
a null that could be left out. -/
theorem documents_of_ofMembers? {members : List (String × Tree)} {envelope : Envelope}
    (h : ofMembers? members = some envelope) :
    envelope.NullFree ∧
      ∀ j ∈ envelope.documents, ∃ key t, (key, t) ∈ members ∧ t.value? = some j := by
  rcases ofMembers?_cases h with ⟨s, hs, rfl⟩ | ⟨c, hc, rfl⟩ | ⟨n, hn, rfl⟩ | ⟨m, hm, rfl⟩
  · simp only [Session.ofMembers?, Option.bind_eq_bind, Option.bind_eq_some_iff,
      Option.some.injEq] at hs
    obtain ⟨_, -, _, -, _, -, _, -, _, -, _, -, _, -, document, hdocument, _, -, rfl⟩ := hs
    obtain ⟨hnull, hread⟩ := value?_of_optional hdocument
    exact ⟨hnull, fun j hj => ⟨_, hread j (by simpa [documents] using hj)⟩⟩
  · simp only [Command.ofMembers?, Option.bind_eq_bind, Option.bind_eq_some_iff,
      Option.some.injEq] at hc
    obtain ⟨_, -, _, -, _, -, _, -, document, hdocument, _, -, _, -, rfl⟩ := hc
    obtain ⟨hnull, hread⟩ := value?_of_optional hdocument
    exact ⟨hnull, fun j hj => ⟨_, hread j (by simpa [documents] using hj)⟩⟩
  · exact ⟨trivial, fun j hj => absurd hj List.not_mem_nil⟩
  · simp only [Message.ofMembers?, Option.bind_eq_bind, Option.bind_eq_some_iff,
      Option.some.injEq] at hm
    obtain ⟨_, -, _, -, document, hdocument, rfl⟩ := hm
    refine ⟨trivial, fun j hj => ?_⟩
    rw [documents, List.mem_singleton] at hj
    rw [hj]
    exact ⟨_, value?_of_required hdocument⟩

/-- An envelope nests no deeper than the text that it was read from. -/
theorem nesting_le {members : List (String × Tree)} {envelope : Envelope}
    (h : ofMembers? members = some envelope) (hnesting : Tree.membersNesting members < maxNesting) :
    envelope.nesting ≤ maxNesting := by
  refine nesting_le_of_documents (n := maxNesting - 1) (by decide) fun j hj => ?_
  obtain ⟨key, t, hmember, hvalue⟩ := (documents_of_ofMembers? h).2 j hj
  have hlisted : t.nesting ≤ Tree.membersNesting members :=
    Tree.membersNesting_le_iff.mp (Nat.le_refl _) (key, t) hmember
  have hread : j.toTree.nesting ≤ t.nesting := Json.nesting_toTree_le hvalue
  omega

theorem members_of_ofText {s : String} {envelope : Envelope} (h : ofText s = .ok envelope) :
    ∃ members, ofMembers? members = some envelope ∧ Tree.membersNesting members < maxNesting := by
  unfold ofText at h
  split at h
  · cases h
  rename_i t rest hread
  by_cases hwhole : t.isWhole = true
  · rw [if_pos hwhole] at h
    have hbound : t.nesting ≤ maxNesting := Tree.nesting_le_of_read? hread hwhole
    split at h
    · cases h
    rename_i found htree
    split at h <;> cases h
    cases t with
    | object members => exact ⟨members, htree, hbound⟩
    | _ => cases htree
  · rw [if_neg hwhole] at h
    cases h

/-- What is written for an envelope is read back as that envelope: its kind, every field of its
header, every option list, the reason and the documents.  The metadata may be listed in any order.
Addresses must be what their texts stand for, a null may not stand where an absent document is
meant, documents may hold no binary64 numbers, and the nesting is bounded.  What was read meets the
conditions on nulls and nesting by itself. -/
theorem text_round_trip :
    (∀ envelope : Envelope, envelope.Recoverable →
      ∀ listing : envelope.Listing, ofText (envelope.text listing) = .ok envelope) ∧
    ∀ (s : String) (envelope : Envelope), ofText s = .ok envelope →
      envelope.NullFree ∧ ∀ listing, (envelope.tree listing).nesting ≤ maxNesting := by
  refine ⟨fun envelope h => ofText_text_of_recoverable h, fun s envelope h => ?_⟩
  obtain ⟨members, hread, hnesting⟩ := members_of_ofText h
  refine ⟨(documents_of_ofMembers? hread).1, fun listing => ?_⟩
  rw [nesting_tree]
  exact nesting_le hread hnesting

/-- A command with an address, metadata, a document in which values nest, and a reason. -/
def detailedCommand : Envelope :=
  .command {
    header := {
      id := some "1\n"
      sender := some ⟨⟨some "alice", some "example.org"⟩, some "home"⟩
      metadata := .ofList [("note", "\"quoted\""), ("a", "\\"), ("é", "")] }
    method := .set
    uri := some "/contacts"
    resource := some (.object [
      ("items", .array [.number (.whole 18446744073709551615), .number (.whole (-5)), .null]),
      ("name", .string "\u0001é")])
    reason := some { code := -7, description := some "" } }

/-- Its metadata, in an order that is not that of the keys. -/
def detailedCommand.shuffled : detailedCommand.Listing where
  entries := [("note", "\"quoted\""), ("é", ""), ("a", "\\")]
  perm := by decide

theorem recoverable_detailedCommand : detailedCommand.Recoverable := by
  refine ⟨fun node hnode => ?_, by rintro ⟨⟩, fun j hj => ?_, by decide⟩
  · simp only [detailedCommand, header, Header.nodes, Option.toList_some, Option.toList_none,
      List.append_nil, List.mem_singleton] at hnode
    subst hnode
    rfl
  · simp only [detailedCommand, documents, Option.toList_some, List.mem_singleton] at hj
    subst hj
    exact ⟨by decide, ⟨⟨by decide, by decide⟩, ⟨by decide, by decide⟩, trivial, trivial⟩, trivial,
      trivial⟩

theorem detailedCommand_round_trip :
    detailedCommand.Recoverable ∧
      detailedCommand.text detailedCommand.sorted ≠
        detailedCommand.text detailedCommand.shuffled ∧
      ofText (detailedCommand.text detailedCommand.sorted) = .ok detailedCommand ∧
      ofText (detailedCommand.text detailedCommand.shuffled) = .ok detailedCommand ∧
      detailedCommand.NullFree ∧
        ∀ listing, (detailedCommand.tree listing).nesting ≤ maxNesting :=
  have hread := text_round_trip.1 detailedCommand recoverable_detailedCommand
  ⟨recoverable_detailedCommand, by decide +kernel, hread _, hread _,
    text_round_trip.2 _ _ (hread detailedCommand.sorted)⟩

end Envelope
end Courier
