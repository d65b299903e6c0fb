/-
Where the members of an envelope stand, and what stands between them, does not matter.

A record looks its fields up by their keys.  What a key finds depends on the members with that key
alone (`Wire.lookup_of_perm`), and so not on their order, since it finds nothing if there are
several.  Each kind of envelope is therefore read, or not, from the members with its own keys; and
so is the first kind that fits, from those with the keys of any kind (`order_irrelevant`).
-/
import Courier.Proofs.Json.RoundTrip
import Courier.Envelope.Text
import Mathlib.Data.List.Perm.Basic

namespace Courier

namespace Wire

variable {α : Type} {key : String} {names : List String} {members others : List (String × Tree)}

/-! ## What a key finds -/

/-- A key finds the same among members that it finds the same members among, in any order. -/
theorem lookup_of_perm
    (h : (members.filter (·.1 = key)).Perm (others.filter (·.1 = key))) :
    lookup key members = lookup key others := by
  unfold lookup
  generalize members.filter (·.1 = key) = found at h
  generalize others.filter (·.1 = key) = found' at h
  match found with
  | [] => rw [h.nil_eq]
  | [member] => rw [h.singleton_eq]
  | first :: second :: rest =>
    have hlength := h.length_eq
    match found' with
    | [] => cases hlength
    | [member] => simp at hlength
    | _ :: _ :: _ => rfl

/-- Members among which every key of a record finds the same. -/
def Alike (names : List String) (members others : List (String × Tree)) : Prop :=
  ∀ key ∈ names, lookup key members = lookup key others

theorem Alike.of_perm (h : members.Perm others) (names : List String) :
    Alike names members others :=
  fun _ _ => lookup_of_perm (h.filter _)

theorem Alike.mono {more : List String} (h : Alike more members others) (hsub : names ⊆ more) :
    Alike names members others :=
  fun key hkey => h key (hsub hkey)

section Fields

variable [Wire α]

theorem Alike.required (h : Alike names members others) (key : String) (hkey : key ∈ names) :
    (required key members : Option α) = required key others := by
  unfold Wire.required
  rw [h key hkey]

theorem Alike.optional (h : Alike names members others) (key : String) (hkey : key ∈ names) :
    (optional key members : Option (Option α)) = optional key others := by
  unfold Wire.optional
  rw [h key hkey]

theorem Alike.defaulted (h : Alike names members others) (key : String) (hkey : key ∈ names)
    (default : α) :
    defaulted key default members = defaulted key default others := by
  unfold Wire.defaulted
  rw [h key hkey]

end Fields

/-! ## Members under other keys -/

/-- Members between which others have been put, all under keys that are not among `names`. -/
inductive Padded (names : List String) :
    List (String × Tree) → List (String × Tree) → Prop where
  | nil : Padded names [] []
  | keep (member : String × Tree) {members others : List (String × Tree)} :
    Padded names members others → Padded names (member :: members) (member :: others)
  | foreign (member : String × Tree) {members others : List (String × Tree)} :
    member.1 ∉ names → Padded names members others → Padded names members (member :: others)

/-- A key of the record finds the same members. -/
theorem Padded.filter_eq (h : Padded names members others) (hkey : key ∈ names) :
    others.filter (·.1 = key) = members.filter (·.1 = key) := by
  induction h with
  | nil => rfl
  | keep member _ ih => rw [List.filter_cons, List.filter_cons, ih]
  | foreign member hforeign _ ih =>
    have hne : member.1 ≠ key := fun heq => hforeign (heq ▸ hkey)
    rw [List.filter_cons_of_neg (by simpa using hne), ih]

theorem Padded.alike (h : Padded names members others) : Alike names members others :=
  fun _ hkey => lookup_of_perm (.of_eq (h.filter_eq hkey).symm)

end Wire

open Wire

variable {members others : List (String × Tree)}

/-! ## What each kind reads -/

theorem Header.ofMembers?_of_alike (h : Alike Header.fieldNames members others) :
    Header.ofMembers? members = Header.ofMembers? others := by
  unfold Header.ofMembers?
  rw [h.optional "id" (by decide), h.optional "from" (by decide),
    h.optional "to" (by decide), h.optional "pp" (by decide),
    h.defaulted "metadata" (by decide)]

namespace Message

/-- The fields of a message, those of its header included. -/
def fieldNames : List String :=
  Header.fieldNames ++ ["type", "content"]

theorem ofMembers?_of_alike (h : Alike fieldNames members others) :
    ofMembers? members = ofMembers? others := by
  unfold ofMembers?
  rw [Header.ofMembers?_of_alike (h.mono (List.subset_append_left ..)),
    h.required "type" (by decide), h.required "content" (by decide)]

end Message

namespace Notification

def fieldNames : List String :=
  Header.fieldNames ++ ["event", "reason"]

theorem ofMembers?_of_alike (h : Alike fieldNames members others) :
    ofMembers? members = ofMembers? others := by
  unfold ofMembers?
  rw [Header.ofMembers?_of_alike (h.mono (List.subset_append_left ..)),
    h.required "event" (by decide), h.optional "reason" (by decide)]

end Notification

namespace Command

def fieldNames : List String :=
  Header.fieldNames ++ ["method", "uri", "type", "resource", "status", "reason"]

theorem ofMembers?_of_alike (h : Alike fieldNames members others) :
    ofMembers? members = ofMembers? others := by
  unfold ofMembers?
  rw [Header.ofMembers?_of_alike (h.mono (List.subset_append_left ..)),
    h.required "method" (by decide), h.optional "uri" (by decide),
    h.optional "type" (by decide), h.optional "resource" (by decide),
    h.optional "status" (by decide), h.optional "reason" (by decide)]

end Command

namespace Session

def fieldNames : List String :=
  Header.fieldNames ++ ["state", "encryptionOptions", "encryption", "compressionOptions",
    "compression", "scheme", "authentication", "reason"]

theorem ofMembers?_of_alike (h : Alike fieldNames members others) :
    ofMembers? members = ofMembers? others := by
  unfold ofMembers?
  rw [Header.ofMembers?_of_alike (h.mono (List.subset_append_left ..)),
    h.required "state" (by decide), h.optional "encryptionOptions" (by decide),
    h.optional "encryption" (by decide),
    h.optional "compressionOptions" (by decide),
    h.optional "compression" (by decide), h.optional "scheme" (by decide),
    h.optional "authentication" (by decide), h.optional "reason" (by decide)]

end Session

namespace Envelope

/-- The fields that some kind of envelope has. -/
def fieldNames : List String :=
  ["id", "from", "to", "pp", "metadata", "state", "encryptionOptions", "encryption",
    "compressionOptions", "compression", "scheme", "authentication", "reason", "method", "uri",
    "type", "resource", "status", "event", "content"]

theorem ofMembers?_of_alike (h : Alike fieldNames members others) :
    ofMembers? members = ofMembers? others := by
  unfold ofMembers?
  rw [Session.ofMembers?_of_alike (h.mono (by decide)),
    Command.ofMembers?_of_alike (h.mono (by decide)),
    Notification.ofMembers?_of_alike (h.mono (by decide)),
    Message.ofMembers?_of_alike (h.mono (by decide))]

/-! ## Texts -/

/-- A text lists members if it is one object with them, whatever white space stands around. -/
def Lists (s : String) (members : List (String × Tree)) : Prop :=
  ∃ rest, Tree.read? s.toList = some (.object members, rest) ∧ skipSpace rest = []

/-- What is read from a text that lists members: an envelope, or the fault that they are of no kind;
or the text is malformed, because a member has no value. -/
theorem ofText_of_lists {s : String} (h : Lists s members) :
    ofText s =
      if Tree.membersAreWhole members then
        match ofMembers? members with
        | some envelope => .ok envelope
        | none => .error .noKind
      else .error .malformed := by
  obtain ⟨rest, hread, hrest⟩ := h
  unfold ofText
  simp only [hread, Tree.isWhole, ofTree?, hrest, List.isEmpty_nil, if_true]
  cases ofMembers? members <;> rfl

/-- The text of an object lists its members. -/
theorem lists_text (hexact : Tree.MembersExact members)
    (hnesting : (Tree.object members).nesting ≤ maxNesting) :
    Lists (Tree.object members).text members := by
  have hread := Tree.read?_text (t := .object members) hexact hnesting
  exact ⟨[], hread, rfl⟩

theorem membersAreWhole_eq_all (members : List (String × Tree)) :
    Tree.membersAreWhole members = members.all fun member => member.2.isWhole := by
  induction members with
  | nil => rfl
  | cons member members ih => rw [Tree.membersAreWhole, List.all_cons, ih]

/-- Other members make a text malformed if one of them has no value, and never mend it. -/
theorem membersAreWhole_of_padded {names : List String} (h : Padded names members others)
    (hwhole : Tree.membersAreWhole others = true) : Tree.membersAreWhole members = true := by
  rw [membersAreWhole_eq_all] at hwhole ⊢
  induction h with
  | nil => rfl
  | keep member _ ih =>
    rw [List.all_cons, Bool.and_eq_true] at hwhole ⊢
    exact ⟨hwhole.1, ih hwhole.2⟩
  | foreign member _ _ ih =>
    rw [List.all_cons, Bool.and_eq_true] at hwhole
    exact ih hwhole.2

/-- The order of the members of an envelope does not matter, and neither do members that no kind of
envelope has, wherever they stand and however many: what is read is the same envelope, or the same
fault.  So it is with texts that list them.  Where what should be the value of a member is none (a
number out of range, half of a surrogate pair, too deep a nesting), the text lists no members of JSON,
and is malformed whatever else it holds. -/
theorem order_irrelevant (members others : List (String × Tree)) :
    (members.Perm others →
      ofMembers? others = ofMembers? members ∧
      ∀ s t : String, Lists s members → Lists t others → ofText t = ofText s) ∧
    (Padded fieldNames members others →
      ofMembers? others = ofMembers? members ∧
      ∀ s t : String, Lists s members → Lists t others →
        ofText t = if Tree.membersAreWhole others then ofText s else .error .malformed) := by
  refine ⟨fun hperm => ?_, fun hpadded => ?_⟩
  · have hread := (ofMembers?_of_alike (Alike.of_perm hperm fieldNames)).symm
    refine ⟨hread, fun s t hs ht => ?_⟩
    have hwhole : Tree.membersAreWhole others = Tree.membersAreWhole members := by
      rw [membersAreWhole_eq_all, membersAreWhole_eq_all, hperm.all_eq]
    rw [ofText_of_lists hs, ofText_of_lists ht, hread, hwhole]
  · have hread := (ofMembers?_of_alike hpadded.alike).symm
    refine ⟨hread, fun s t hs ht => ?_⟩
    rw [ofText_of_lists hs, ofText_of_lists ht, hread]
    by_cases hwhole : Tree.membersAreWhole others = true
    · rw [if_pos hwhole, if_pos hwhole, if_pos (membersAreWhole_of_padded hpadded hwhole)]
    · rw [if_neg hwhole, if_neg hwhole]

/-- A command among whose members a field of another kind stands twice. -/
def mixedMembers : List (String × Tree) :=
  [("event", .null), ("method", .string "get"), ("event", .string "received"), ("id", .string "1")]

/-- The same members from the last to the first, between others that no kind has. -/
def paddedMembers : List (String × Tree) :=
  ("note", .array [.null]) :: mixedMembers.reverse ++ [("Method", .null), ("note", .bool true)]

theorem padded_paddedMembers : Padded fieldNames mixedMembers.reverse paddedMembers :=
  .foreign _ (by decide) (.keep _ (.keep _ (.keep _ (.keep _
    (.foreign _ (by decide) (.foreign _ (by decide) .nil))))))

theorem order_irrelevant_mixed :
    let s := (Tree.object mixedMembers).text
    let t := (Tree.object mixedMembers.reverse).text
    let u := (Tree.object paddedMembers).text
    Lists s mixedMembers ∧ Lists t mixedMembers.reverse ∧ Lists u paddedMembers ∧
      ofText t = ofText s ∧ ofText u = ofText t ∧
      ofText u = .ok (.command { header := { id := some "1" }, method := .get }) := by
  intro s t u
  have hs : Lists s mixedMembers :=
    lists_text ⟨trivial, trivial, trivial, trivial, trivial⟩ (by decide)
  have ht : Lists t mixedMembers.reverse :=
    lists_text ⟨trivial, trivial, trivial, trivial, trivial⟩ (by decide)
  have hu : Lists u paddedMembers :=
    lists_text ⟨⟨trivial, trivial⟩, trivial, trivial, trivial, trivial, trivial, trivial, trivial⟩
      (by decide)
  have hts : ofText t = ofText s :=
    ((order_irrelevant _ _).1 (List.reverse_perm mixedMembers).symm).2 s t hs ht
  have hut : ofText u = ofText t :=
    (((order_irrelevant _ _).2 padded_paddedMembers).2 t u ht hu).trans (if_pos rfl)
  refine ⟨hs, ht, hu, hts, hut, ?_⟩
  rw [hut, ofText_of_lists ht]
  rfl

end Envelope
end Courier
