/-
A text may give some of the settings only.

Whatever fields a text gives, in whatever order and among whatever else, those are set and the others
have their defaults (`given_fields_read`).  An entry sets its field and no other, and one with an
unknown key sets none, so that only the keys count that there are.
-/
import Courier.Proofs.Settings.RoundTrip

namespace Courier

open Toml (Item Key Origin Scalar Span Reads PairsRead TablesRead)

/-! ## Tables that give some fields -/

/-- Entries give the fields `chosen` of those that are known, each with its value, and no other. -/
structure Gives (known : List String) (isValue : String → Item → Prop) (chosen : List String)
    (entries : List (Key × Item)) : Prop where
  given : ∀ key ∈ chosen, ∃ entry ∈ entries, entry.1.text = key
  values : ∀ entry ∈ entries, entry.1.text ∈ known →
    entry.1.text ∈ chosen ∧ isValue entry.1.text entry.2

/-- An item is the scalar that belongs to a key. -/
def IsScalar (scalar? : String → Option Scalar) (key : String) (item : Item) : Prop :=
  ∃ span value, scalar? key = some value ∧ item = .scalar span value

/-- Pairs of a table that are written for the fields `chosen` of those that are known.  There may be
other pairs, whose values are of any kind. -/
structure IsWritten (known : List String) (written : List (String × List Char))
    (chosen : List String) (pairs : List (String × List Char)) : Prop where
  words : ∀ pair ∈ pairs, Toml.isWord pair.1 = true
  distinct : (pairs.map Prod.fst).Nodup
  given : ∀ key ∈ chosen, key ∈ pairs.map Prod.fst
  values : ∀ pair ∈ pairs, pair.1 ∈ known → pair.1 ∈ chosen ∧ pair ∈ written
  others : ∀ pair ∈ pairs, pair.1 ∉ known → Toml.IsValue pair.2

section

variable {known chosen : List String} {written pairs : List (String × List Char)}

theorem IsWritten.arePairs (h : IsWritten known written chosen pairs)
    (hwritten : Toml.ArePairs written) : Toml.ArePairs pairs where
  words := h.words
  distinct := h.distinct
  values pair hpair := by
    by_cases hknown : pair.1 ∈ known
    · exact hwritten.values pair (h.values pair hpair hknown).2
    · exact h.others pair hpair hknown

theorem IsWritten.gives {scalar? : String → Option Scalar} {entries : List (Key × Item)}
    (h : IsWritten known written chosen pairs) (hread : PairsRead pairs entries)
    (hstands : ∀ pair ∈ written,
      ∃ value, scalar? pair.1 = some value ∧ Toml.Stands pair.2 value) :
    Gives known (IsScalar scalar?) chosen entries := by
  obtain ⟨hentry, hpair⟩ := Toml.exists_mem_of_forall₂ hread
  constructor
  · intro key hkey
    obtain ⟨pair, hmem, rfl⟩ := List.mem_map.mp (h.given key hkey)
    obtain ⟨entry, hmem, hsame, -⟩ := hentry pair hmem
    exact ⟨entry, hmem, hsame⟩
  · intro entry hmem hknown
    obtain ⟨pair, hmem, hsame, hitem⟩ := hpair entry hmem
    rw [hsame] at hknown ⊢
    obtain ⟨hchosen, hwritten⟩ := h.values pair hmem hknown
    obtain ⟨value, hvalue, hstands⟩ := hstands pair hwritten
    obtain ⟨span, hscalar⟩ := hstands.eq_scalar hitem
    exact ⟨hchosen, span, value, hvalue, hscalar⟩

/-- The keys of entries that are known are those that they give. -/
theorem Gives.mem_iff {isValue : String → Item → Prop} {entries : List (Key × Item)}
    (h : Gives known isValue chosen entries) {key : String} (hkey : key ∈ known) :
    key ∈ entries.map (·.1.text) ↔ key ∈ chosen := by
  rw [List.mem_map]
  constructor
  · rintro ⟨entry, hentry, rfl⟩
    exact (h.values entry hentry hkey).1
  · exact h.given key

end

/-! ## Records that are read field by field -/

/-- A record is read field by field: `take` replaces the field of one key and `onto` the fields of
several, both by those of a fixed record.  A key that is not known has no field. -/
structure FieldByField {α : Type} (known : List String)
    (set : String → Item → α → Except Problem α) (take : String → α → α)
    (onto : List String → α → α) : Prop where
  unknown : ∀ key, key ∉ known → ∀ item base, set key item base = .ok (take key base)
  onto_nil : ∀ base, onto [] base = base
  onto_cons : ∀ key keys base, onto (key :: keys) base = onto keys (take key base)
  onto_congr : ∀ keys chosen, (∀ key ∈ known, key ∈ keys ↔ key ∈ chosen) →
    ∀ base, onto keys base = onto chosen base

namespace FieldByField

variable {α : Type} {known : List String} {set : String → Item → α → Except Problem α}
  {take : String → α → α} {onto : List String → α → α}

theorem foldl_take (h : FieldByField known set take onto) (keys : List String) (base : α) :
    keys.foldl (fun base key => take key base) base = onto keys base := by
  induction keys generalizing base with
  | nil => exact (h.onto_nil base).symm
  | cons key keys ih => rw [List.foldl_cons, ih, h.onto_cons]

/-- From entries that give some of its fields, a record is read with those fields replaced, in
whatever order and however often they are given. -/
theorem readRecord_of_gives (h : FieldByField known set take onto)
    {isValue : String → Item → Prop}
    (hvalue : ∀ {key item}, isValue key item → ∀ base, set key item base = .ok (take key base))
    {chosen : List String} {entries : List (Key × Item)}
    (hgives : Gives known isValue chosen entries)
    (name : String) (fields : List String) (start : α) (span : Option Span) (origin : Origin) :
    readRecord name fields set start (.table span origin entries) = .ok (onto chosen start) := by
  have hentry : ∀ entry ∈ entries, ∀ base,
      set entry.1.text entry.2 base = .ok (take entry.1.text base) := by
    intro entry hentry base
    by_cases hknown : entry.1.text ∈ known
    · exact hvalue (hgives.values entry hentry hknown).2 base
    · exact h.unknown _ hknown _ base
  have hkeys : onto (entries.map (·.1.text)) start = onto chosen start :=
    h.onto_congr _ _ (fun _ => hgives.mem_iff) start
  rw [← hkeys, ← h.foldl_take, List.foldl_map]
  refine readRecord_of_forall₂ (List.forall₂_same.mpr fun _ _ => rfl) ?_ ..
  rintro entry hmem _ base rfl
  exact hentry entry hmem base

end FieldByField

/-! ## Clients -/

namespace ClientSettings

variable {settings : ClientSettings}

/-- The value of a field that is present. -/
def scalar? (settings : ClientSettings) (key : String) : Option Scalar :=
  match key with
  | "server_address" => some (.string settings.serverAddress)
  | "identity" => some (.string settings.identity)
  | "instance" => some (.string settings.place)
  | "password" => settings.password.map .string
  | "compression" => settings.compression.map fun compression => .string (Choice.name compression)
  | "encryption" => settings.encryption.map fun encryption => .string (Choice.name encryption)
  | "log_level" => some (.string settings.logLevel)
  | _ => none

/-- The fields `chosen` of some settings, and the others of `base`. -/
def onto (settings : ClientSettings) (chosen : List String) (base : ClientSettings) :
    ClientSettings where
  serverAddress :=
    if "server_address" ∈ chosen then settings.serverAddress else base.serverAddress
  identity := if "identity" ∈ chosen then settings.identity else base.identity
  place := if "instance" ∈ chosen then settings.place else base.place
  password := if "password" ∈ chosen then settings.password else base.password
  compression := if "compression" ∈ chosen then settings.compression else base.compression
  encryption := if "encryption" ∈ chosen then settings.encryption else base.encryption
  logLevel := if "log_level" ∈ chosen then settings.logLevel else base.logLevel

theorem fieldByField (settings : ClientSettings) :
    FieldByField fieldNames readField settings.taking settings.onto where
  unknown key hkey item base := by
    simp only [fieldNames, List.mem_cons, List.not_mem_nil, or_false, not_or] at hkey
    unfold readField taking
    split <;> simp_all
  onto_nil _ := rfl
  onto_cons key keys base := by
    unfold taking
    split <;> simp_all [onto, eq_comm]
  onto_congr keys chosen h base := by
    simp only [fieldNames, List.forall_mem_cons] at h
    simp only [onto, h]

theorem readField_scalar {key : String} {item : Item} (h : IsScalar settings.scalar? key item)
    (base : ClientSettings) : readField key item base = .ok (settings.taking key base) := by
  obtain ⟨span, value, h, rfl⟩ := h
  unfold scalar? at h
  split at h
  · cases h
    rfl
  · cases h
    rfl
  · cases h
    rfl
  · obtain ⟨password, hpassword, rfl⟩ := Option.map_eq_some_iff.mp h
    simp only [readField, readText, taking, hpassword, Except.map]
  · obtain ⟨compression, hcompression, rfl⟩ := Option.map_eq_some_iff.mp h
    simp only [readField, readChoice, Choice.Lawful.ofName?_name, taking, hcompression, Except.map]
  · obtain ⟨encryption, hencryption, rfl⟩ := Option.map_eq_some_iff.mp h
    simp only [readField, readChoice, Choice.Lawful.ofName?_name, taking, hencryption, Except.map]
  · cases h
    rfl
  · cases h

theorem ofItem_of_gives {chosen : List String} {entries : List (Key × Item)}
    (h : Gives fieldNames (IsScalar settings.scalar?) chosen entries) (span : Option Span)
    (origin : Origin) : ofItem (.table span origin entries) = .ok (settings.onto chosen {}) :=
  settings.fieldByField.readRecord_of_gives readField_scalar h ..

theorem exists_stands {pair : String × List Char} (h : pair ∈ Settings.clientPairs settings) :
    ∃ value, settings.scalar? pair.1 = some value ∧ Toml.Stands pair.2 value := by
  simp only [Settings.clientPairs, List.mem_append, Option.mem_toList, Option.map_eq_some_iff,
    or_assoc, Option.some.injEq, exists_eq_left'] at h
  rcases h with rfl | rfl | rfl | ⟨password, hpassword, rfl⟩ |
    ⟨_, ⟨compression, hcompression, rfl⟩, rfl⟩ | ⟨_, ⟨encryption, hencryption, rfl⟩, rfl⟩ | rfl
  all_goals exact ⟨_, by simp only [scalar?, Option.map_some, *], Toml.stands_quoted _⟩

end ClientSettings

/-! ## Channels -/

namespace ChannelSettings

variable {settings : ChannelSettings}

/-- The value of a field. -/
def scalar? (settings : ChannelSettings) (key : String) : Option Scalar :=
  match key with
  | "fill_envelope_recipients" => some (.boolean settings.fillsAddresses)
  | "auto_reply_pings" => some (.boolean settings.answersPings)
  | "auto_notify_receipt" => some (.boolean settings.notifiesReceipt)
  | "ping_interval_ms" => some (.integer settings.pingInterval.toNat)
  | "ping_disconnection_interval_ms" => some (.integer settings.disconnectionInterval.toNat)
  | _ => none

/-- The fields `chosen` of some settings, and the others of `base`. -/
def onto (settings : ChannelSettings) (chosen : List String) (base : ChannelSettings) :
    ChannelSettings where
  fillsAddresses :=
    if "fill_envelope_recipients" ∈ chosen then settings.fillsAddresses else base.fillsAddresses
  answersPings := if "auto_reply_pings" ∈ chosen then settings.answersPings else base.answersPings
  notifiesReceipt :=
    if "auto_notify_receipt" ∈ chosen then settings.notifiesReceipt else base.notifiesReceipt
  pingInterval := if "ping_interval_ms" ∈ chosen then settings.pingInterval else base.pingInterval
  disconnectionInterval :=
    if "ping_disconnection_interval_ms" ∈ chosen then settings.disconnectionInterval
    else base.disconnectionInterval

theorem fieldByField (settings : ChannelSettings) :
    FieldByField fieldNames readField settings.taking settings.onto where
  unknown key hkey item base := by
    simp only [fieldNames, List.mem_cons, List.not_mem_nil, or_false, not_or] at hkey
    unfold readField taking
    split <;> simp_all
  onto_nil _ := rfl
  onto_cons key keys base := by
    unfold taking
    split <;> simp_all [onto, eq_comm]
  onto_congr keys chosen h base := by
    simp only [fieldNames, List.forall_mem_cons] at h
    simp only [onto, h]

theorem readField_scalar {key : String} {item : Item} (h : IsScalar settings.scalar? key item)
    (base : ChannelSettings) : readField key item base = .ok (settings.taking key base) := by
  obtain ⟨span, value, h, rfl⟩ := h
  have hinterval (n : UInt64) : readInterval (.scalar span (.integer n.toNat)) = .ok n := by
    rw [readInterval, if_pos (Int.natCast_nonneg _), Int.toNat_natCast, UInt64.ofNat_toNat]
  unfold scalar? at h
  split at h
  · cases h
    rfl
  · cases h
    rfl
  · cases h
    rfl
  · cases h
    simp only [readField, hinterval, taking, Except.map]
  · cases h
    simp only [readField, hinterval, taking, Except.map]
  · cases h

theorem ofItem_of_gives {chosen : List String} {entries : List (Key × Item)}
    (h : Gives fieldNames (IsScalar settings.scalar?) chosen entries) (span : Option Span)
    (origin : Origin) : ofItem (.table span origin entries) = .ok (settings.onto chosen {}) :=
  settings.fieldByField.readRecord_of_gives readField_scalar h ..

theorem exists_stands (hping : settings.pingInterval.toNat ≤ Settings.maxInterval)
    (hsilence : settings.disconnectionInterval.toNat ≤ Settings.maxInterval)
    {pair : String × List Char} (h : pair ∈ Settings.channelPairs settings) :
    ∃ value, settings.scalar? pair.1 = some value ∧ Toml.Stands pair.2 value := by
  simp only [Settings.channelPairs, List.mem_cons, List.not_mem_nil, or_false] at h
  rcases h with rfl | rfl | rfl | rfl | rfl
  · exact ⟨_, rfl, Toml.stands_booleanText _⟩
  · exact ⟨_, rfl, Toml.stands_booleanText _⟩
  · exact ⟨_, rfl, Toml.stands_booleanText _⟩
  · exact ⟨_, rfl, Toml.stands_toDigits hping⟩
  · exact ⟨_, rfl, Toml.stands_toDigits hsilence⟩

end ChannelSettings

/-! ## Settings -/

namespace Settings

variable {settings : Settings} {client channel : List String}

/-- The fields `client` and `channel` of the two parts, and the defaults of the others. -/
def restricted (settings : Settings) (client channel : List String) : Settings where
  client := settings.client.onto client {}
  channel := settings.channel.onto channel {}

/-- An item is the part of a document that gives these fields, and no other. -/
def IsPart (settings : Settings) (client channel : List String) (key : String) (item : Item) :
    Prop :=
  match key with
  | "client" => ∃ span origin entries, item = .table span origin entries ∧
      Gives ClientSettings.fieldNames (IsScalar settings.client.scalar?) client entries
  | "channel" => ∃ span origin entries, item = .table span origin entries ∧
      Gives ChannelSettings.fieldNames (IsScalar settings.channel.scalar?) channel entries
  | _ => False

/-- The parts of a document in which some fields are given; a part of which none is given may be
missing. -/
structure AreParts (client channel : List String) (parts : List String) : Prop where
  client : client ≠ [] → "client" ∈ parts
  channel : channel ≠ [] → "channel" ∈ parts

theorem readField_part {key : String} {item : Item} (h : settings.IsPart client channel key item)
    (base : Settings) :
    readField key item base = .ok ((settings.restricted client channel).taking key base) := by
  unfold IsPart at h
  split at h
  · obtain ⟨span, origin, entries, rfl, hgives⟩ := h
    simp only [readField, ClientSettings.ofItem_of_gives hgives, Except.map, taking, restricted]
  · obtain ⟨span, origin, entries, rfl, hgives⟩ := h
    simp only [readField, ChannelSettings.ofItem_of_gives hgives, Except.map, taking, restricted]
  · exact h.elim

/-- The parts `chosen` of some settings, and the others of `base`. -/
def onto (settings : Settings) (chosen : List String) (base : Settings) : Settings where
  client := if "client" ∈ chosen then settings.client else base.client
  channel := if "channel" ∈ chosen then settings.channel else base.channel

theorem fieldByField (settings : Settings) :
    FieldByField fieldNames readField settings.taking settings.onto where
  unknown key hkey item base := by
    simp only [fieldNames, List.mem_cons, List.not_mem_nil, or_false, not_or] at hkey
    unfold readField taking
    split <;> simp_all
  onto_nil _ := rfl
  onto_cons key keys base := by
    unfold taking
    split <;> simp_all [onto, eq_comm]
  onto_congr keys chosen h base := by
    simp only [fieldNames, List.forall_mem_cons] at h
    simp only [onto, h]

/-- Where nothing is given of a part, it does not matter whether the part is there. -/
theorem onto_parts {parts : List String} (hparts : AreParts client channel parts) :
    (settings.restricted client channel).onto parts {} = settings.restricted client channel := by
  have hclient : (if "client" ∈ parts then settings.client.onto client {} else {}) =
      settings.client.onto client {} := by
    by_cases hnone : client = []
    · subst hnone
      split <;> rfl
    · exact if_pos (hparts.client hnone)
  have hchannel : (if "channel" ∈ parts then settings.channel.onto channel {} else {}) =
      settings.channel.onto channel {} := by
    by_cases hnone : channel = []
    · subst hnone
      split <;> rfl
    · exact if_pos (hparts.channel hnone)
  exact congrArg₂ Settings.mk hclient hchannel

theorem ofItem_of_parts {parts : List String} (hparts : AreParts client channel parts)
    {entries : List (Key × Item)}
    (h : Gives fieldNames (settings.IsPart client channel) parts entries) (span : Option Span)
    (origin : Origin) :
    ofItem (.table span origin entries) = .ok (settings.restricted client channel) := by
  have hread := (settings.restricted client channel).fieldByField.readRecord_of_gives
    readField_part h "Config" fieldNames {} span origin
  rw [ofItem, hread, onto_parts hparts]

/-- A document of plain tables is written for these fields of the two parts.  There may be other pairs
and other tables. -/
structure Lays (settings : Settings) (client channel : List String)
    (loose : List (String × List Char)) (tables : List (String × List (String × List Char))) :
    Prop where
  arePairs : Toml.ArePairs loose
  apart : ∀ pair ∈ loose, pair.1 ∉ fieldNames ∧ pair.1 ∉ tables.map Prod.fst
  words : ∀ table ∈ tables, Toml.isWord table.1 = true
  distinct : (tables.map Prod.fst).Nodup
  parts : AreParts client channel (tables.map Prod.fst)
  clientPairs : ∀ table ∈ tables, table.1 = "client" →
    IsWritten ClientSettings.fieldNames (clientPairs settings.client) client table.2
  channelPairs : ∀ table ∈ tables, table.1 = "channel" →
    IsWritten ChannelSettings.fieldNames (channelPairs settings.channel) channel table.2
  others : ∀ table ∈ tables, table.1 ∉ fieldNames → Toml.ArePairs table.2

/-- Settings of which some fields are given below. -/
def chattySettings : Settings where
  client := { password := some "secret", logLevel := "debug" }
  channel := { pingInterval := 16 }

theorem lays_chattySettings : chattySettings.Lays ["password", "log_level"] ["ping_interval_ms"]
    [("colour", Toml.quoted "red")]
    [("channel", [("speed", Toml.booleanText true), ("ping_interval_ms", Nat.toDigits 10 16)]),
      ("other", []),
      ("client", [("log_level", Toml.quoted "debug"), ("password", Toml.quoted "secret")])] where
  arePairs.words := by decide
  arePairs.distinct := by decide
  arePairs.values := by simp [(Toml.stands_quoted _).isValue]
  apart := by decide
  words := by decide
  distinct := by decide
  parts := ⟨by decide, by decide⟩
  clientPairs := by
    simp only [List.forall_mem_cons, String.reduceEq, false_implies, true_and,
      List.not_mem_nil, implies_true, and_true, forall_const]
    exact {
      words := by decide
      distinct := by decide
      given := by decide
      values := by simp [chattySettings, clientPairs]
      others := by simp [ClientSettings.fieldNames] }
  channelPairs := by
    simp only [List.forall_mem_cons, String.reduceEq, false_implies,
      List.not_mem_nil, implies_true, and_true, forall_const]
    exact {
      words := by decide
      distinct := by decide
      given := by decide
      values := by simp [ChannelSettings.fieldNames, chattySettings, channelPairs]
      others := by simp [ChannelSettings.fieldNames, (Toml.stands_booleanText _).isValue] }
  others := by simp [fieldNames, Toml.ArePairs.mk]

section Writable

variable (hping : settings.channel.pingInterval.toNat ≤ maxInterval)
  (hsilence : settings.channel.disconnectionInterval.toNat ≤ maxInterval)
  {loose : List (String × List Char)} {tables : List (String × List (String × List Char))}
  (h : settings.Lays client channel loose tables)
include hping hsilence h

theorem Lays.areTables : Toml.AreTables tables where
  words := h.words
  distinct := h.distinct
  pairs table htable := by
    by_cases hknown : table.1 ∈ fieldNames
    · simp only [fieldNames, List.mem_cons, List.not_mem_nil, or_false] at hknown
      rcases hknown with hclient | hchannel
      · exact (h.clientPairs table htable hclient).arePairs (ClientSettings.arePairs _)
      · exact (h.channelPairs table htable hchannel).arePairs
          (ChannelSettings.arePairs hping hsilence)
    · exact h.others table htable hknown

theorem Lays.gives {inner entries : List (Key × Item)} (hinner : PairsRead loose inner)
    (hentries : TablesRead tables entries) :
    Gives fieldNames (settings.IsPart client channel)
      (fieldNames.filter (· ∈ tables.map Prod.fst)) (inner ++ entries) := by
  obtain ⟨-, hpair⟩ := Toml.exists_mem_of_forall₂ hinner
  obtain ⟨hentry, htable⟩ := Toml.exists_mem_of_forall₂ hentries
  constructor
  · intro key hkey
    obtain ⟨table, hmem, rfl⟩ := List.mem_map.mp (of_decide_eq_true (List.mem_filter.mp hkey).2)
    obtain ⟨entry, hmem, hsame, -⟩ := hentry table hmem
    exact ⟨entry, List.mem_append_right _ hmem, hsame⟩
  · intro entry hmem hknown
    rcases List.mem_append.mp hmem with hloose | hmem
    · obtain ⟨pair, hmem, hsame, -⟩ := hpair entry hloose
      exact absurd (hsame ▸ hknown) (h.apart pair hmem).1
    · obtain ⟨table, hmem, hsame, span, part, hitem, hpart⟩ := htable entry hmem
      rw [hsame] at hknown ⊢
      rw [hitem]
      refine ⟨List.mem_filter.mpr ⟨hknown, decide_eq_true (List.mem_map_of_mem hmem)⟩, ?_⟩
      simp only [fieldNames, List.mem_cons, List.not_mem_nil, or_false] at hknown
      rcases hknown with hclient | hchannel
      · rw [hclient]
        refine ⟨span, .header, part, rfl, ?_⟩
        exact (h.clientPairs table hmem hclient).gives hpart fun _ => ClientSettings.exists_stands
      · rw [hchannel]
        refine ⟨span, .header, part, rfl, ?_⟩
        exact (h.channelPairs table hmem hchannel).gives hpart fun _ =>
          ChannelSettings.exists_stands hping hsilence

theorem Lays.read : ∃ entries parts, AreParts client channel parts ∧
    Gives fieldNames (settings.IsPart client channel) parts entries ∧
    Toml.read? (String.ofList (Toml.documentText loose tables)) =
      some (.table none .header entries) := by
  obtain ⟨inner, entries, hinner, hentries, hread⟩ :=
    Toml.read?_documentText h.arePairs (h.areTables hping hsilence) fun table htable hmem => by
      obtain ⟨pair, hpair, hsame⟩ := List.mem_map.mp hmem
      exact (h.apart pair hpair).2 (hsame ▸ List.mem_map_of_mem htable)
  have hparts : AreParts client channel (fieldNames.filter (· ∈ tables.map Prod.fst)) := by
    constructor
    · intro hsome
      exact List.mem_filter.mpr ⟨by decide, decide_eq_true (h.parts.client hsome)⟩
    · intro hsome
      exact List.mem_filter.mpr ⟨by decide, decide_eq_true (h.parts.channel hsome)⟩
  exact ⟨inner ++ entries, _, hparts, h.gives hping hsilence hinner hentries, hread⟩

end Writable

/-- Whether there is an item, and it holds nothing but a number under a key in a table. -/
def holdsInteger (table key : String) (n : Int) : Option Item → Bool
  | some (.table _ _ [(outer, .table _ _ [(inner, .scalar _ (.integer m))])]) =>
    outer.text = table ∧ inner.text = key ∧ m = n
  | _ => false

theorem exists_of_holdsInteger {table key : String} {n : Int} {item : Option Item}
    (h : holdsInteger table key n item = true) :
    ∃ span origin outer span' origin' inner position,
      item = some (.table span origin
        [(outer, .table span' origin' [(inner, .scalar position (.integer n))])]) ∧
      outer.text = table ∧ inner.text = key := by
  unfold holdsInteger at h
  split at h
  · obtain ⟨houter, hinner, rfl⟩ := of_decide_eq_true h
    exact ⟨_, _, _, _, _, _, _, rfl, houter, hinner⟩
  · cases h

/-- A text that gives some of the fields, in any order and among whatever else, is read as those
fields and the defaults of the others.  Every document of plain tables that is written for fields of
settings, in any order and among other pairs and tables, is such a text. -/
theorem given_fields_read (settings : Settings) (client channel : List String) :
    (∀ (s : String) (span : Option Span) (origin : Origin) (entries : List (Key × Item))
        (parts : List String),
      Toml.read? s = some (.table span origin entries) → AreParts client channel parts →
      Gives fieldNames (settings.IsPart client channel) parts entries →
      ofText s = .ok (settings.restricted client channel)) ∧
    (settings.channel.pingInterval.toNat ≤ Nat.pow 2 63 - 1 →
      settings.channel.disconnectionInterval.toNat ≤ Nat.pow 2 63 - 1 →
      ∀ loose tables, settings.Lays client channel loose tables →
        ofText (String.ofList (Toml.documentText loose tables)) =
          .ok (settings.restricted client channel)) := by
  have hgiven : ∀ (s : String) (span : Option Span) (origin : Origin)
      (entries : List (Key × Item)) (parts : List String),
      Toml.read? s = some (.table span origin entries) → AreParts client channel parts →
      Gives fieldNames (settings.IsPart client channel) parts entries →
      ofText s = .ok (settings.restricted client channel) := by
    intro s span origin entries parts hread hparts hgives
    rw [ofText, hread]
    simp only [ofItem_of_parts hparts hgives]
  refine ⟨hgiven, fun hping hsilence loose tables hlays => ?_⟩
  obtain ⟨entries, parts, hparts, hgives, hread⟩ := hlays.read hping hsilence
  exact hgiven _ none .header entries parts hread hparts hgives

theorem given_fields_read_partial :
    ofText "channel.ping_interval_ms = 0x10 # short\n" =
      .ok (chattySettings.restricted [] ["ping_interval_ms"]) ∧
    ofText (String.ofList (Toml.documentText [("colour", Toml.quoted "red")]
      [("channel", [("speed", Toml.booleanText true), ("ping_interval_ms", Nat.toDigits 10 16)]),
        ("other", []),
        ("client", [("log_level", Toml.quoted "debug"), ("password", Toml.quoted "secret")])])) =
      .ok (chattySettings.restricted ["password", "log_level"] ["ping_interval_ms"]) := by
  constructor
  · have hholds : holdsInteger "channel" "ping_interval_ms" 16
        (Toml.read? "channel.ping_interval_ms = 0x10 # short\n") = true := by decide +kernel
    obtain ⟨span, origin, outer, span', origin', inner, position, hread, houter, hinner⟩ :=
      exists_of_holdsInteger hholds
    refine (given_fields_read chattySettings [] ["ping_interval_ms"]).1 _ span origin _ ["channel"]
      hread ⟨by decide, by decide⟩ ⟨?_, ?_⟩
    · simp [houter]
    · simp only [List.forall_mem_singleton, houter, IsPart, Item.table.injEq, and_assoc]
      refine fun _ => ⟨List.mem_singleton_self _, _, _, _, rfl, rfl, rfl, ⟨?_, ?_⟩⟩
      · simp [hinner]
      · simp [hinner, IsScalar, ChannelSettings.scalar?, chattySettings]
  · exact (given_fields_read chattySettings ["password", "log_level"] ["ping_interval_ms"]).2
      (by decide) (by decide) _ _ lays_chattySettings

end Settings
end Courier
