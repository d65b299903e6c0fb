/-
Settings are read back from their text.

Reading starts from the defaults, and every entry of a table replaces one field, whatever the others
are: `taking` says with what.  What the text leaves out keeps its default, so `text_read_back` rests
on the fields that are left out being absent by default.
-/
import Courier.Settings.Text
import Courier.Proofs.Envelope.Fields
import Courier.Proofs.Toml.Tables

namespace Courier

open Toml (Item Key Origin Reads PairsRead TablesRead)

/-! ## Values -/

section Values

variable {item : Item}

theorem readText_of_reads {s : String} (h : Reads (Toml.quoted s) item) : readText item = .ok s := by
  obtain ⟨span, rfl⟩ := (Toml.stands_quoted s).eq_scalar h
  rfl

theorem readFlag_of_reads {b : Bool} (h : Reads (Toml.booleanText b) item) :
    readFlag item = .ok b := by
  obtain ⟨span, rfl⟩ := (Toml.stands_booleanText b).eq_scalar h
  rfl

theorem readChoice_of_reads {α : Type} [Choice α] [Choice.Lawful α] {a : α}
    (h : Reads (Toml.quoted (Choice.name a)) item) : readChoice item = .ok a := by
  obtain ⟨span, rfl⟩ := (Toml.stands_quoted (Choice.name a)).eq_scalar h
  simp only [readChoice, Choice.Lawful.ofName?_name]

theorem readInterval_of_reads {n : UInt64} (hn : n.toNat ≤ Settings.maxInterval)
    (h : Reads (Nat.toDigits 10 n.toNat) item) : readInterval item = .ok n := by
  obtain ⟨span, rfl⟩ := (Toml.stands_toDigits hn).eq_scalar h
  have hpos : (0 : Int) ≤ n.toNat := Int.natCast_nonneg _
  simp only [readInterval, if_pos hpos, Int.toNat_natCast, UInt64.ofNat_toNat]

end Values

/-! ## Records -/

section Records

variable {α : Type} {set : String → Item → α → Except Problem α}

/-- A record is read from entries if each of them replaces a field: then all of them do. -/
theorem readRecord_of_forall₂ {β : Type} {R : β → Key × Item → Prop} {take : β → α → α}
    {parts : List β} {entries : List (Key × Item)} (hread : List.Forall₂ R parts entries)
    (hset : ∀ part ∈ parts, ∀ entry base, R part entry →
      set entry.1.text entry.2 base = .ok (take part base))
    (name : String) (fields : List String) (start : α) (span : Option Toml.Span)
    (origin : Origin) :
    readRecord name fields set start (.table span origin entries) =
      .ok (parts.foldl (fun base part => take part base) start) := by
  show entries.foldlM _ start = _
  induction hread generalizing start with
  | nil => rfl
  | cons hentry _ ih =>
    obtain ⟨hpart, hparts⟩ := List.forall_mem_cons.mp hset
    rw [List.foldlM_cons, List.foldl_cons, hpart _ start hentry]
    exact ih hparts _

theorem readRecord_of_pairsRead {take : String → α → α} {pairs : List (String × List Char)}
    {entries : List (Key × Item)} (hread : PairsRead pairs entries)
    (hset : ∀ pair ∈ pairs, ∀ item, Reads pair.2 item → ∀ base,
      set pair.1 item base = .ok (take pair.1 base))
    (name : String) (fields : List String) (start : α) (span : Option Toml.Span)
    (origin : Origin) :
    readRecord name fields set start (.table span origin entries) =
      .ok (pairs.foldl (fun base pair => take pair.1 base) start) := by
  refine readRecord_of_forall₂ hread (fun pair hpair entry base hentry => ?_) ..
  rw [hentry.1]
  exact hset pair hpair entry.2 hentry.2 base

end Records

namespace ClientSettings

/-- Settings with one field taken from others. -/
def taking (settings : ClientSettings) (key : String) (base : ClientSettings) : ClientSettings :=
  match key with
  | "server_address" => { base with serverAddress := settings.serverAddress }
  | "identity" => { base with identity := settings.identity }
  | "instance" => { base with place := settings.place }
  | "password" => { base with password := settings.password }
  | "compression" => { base with compression := settings.compression }
  | "encryption" => { base with encryption := settings.encryption }
  | "log_level" => { base with logLevel := settings.logLevel }
  | _ => base

theorem readField_of_reads {settings : ClientSettings} {pair : String × List Char}
    (hpair : pair ∈ Settings.clientPairs settings) {item : Item} (hitem : Reads pair.2 item)
    (base : ClientSettings) : readField pair.1 item base = .ok (settings.taking pair.1 base) := by
  simp only [Settings.clientPairs, List.mem_append, Option.mem_toList, Option.map_eq_some_iff,
    or_assoc, Option.some.injEq, exists_eq_left'] at hpair
  -- A case for each field, in their order; the optional ones come with the value that was written.
  rcases hpair with rfl | rfl | rfl | ⟨password, hpassword, rfl⟩ |
    ⟨_, ⟨compression, hcompression, rfl⟩, rfl⟩ | ⟨_, ⟨encryption, hencryption, rfl⟩, rfl⟩ | rfl
  · simp only [readField, taking, readText_of_reads hitem, Except.map]
  · simp only [readField, taking, readText_of_reads hitem, Except.map]
  · simp only [readField, taking, readText_of_reads hitem, Except.map]
  · simp only [readField, taking, readText_of_reads hitem, Except.map, hpassword]
  · simp only [readField, taking, readChoice_of_reads hitem, Except.map, hcompression]
  · simp only [readField, taking, readChoice_of_reads hitem, Except.map, hencryption]
  · simp only [readField, taking, readText_of_reads hitem, Except.map]

/-- What is not written is absent by default. -/
theorem foldl_taking (settings : ClientSettings) :
    (Settings.clientPairs settings).foldl (fun base pair => settings.taking pair.1 base) {} =
      settings := by
  rcases settings with ⟨address, identity, place, _ | password, _ | compression, _ | encryption,
    level⟩ <;> rfl

theorem ofItem_of_pairsRead {settings : ClientSettings} {entries : List (Key × Item)}
    (h : PairsRead (Settings.clientPairs settings) entries) (span : Option Toml.Span)
    (origin : Origin) : ofItem (.table span origin entries) = .ok settings := by
  rw [ofItem, readRecord_of_pairsRead h fun _ hpair _ => readField_of_reads hpair, foldl_taking]

/-- The keys that are written are those of fields, each at most once. -/
theorem keys_sublist (settings : ClientSettings) :
    ((Settings.clientPairs settings).map Prod.fst).Sublist fieldNames := by
  have hkey (key : String) (value : Option String) :
      ((value.map fun s => (key, Toml.quoted s)).toList.map Prod.fst).Sublist [key] := by
    cases value <;> simp
  simp only [Settings.clientPairs, List.map_append]
  exact ((((((hkey _ _).append (hkey _ _)).append (hkey _ _)).append (hkey _ _)).append
    (hkey _ _)).append (hkey _ _)).append (hkey _ _)

theorem arePairs (settings : ClientSettings) : Toml.ArePairs (Settings.clientPairs settings) where
  words pair hpair := by
    have hwords : fieldNames.all Toml.isWord = true := by decide
    exact List.all_eq_true.mp hwords _ ((keys_sublist settings).subset (List.mem_map_of_mem hpair))
  values pair hpair := by
    obtain ⟨s, heq⟩ : ∃ s, pair.2 = Toml.quoted s := by
      simp only [Settings.clientPairs, List.mem_append, Option.mem_toList, Option.map_eq_some_iff]
        at hpair
      grind
    rw [heq]
    exact (Toml.stands_quoted s).isValue
  distinct := (keys_sublist settings).nodup (by decide)

end ClientSettings

namespace ChannelSettings

/-- Settings with one field taken from others. -/
def taking (settings : ChannelSettings) (key : String) (base : ChannelSettings) :
    ChannelSettings :=
  match key with
  | "fill_envelope_recipients" => { base with fillsAddresses := settings.fillsAddresses }
  | "auto_reply_pings" => { base with answersPings := settings.answersPings }
  | "auto_notify_receipt" => { base with notifiesReceipt := settings.notifiesReceipt }
  | "ping_interval_ms" => { base with pingInterval := settings.pingInterval }
  | "ping_disconnection_interval_ms" =>
    { base with disconnectionInterval := settings.disconnectionInterval }
  | _ => base

section Writable

variable {settings : ChannelSettings} (hping : settings.pingInterval.toNat ≤ Settings.maxInterval)
  (hsilence : settings.disconnectionInterval.toNat ≤ Settings.maxInterval)
include hping hsilence

theorem readField_of_reads {pair : String × List Char}
    (hpair : pair ∈ Settings.channelPairs settings) {item : Item} (hitem : Reads pair.2 item)
    (base : ChannelSettings) : readField pair.1 item base = .ok (settings.taking pair.1 base) := by
  simp only [Settings.channelPairs, List.mem_cons, List.not_mem_nil, or_false] at hpair
  rcases hpair with rfl | rfl | rfl | rfl | rfl
  · simp only [readField, taking, readFlag_of_reads hitem, Except.map]
  · simp only [readField, taking, readFlag_of_reads hitem, Except.map]
  · simp only [readField, taking, readFlag_of_reads hitem, Except.map]
  · simp only [readField, taking, readInterval_of_reads hping hitem, Except.map]
  · simp only [readField, taking, readInterval_of_reads hsilence hitem, Except.map]

theorem ofItem_of_pairsRead {entries : List (Key × Item)}
    (h : PairsRead (Settings.channelPairs settings) entries) (span : Option Toml.Span)
    (origin : Origin) : ofItem (.table span origin entries) = .ok settings := by
  rw [ofItem, readRecord_of_pairsRead h fun _ hpair _ => readField_of_reads hping hsilence hpair]
  rfl

theorem arePairs : Toml.ArePairs (Settings.channelPairs settings) where
  words pair hpair := by
    have hwords : fieldNames.all Toml.isWord = true := by decide
    exact List.all_eq_true.mp hwords _ (List.mem_map_of_mem hpair)
  values pair hpair := by
    simp only [Settings.channelPairs, List.mem_cons, List.not_mem_nil, or_false] at hpair
    rcases hpair with rfl | rfl | rfl | rfl | rfl
    · exact (Toml.stands_booleanText _).isValue
    · exact (Toml.stands_booleanText _).isValue
    · exact (Toml.stands_booleanText _).isValue
    · exact (Toml.stands_toDigits hping).isValue
    · exact (Toml.stands_toDigits hsilence).isValue
  distinct := by
    show fieldNames.Nodup
    decide

end Writable

end ChannelSettings

/-! ## Settings -/

namespace Settings

/-- Settings with one table taken from others. -/
def taking (settings : Settings) (key : String) (base : Settings) : Settings :=
  match key with
  | "client" => { base with client := settings.client }
  | "channel" => { base with channel := settings.channel }
  | _ => base

/-- The tables of settings, with the texts of their values. -/
def tables (settings : Settings) : List (String × List (String × List Char)) :=
  [("client", clientPairs settings.client), ("channel", channelPairs settings.channel)]

theorem areTables {settings : Settings}
    (hping : settings.channel.pingInterval.toNat ≤ maxInterval)
    (hsilence : settings.channel.disconnectionInterval.toNat ≤ maxInterval) :
    Toml.AreTables settings.tables where
  words table htable := by
    have hwords : fieldNames.all Toml.isWord = true := by decide
    exact List.all_eq_true.mp hwords _ (List.mem_map_of_mem htable)
  pairs table htable := by
    simp only [tables, List.mem_cons, List.not_mem_nil, or_false] at htable
    rcases htable with rfl | rfl
    · exact ClientSettings.arePairs _
    · exact ChannelSettings.arePairs hping hsilence
  distinct := by
    show fieldNames.Nodup
    decide

theorem ofItem_of_tablesRead {settings : Settings}
    (hping : settings.channel.pingInterval.toNat ≤ maxInterval)
    (hsilence : settings.channel.disconnectionInterval.toNat ≤ maxInterval)
    {entries : List (Key × Item)} (h : TablesRead settings.tables entries)
    (span : Option Toml.Span) (origin : Origin) :
    ofItem (.table span origin entries) = .ok settings := by
  have hset : ∀ table ∈ settings.tables, ∀ (entry : Key × Item) base,
      (entry.1.text = table.1 ∧
        ∃ span inner, entry.2 = .table span .header inner ∧ PairsRead table.2 inner) →
      readField entry.1.text entry.2 base = .ok (settings.taking table.1 base) := by
    rintro table htable ⟨key, item⟩ base ⟨hkey, span, inner, hitem, hinner⟩
    dsimp only at hkey hitem ⊢
    rw [hkey, hitem]
    simp only [tables, List.mem_cons, List.not_mem_nil, or_false] at htable
    rcases htable with rfl | rfl
    · have hclient := ClientSettings.ofItem_of_pairsRead hinner span .header
      simp only [readField, taking, hclient, Except.map]
    · have hchannel := ChannelSettings.ofItem_of_pairsRead hping hsilence hinner span .header
      simp only [readField, taking, hchannel, Except.map]
  rw [ofItem, readRecord_of_forall₂ h hset]
  rfl

/-- Settings have a text exactly if TOML holds both intervals, and are then read back from it. -/
theorem text_read_back (settings : Settings) :
    settings.text?.map ofText =
      if settings.channel.pingInterval.toNat ≤ Nat.pow 2 63 - 1 ∧
          settings.channel.disconnectionInterval.toNat ≤ Nat.pow 2 63 - 1 then
        some (.ok settings)
      else none := by
  have hmax : maxInterval = Nat.pow 2 63 - 1 := by decide
  have hwritable : settings.isWritable = true ↔
      settings.channel.pingInterval.toNat ≤ maxInterval ∧
        settings.channel.disconnectionInterval.toNat ≤ maxInterval := by
    simp [isWritable]
  rw [← hmax, text?]
  simp only [hwritable]
  split
  · rename_i hboth
    obtain ⟨hping, hsilence⟩ := hboth
    obtain ⟨entries, hentries, hread⟩ := Toml.read?_tablesText (areTables hping hsilence)
    have hitem := ofItem_of_tablesRead hping hsilence hentries none .header
    show some (ofText (String.ofList (Toml.tablesText settings.tables))) = _
    rw [ofText, hread]
    simp only [hitem]
  · rfl

end Settings
end Courier
