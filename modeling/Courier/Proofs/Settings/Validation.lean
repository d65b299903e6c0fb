/-
What settings are checked for is all that a client is asked for later on.

The check of settings asks for an address that is not blank, an identity with a name and a domain, the
name of a log level in upper or lower case, and intervals that fit together.  Whatever comes afterwards
asks for no more (`validate_exact`): the identity can be read, a channel can be created, and a session
can be established over every link that takes its first envelope, however the identity is shown.
-/
import Mathlib.Data.List.Forall2
import Courier.Client.Startup
import Courier.Proofs.Channel.FailedStarts
import Courier.Proofs.Node.Grammar

namespace Courier

/-! ## Letters in upper or lower case -/

/-- Whether a character is a small letter, or the same letter in upper case. -/
def IsLetter (c letter : Char) : Prop :=
  c = letter ∨ c = letter.toUpper

theorem toLower_eq_iff {c letter : Char} (h : letter.isLower = true) :
    c.toLower = letter ↔ IsLetter c letter := by
  have hA : 'A'.val.toNat = 65 := rfl
  have hZ : 'Z'.val.toNat = 90 := rfl
  have ha : 'a'.val.toNat = 97 := rfl
  obtain ⟨hfrom, hto⟩ : 'a'.val ≤ letter.val ∧ letter.val ≤ 'z'.val :=
    (Bool.and_eq_true _ _ ▸ h).imp of_decide_eq_true of_decide_eq_true
  have hsmall : 97 ≤ letter.val.toNat ∧ letter.val.toNat ≤ 122 :=
    ⟨UInt32.le_iff_toNat_le.mp hfrom, UInt32.le_iff_toNat_le.mp hto⟩
  have hupper : letter.toUpper.val.toNat = letter.val.toNat - 32 := by
    delta Char.toUpper
    rw [dif_pos ⟨hfrom, hto⟩]
    simp only [UInt32.toNat_add, UInt32.toNat_sub]
    omega
  simp only [IsLetter, Char.ext_iff, ← UInt32.toNat_inj, hupper]
  unfold Char.toLower
  split <;> rename_i hc <;> simp only [ge_iff_le, UInt32.le_iff_toNat_le] at hc
  · simp only [UInt32.toNat_add, UInt32.toNat_sub]
    omega
  · omega

theorem map_toLower_eq_iff {cs letters : List Char} (h : ∀ c ∈ letters, c.isLower = true) :
    cs.map Char.toLower = letters ↔ List.Forall₂ IsLetter cs letters := by
  rw [← List.forall₂_eq_eq_eq, List.forall₂_map_left_iff]
  induction letters generalizing cs with
  | nil => simp
  | cons letter letters ih =>
    obtain ⟨hletter, hletters⟩ := List.forall_mem_cons.mp h
    cases cs with
    | nil => simp
    | cons c cs =>
      rw [List.forall₂_cons, List.forall₂_cons, ih hletters, toLower_eq_iff hletter]

namespace Settings

variable {settings : Settings}

/-- Whether a text names a log level, each of its letters in upper or lower case. -/
def NamesLevel (text : String) : Prop :=
  ∃ level ∈ logLevels, List.Forall₂ IsLetter text.toList level.toList

theorem isLogLevel_iff {text : String} : isLogLevel text = true ↔ NamesLevel text := by
  have hsmall : ∀ level ∈ logLevels, ∀ c ∈ level.toList, c.isLower = true := by
    simp [logLevels]
  have hnames : ∀ level ∈ logLevels, String.ofList (text.toList.map Char.toLower) = level ↔
      List.Forall₂ IsLetter text.toList level.toList := by
    intro level hlevel
    rw [← map_toLower_eq_iff (hsmall level hlevel), ← String.toList_inj, String.toList_ofList]
  rw [isLogLevel, List.contains_iff_mem, NamesLevel]
  constructor
  · exact fun hmem => ⟨_, hmem, (hnames _ hmem).mp rfl⟩
  · rintro ⟨level, hlevel, hletters⟩
    rwa [(hnames level hlevel).mpr hletters]

/-! ## The identity -/

theorem identity_eq_ok_iff {identity : Identity} :
    settings.identity = .ok identity ↔
      Identity.parse settings.client.identity = .ok identity ∧
        identity.name.isSome = true ∧ identity.domain.isSome = true := by
  unfold Settings.identity
  cases Identity.parse settings.client.identity with
  | error fault => simp
  | ok found =>
    dsimp only
    split <;> rename_i hparts
    · rw [Bool.and_eq_true_iff] at hparts
      constructor
      · rintro ⟨⟩
        exact ⟨rfl, hparts⟩
      · exact fun h => congrArg _ (Except.ok.inj h.1)
    · rw [Bool.and_eq_true_iff] at hparts
      refine ⟨nofun, ?_⟩
      rintro ⟨⟨⟩, hboth⟩
      exact absurd hboth hparts

/-- Whether a text is the address of somebody with a name in a domain. -/
def ShowsIdentity (text : String) (name domain : String) : Prop :=
  ∃ place, Node.parse text = .ok ⟨⟨some name, some domain⟩, place⟩

/-- The identity is that of the address that the settings show; a part that was read is not empty. -/
theorem identity_eq_ok_iff_showsIdentity {identity : Identity} :
    settings.identity = .ok identity ↔ ∃ name domain, identity = ⟨some name, some domain⟩ ∧
      ShowsIdentity settings.client.identity name domain := by
  rw [identity_eq_ok_iff, Node.parse_identity_eq_ok_iff]
  constructor
  · rintro ⟨⟨place, hparse⟩, hname, hdomain⟩
    obtain ⟨name, hname⟩ := Option.isSome_iff_exists.mp hname
    obtain ⟨domain, hdomain⟩ := Option.isSome_iff_exists.mp hdomain
    obtain rfl : identity = ⟨some name, some domain⟩ := by
      rw [← hname, ← hdomain]
    exact ⟨name, domain, rfl, place, hparse⟩
  · rintro ⟨name, domain, rfl, place, hparse⟩
    exact ⟨⟨place, hparse⟩, rfl, rfl⟩

theorem ShowsIdentity.nonempty {text name domain : String} (h : ShowsIdentity text name domain) :
    name ≠ "" ∧ domain ≠ "" := by
  obtain ⟨place, hparse⟩ := h
  have hwell := (Node.wasRead_of_parse hparse).wellFormed.identity
  exact ⟨(hwell.name name rfl).nonempty, (hwell.domain domain rfl).nonempty⟩

/-! ## The check -/

theorem not_trim_isEmpty_iff {text : String} :
    ¬(Text.trim text).isEmpty = true ↔ ∃ c ∈ text.toList, Text.isBlank c = false := by
  rw [Text.trim, String.isEmpty_iff, ← String.toList_eq_nil_iff, String.toList_ofList,
    Text.trimChars_eq_nil_iff]
  simp

theorem validate_eq_ok_iff :
    settings.validate = .ok () ↔
      (∃ c ∈ settings.client.serverAddress.toList, Text.isBlank c = false) ∧
        (∃ identity, settings.identity = .ok identity) ∧
        NamesLevel settings.client.logLevel ∧ settings.channel.validate = .ok () := by
  rw [← not_trim_isEmpty_iff, ← isLogLevel_iff]
  unfold validate
  by_cases haddress : (Text.trim settings.client.serverAddress).isEmpty = true
  · simp [haddress, throw, throwThe, MonadExceptOf.throw, bind, Except.bind]
  · cases settings.identity with
    | error error => simp [haddress, bind, Except.bind]
    | ok identity =>
      by_cases hlevel : isLogLevel settings.client.logLevel = true
      · simp [haddress, hlevel, bind, Except.bind]
      · simp [haddress, hlevel, throw, throwThe, MonadExceptOf.throw, bind, Except.bind]

/-! ## What comes afterwards -/

theorem create_of_validate {channel : ChannelSettings} (h : channel.validate = .ok ()) {σ : Type}
    (standing : Standing) (link : Link) (driven : Bool) (user : σ) :
    ∃ w, World.create channel standing link driven user = .ok w ∧
      w.channel.standing = standing ∧ w.link = link := by
  rw [World.create, h]
  exact ⟨_, rfl, rfl, rfl⟩

theorem sendFault?_eq_none {link : Link} (hopen : link.connected = true)
    (htakes : link.attempts ∉ link.failingSends) : link.sendFault? = none := by
  rw [Link.sendFault?, if_neg htakes, if_pos hopen]

/-- Settings pass the check if and only if the address is not blank, the identity has a name and a
domain, the log level is known and the channel may be set so.  Then the identity is there, a channel
can be created over any link, and a session can be established if the link takes its first envelope;
there is no other error than that of the link. -/
theorem validate_exact (settings : Settings) :
    (settings.validate = .ok () ↔
      (∃ c ∈ settings.client.serverAddress.toList, Text.isBlank c = false) ∧
        (∃ name domain, ShowsIdentity settings.client.identity name domain) ∧
        NamesLevel settings.client.logLevel ∧ settings.channel.validate = .ok ()) ∧
    (settings.validate = .ok () →
      ∃ name domain, settings.identity = .ok ⟨some name, some domain⟩ ∧ name ≠ "" ∧ domain ≠ "" ∧
        ∀ (σ : Type) (link : Link) (driven : Bool) (user : σ), ∃ w,
          World.create settings.channel {} link driven user = .ok w ∧
            w.channel.standing.state = .new ∧ w.link = link ∧
            ∀ authentication reporter,
              let started := w.establish
                { settings.establishment ⟨some name, some domain⟩ with authentication } reporter
              (link.connected = true → link.attempts ∉ link.failingSends → started.1 = .ok ()) ∧
                ∀ error, started.1 = .error error →
                  ∃ fault, link.sendFault? = some fault ∧ error = .transport fault) := by
  have hidentity : (∃ identity, settings.identity = .ok identity) ↔
      ∃ name domain, ShowsIdentity settings.client.identity name domain := by
    simp only [identity_eq_ok_iff_showsIdentity]
    constructor
    · rintro ⟨_, name, domain, -, hshows⟩
      exact ⟨name, domain, hshows⟩
    · rintro ⟨name, domain, hshows⟩
      exact ⟨_, name, domain, rfl, hshows⟩
  constructor
  · rw [← hidentity]
    exact validate_eq_ok_iff
  intro hvalid
  obtain ⟨-, ⟨identity, hread⟩, -, hchannel⟩ := validate_eq_ok_iff.mp hvalid
  obtain ⟨name, domain, rfl, hshows⟩ := identity_eq_ok_iff_showsIdentity.mp hread
  refine ⟨name, domain, hread, hshows.nonempty.1, hshows.nonempty.2, fun σ link driven user => ?_⟩
  obtain ⟨w, hcreate, hstanding, rfl⟩ := create_of_validate hchannel {} link driven user
  have hnew : w.channel.standing.state = .new := congrArg Standing.state hstanding
  refine ⟨w, hcreate, hnew, rfl, fun authentication reporter => ⟨fun hopen htakes => ?_, ?_⟩⟩
  · exact World.establish_of_no_fault hnew rfl (sendFault?_eq_none hopen htakes) reporter
  · intro error herror
    cases hfault : w.link.sendFault? with
    | none =>
      rw [World.establish_of_no_fault hnew rfl hfault reporter] at herror
      cases herror
    | some fault =>
      rw [World.establish_of_fault hnew rfl (World.numbered_create hcreate) hfault reporter,
        World.sendSession_of_fault hfault] at herror
      exact ⟨fault, rfl, (Except.error.inj herror).symm⟩

/-- A name that ends in a blank, a level in both cases, and the shortest silence that is allowed. -/
def narrowSettings : Settings where
  client := { serverAddress := "\t:1", identity := "a @b/", logLevel := "wARn" }
  channel := { pingInterval := 7, disconnectionInterval := 8 }

theorem validate_exact_narrow :
    narrowSettings.validate = .ok () ∧
      ∃ w : World Unit, World.create narrowSettings.channel {} .overStream true () = .ok w ∧
        (w.establish (narrowSettings.establishment ⟨some "a ", some "b"⟩) (.waiting "W")).1 =
          .ok () := by
  have hvalid : narrowSettings.validate = .ok () := by decide
  have hread : narrowSettings.identity = .ok ⟨some "a ", some "b"⟩ := by decide
  obtain ⟨name, domain, hidentity, -, -, hcreated⟩ := (validate_exact narrowSettings).2 hvalid
  rw [hread] at hidentity
  obtain ⟨w, hcreate, -, -, hestablish⟩ := hcreated Unit .overStream true ()
  refine ⟨hvalid, w, hcreate, ?_⟩
  cases hidentity
  exact (hestablish narrowSettings.authentication (.waiting "W")).1 rfl (by decide)

end Settings
end Courier
