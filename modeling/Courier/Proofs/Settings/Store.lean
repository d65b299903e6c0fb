/-
Saving settings, and loading them again.

Saving goes through three steps, each of which may fail: the folder is made, the settings are turned
into a text, and the text is written.  Only the last one changes a file, and nothing can fail after it
(`save_exact`).
-/
import Courier.Proofs.Files
import Courier.Proofs.Settings.RoundTrip
import Courier.Proofs.Text.Base64
import Courier.Settings.Store

namespace Courier

open Files (Keeps KeepsAll)

namespace Settings

variable {path : Path} {settings : Settings} {files after : Files}

/-! ## The text -/

/-- TOML holds an interval. -/
def Fits (interval : UInt64) : Prop :=
  interval.toNat ≤ Nat.pow 2 63 - 1

theorem isWritable_iff : settings.isWritable = true ↔
    Fits settings.channel.pingInterval ∧ Fits settings.channel.disconnectionInterval := by
  have hmax : maxInterval = Nat.pow 2 63 - 1 := by decide
  rw [isWritable, Bool.and_eq_true, decide_eq_true_iff, decide_eq_true_iff, hmax]
  rfl

theorem text?_eq_none_iff : settings.text? = none ↔
    ¬ (Fits settings.channel.pingInterval ∧ Fits settings.channel.disconnectionInterval) := by
  rw [← isWritable_iff, text?]
  split <;> simp_all

theorem ofText_of_text? {text : String} (h : settings.text? = some text) :
    ofText text = .ok settings := by
  have hmax : maxInterval = Nat.pow 2 63 - 1 := by decide
  unfold text? at h
  split at h
  · rename_i hwritable
    obtain ⟨hping, hsilence⟩ := isWritable_iff.mp hwritable
    rw [Fits, ← hmax] at hping hsilence
    obtain ⟨entries, hentries, hread⟩ := Toml.read?_tablesText (areTables hping hsilence)
    cases h
    show ofText (String.ofList (Toml.tablesText settings.tables)) = _
    rw [ofText, hread]
    simp only [ofItem_of_tablesRead hping hsilence hentries none .header]
  · cases h

/-! ## Loading -/

theorem load_of_find?_eq_none (h : files.find? path = none) : load path files = .ok {} := by
  rw [load, h]

theorem load_of_text {text : String} (hfile : files.find? path = some (.file text.toUTF8))
    (htext : ofText text = .ok settings) : load path files = .ok settings := by
  simp only [load, hfile, Base64.fromUTF8?_eq_some_iff.mpr rfl, htext]

/-- What is loaded depends on nothing but what is at the path. -/
theorem load_congr (h : after.find? path = files.find? path) :
    load path after = load path files := by
  rw [load, load, h]

/-! ## The folder -/

/-- The way to a folder cannot be made, since there is a file on it or it can have no place. -/
def Blocks (files : Files) (folder : Path) : Prop :=
  folder.hasNull = true ∨ ∃ front, front <+: folder.names ∧
    ∃ bytes, files.at? (front.foldl Path.walk []) = some (.file bytes)

theorem makeParent_keeps (path : Path) (files : Files) :
    KeepsAll files (makeParent path files).2 := by
  unfold makeParent
  split
  · exact .refl _
  · rename_i folder _
    split
    · exact .refl _
    · have hkeeps := Files.makeWay_keeps [] folder.names files
      split <;> rename_i hway <;> rwa [hway] at hkeeps

section

variable (hroot : Files.isFolder (files.at? []) = true)
include hroot

theorem blocks_of_makeParent {error : StoreError}
    (h : (makeParent path files).1 = .error error) :
    ∃ folder, error = .noFolder folder ∧ path.parent? = some folder ∧ Blocks files folder := by
  unfold makeParent at h
  split at h
  · cases h
  · rename_i folder hparent
    split at h
    · rename_i hnull
      cases h
      exact ⟨folder, rfl, hparent, .inl hnull⟩
    · split at h
      · cases h
      · rename_i hway
        cases h
        refine ⟨folder, rfl, hparent, .inr ((Files.makeWay_eq_false_iff hroot).mp ?_)⟩
        rw [hway]

theorem makeParent_ok {folder : Path} (hparent : path.parent? = some folder)
    (h : (makeParent path files).1 = .ok ()) :
    ¬ Blocks files folder ∧
      ∃ there, (makeParent path files).2.follow [] folder.names = some there ∧
        Files.isFolder ((makeParent path files).2.at? there) = true := by
  simp only [makeParent, hparent] at h ⊢
  split at h
  · cases h
  · rename_i hnull
    split at h
    · rename_i hway
      have hmade : (files.makeWay [] folder.names).1 = true := congrArg Prod.fst hway
      have hthere := Files.follow_makeWay hroot hmade
      rw [hway] at hthere
      simp only [if_neg hnull]
      refine ⟨?_, hthere⟩
      rintro (hbroken | hfile)
      · exact hnull hbroken
      · rw [(Files.makeWay_eq_false_iff hroot).mpr hfile] at hmade
        cases hmade
    · cases h

end

/-! ## The file -/

/-- There can be no file at a path: it leads to a folder, or has no place. -/
def NoFile (path : Path) (files : Files) : Prop :=
  path.isToFolder = true ∨ path.hasNull = true ∨
    ∃ entries, files.find? path = some (.folder entries)

theorem writeText_ok {text : String} (h : writeText path text files = (.ok (), after)) :
    path.isToFolder = false ∧ ∃ target, files.locate? path = some target ∧
      files.write text.toUTF8 target = some after := by
  unfold writeText at h
  cases hfolder : path.isToFolder with
  | true => rw [hfolder] at h; cases h
  | false =>
    simp only [hfolder, Bool.false_eq_true, if_false] at h
    split at h
    · rename_i hwritten
      cases h
      exact ⟨rfl, Option.bind_eq_some_iff.mp hwritten⟩
    · cases h

theorem writeText_error {text : String} {error : StoreError}
    (h : writeText path text files = (.error error, after)) :
    error = .unwritable path ∧ after = files ∧ (path.isToFolder = false →
      ∀ target, files.locate? path = some target → files.write text.toUTF8 target = none) := by
  unfold writeText at h
  cases hfolder : path.isToFolder with
  | true =>
    rw [hfolder] at h
    cases h
    exact ⟨rfl, rfl, fun h => absurd h (by decide)⟩
  | false =>
    simp only [hfolder, Bool.false_eq_true, if_false] at h
    split at h
    · cases h
    · rename_i hnone
      cases h
      exact ⟨rfl, rfl, fun _ => Option.bind_eq_none_iff.mp hnone⟩

/-- Where a path leads from the folder that was made for it. -/
theorem locate?_of_parent (hplain : path.isToFolder = false) (hnull : path.hasNull = false)
    (hmade : ∀ folder, path.parent? = some folder →
      ∃ there, files.follow [] folder.names = some there ∧
        Files.isFolder (files.at? there) = true) :
    ∃ there name, files.locate? path = some (there ++ [name]) ∧
      Files.isFolder (files.at? there) = true := by
  obtain ⟨folder, name, hparent, hnames, hname⟩ := Path.names_parent hplain
  obtain ⟨there, hthere, hfolder⟩ := hmade folder hparent
  refine ⟨there, name, ?_, hfolder⟩
  have hsome : ¬ (path.isEmpty = true ∨ path.hasNull = true) := by
    rintro (hempty | hbroken)
    · rw [String.isEmpty_iff.mp hempty] at hplain
      exact absurd hplain (by decide +kernel)
    · rw [hnull] at hbroken
      cases hbroken
  rw [Files.locate?, if_neg hsome, hnames, Files.follow_append hthere, Files.follow_cons hfolder,
    Path.walk, if_neg hname, Files.follow]

/-! ## Saving -/

/-- Why settings cannot be saved, `after` being the files with the folders that were made. -/
inductive Hinders (path : Path) (settings : Settings) (files after : Files) : StoreError → Prop where
  | noFolder {folder : Path} (hparent : path.parent? = some folder)
    (hblocks : Blocks files folder) : Hinders path settings files after (.noFolder folder)
  | textless (hlarge : ¬ (Fits settings.channel.pingInterval ∧
      Fits settings.channel.disconnectionInterval)) : Hinders path settings files after .textless
  | unwritable (hnone : NoFile path after) :
    Hinders path settings files after (.unwritable path)

theorem save_ok (h : settings.save path files = (.ok (), after)) :
    ∃ text made, makeParent path files = (.ok (), made) ∧ settings.text? = some text ∧
      writeText path text made = (.ok (), after) := by
  unfold save at h
  split at h
  · cases h
  · rename_i made hmade
    split at h
    · cases h
    · rename_i text htext
      exact ⟨text, made, hmade, htext, h⟩

theorem save_error {error : StoreError} (h : settings.save path files = (.error error, after)) :
    makeParent path files = (.error error, after) ∨
      makeParent path files = (.ok (), after) ∧ settings.text? = none ∧ error = .textless ∨
      ∃ text made, makeParent path files = (.ok (), made) ∧
        writeText path text made = (.error error, after) := by
  unfold save at h
  split at h
  · rename_i hmade
    cases h
    exact .inl hmade
  · rename_i made hmade
    split at h
    · rename_i hnone
      cases h
      exact .inr (.inl ⟨hmade, hnone, rfl⟩)
    · rename_i text _
      exact .inr (.inr ⟨text, made, hmade, h⟩)

theorem noFile_of_writeText_error {made : Files} {text : String} {error : StoreError}
    (hroot : Files.isFolder (files.at? []) = true) (hmade : makeParent path files = (.ok (), made))
    (h : writeText path text made = (.error error, after)) :
    error = .unwritable path ∧ after = made ∧ NoFile path after := by
  obtain ⟨rfl, rfl, hfails⟩ := writeText_error h
  refine ⟨rfl, rfl, ?_⟩
  cases hplain : path.isToFolder with
  | true => exact .inl hplain
  | false =>
    cases hnull : path.hasNull with
    | true => exact .inr (.inl hnull)
    | false =>
      have hway : ∀ folder, path.parent? = some folder →
          ∃ there, after.follow [] folder.names = some there ∧
            Files.isFolder (after.at? there) = true := by
        intro folder hparent
        have hthere := (makeParent_ok hroot hparent (congrArg Prod.fst hmade)).2
        rwa [hmade] at hthere
      obtain ⟨there, name, htarget, hthere⟩ := locate?_of_parent hplain hnull hway
      have hfolder : Files.isFolder (after.at? (there ++ [name])) = true := by
        refine Bool.not_eq_false _ |>.mp fun hnone => ?_
        have hsome := Files.isSome_write text.toUTF8 hthere hnone
        rw [hfails hplain _ htarget] at hsome
        cases hsome
      obtain ⟨entries, hentries⟩ := Files.isFolder_iff.mp hfolder
      refine .inr (.inr ⟨entries, ?_⟩)
      rw [Files.find?, htarget, Option.bind_some, hentries]

theorem hinders_of_save_error {error : StoreError} (hroot : Files.isFolder (files.at? []) = true)
    (h : settings.save path files = (.error error, after)) :
    KeepsAll files after ∧ Hinders path settings files after error := by
  have hkeeps := makeParent_keeps path files
  rcases save_error h with hmade | ⟨hmade, hnone, rfl⟩ | ⟨text, made, hmade, hwritten⟩
  · rw [hmade] at hkeeps
    obtain ⟨folder, rfl, hparent, hblocks⟩ :=
      blocks_of_makeParent hroot (congrArg Prod.fst hmade)
    exact ⟨hkeeps, .noFolder hparent hblocks⟩
  · rw [hmade] at hkeeps
    exact ⟨hkeeps, .textless (text?_eq_none_iff.mp hnone)⟩
  · obtain ⟨rfl, rfl, hnoFile⟩ := noFile_of_writeText_error hroot hmade hwritten
    rw [hmade] at hkeeps
    exact ⟨hkeeps, .unwritable hnoFile⟩

/-- Saved settings are the text of a file, the only one that has changed. -/
theorem find?_of_save_ok (h : settings.save path files = (.ok (), after)) :
    ∃ text, settings.text? = some text ∧ after.find? path = some (.file text.toUTF8) ∧
      Keeps (· = path.steps) files after := by
  obtain ⟨text, made, hmade, htext, hwritten⟩ := save_ok h
  obtain ⟨hplain, target, htarget, hwrite⟩ := writeText_ok hwritten
  obtain ⟨hbytes, hkeeps⟩ := Files.write_keeps hwrite
  have hthere := Files.locate?_of_keeps hkeeps htarget
  have hmake := makeParent_keeps path files
  rw [hmade] at hmake
  refine ⟨text, htext, Files.find?_eq_file_iff.mpr ⟨hplain, target, hthere, hbytes⟩, ?_⟩
  rw [← Files.eq_steps_of_locate? htarget]
  exact hmake.trans hkeeps

theorem not_hinders_of_save_ok (hroot : Files.isFolder (files.at? []) = true)
    (h : settings.save path files = (.ok (), after)) (error : StoreError) :
    ¬ Hinders path settings files after error := by
  obtain ⟨text, made, hmade, -, -⟩ := save_ok h
  obtain ⟨text, htext, hfile, -⟩ := find?_of_save_ok h
  rintro (⟨hparent, hblocks⟩ | hlarge | hnoFile)
  · exact (makeParent_ok hroot hparent (congrArg Prod.fst hmade)).1 hblocks
  · rw [text?_eq_none_iff.mpr hlarge] at htext
    cases htext
  · obtain ⟨hplain, target, htarget, -⟩ := Files.find?_eq_file_iff.mp hfile
    rcases hnoFile with hfolder | hnull | ⟨entries, hentries⟩
    · rw [hplain] at hfolder
      cases hfolder
    · rw [Files.locate?, if_pos (.inr hnull)] at htarget
      cases htarget
    · rw [hfile] at hentries
      cases hentries

/-- Files with one that is a text, and an empty folder. -/
def smallTree : List (String × Files) :=
  [("note", .file "hello".toUTF8), ("etc", .folder [])]

/-- Settings that are saved can be loaded again, and every other file stays as it was.  If they are not
saved, for one of three reasons, every file stays as it was.  Where there is no file, the defaults are
loaded. -/
theorem save_exact (path : Path) (settings : Settings) (entries : List (String × Files)) :
    let files := Files.folder entries
    (files.find? path = none → load path files = .ok {}) ∧
      match settings.save path files with
      | (.ok (), after) =>
        load path after = .ok settings ∧
          (∀ error, ¬ Hinders path settings files after error) ∧
          (∀ steps, steps ≠ path.steps → ∀ bytes,
            after.at? steps = some (.file bytes) ↔ files.at? steps = some (.file bytes)) ∧
          ∀ (other : Path) bytes, other.steps ≠ path.steps →
            files.find? other = some (.file bytes) → load other after = load other files
      | (.error error, after) =>
        Hinders path settings files after error ∧
          (∀ steps bytes,
            after.at? steps = some (.file bytes) ↔ files.at? steps = some (.file bytes)) ∧
          ∀ (other : Path) bytes, files.find? other = some (.file bytes) →
            load other after = load other files := by
  intro files
  have hroot : Files.isFolder (files.at? []) = true := rfl
  refine ⟨load_of_find?_eq_none, ?_⟩
  split
  · rename_i after hsave
    obtain ⟨text, htext, hfile, hkeeps⟩ := find?_of_save_ok hsave
    refine ⟨load_of_text hfile (ofText_of_text? htext), not_hinders_of_save_ok hroot hsave,
      hkeeps.same, fun other bytes hapart hother => load_congr ?_⟩
    rw [hother]
    refine Files.find?_of_keeps hkeeps (fun steps hsteps => ?_) hother
    rwa [Files.eq_steps_of_locate? hsteps]
  · rename_i error after hsave
    obtain ⟨hkeeps, hhinders⟩ := hinders_of_save_error hroot hsave
    refine ⟨hhinders, fun steps => hkeeps.same steps not_false, fun other bytes hother => ?_⟩
    refine load_congr ?_
    rw [hother]
    exact Files.find?_of_keeps hkeeps (fun _ _ => not_false) hother

theorem save_exact_small :
    load "missing" (.folder smallTree) = .ok {} ∧
      (∃ after, save "etc/lime/config.toml" {} (.folder smallTree) = (.ok (), after) ∧
        load "etc/lime/config.toml" after = .ok {} ∧
        load "note" after = load "note" (.folder smallTree)) ∧
      ∃ after, save "note/config.toml" {} (.folder smallTree) = (.error (.noFolder "note"), after) ∧
        load "note" after = load "note" (.folder smallTree) := by
  have hnote : Files.find? "note" (.folder smallTree) = some (.file "hello".toUTF8) := rfl
  refine ⟨?_, ?_, ?_⟩
  · exact (save_exact "missing" {} smallTree).1 rfl
  · have hresult : (save "etc/lime/config.toml" {} (.folder smallTree)).1 = .ok () := by
      decide +kernel
    rcases hsave : save "etc/lime/config.toml" {} (.folder smallTree) with ⟨result, after⟩
    have hexact := (save_exact "etc/lime/config.toml" {} smallTree).2
    rw [hsave] at hexact hresult
    cases hresult
    obtain ⟨hload, -, -, hothers⟩ := hexact
    exact ⟨after, rfl, hload, hothers "note" _ (by decide +kernel) hnote⟩
  · have hresult : (save "note/config.toml" {} (.folder smallTree)).1 = .error (.noFolder "note") := by
      decide +kernel
    rcases hsave : save "note/config.toml" {} (.folder smallTree) with ⟨result, after⟩
    have hexact := (save_exact "note/config.toml" {} smallTree).2
    rw [hsave] at hexact hresult
    cases hresult
    exact ⟨after, rfl, hexact.2.2 "note" _ hnote⟩

end Settings
end Courier
