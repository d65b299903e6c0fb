/-
Paths and what changes in files.

The names of a path are those of the folder that it leads into, and one more (`names_parent`).  To make
a folder or to write a file leaves what else there was (`Keeps`), and so every path that led to a file
still does.  Folders can be made exactly if no file is on the way (`makeWay_eq_false_iff`).
-/
import Courier.Files
import Mathlib.Data.List.Infix

namespace Courier

/-! ## Paths -/

namespace Path

theorem split_ne_nil (cs : List Char) : split cs ≠ [] := by
  cases cs with
  | nil => simp [split]
  | cons c cs =>
    rw [split]
    split
    · exact List.cons_ne_nil _ _
    · split <;> exact List.cons_ne_nil _ _

theorem split_cons_of_ne {c : Char} (h : c ≠ '/') {cs part : List Char} {parts : List (List Char)}
    (hcs : split cs = part :: parts) : split (c :: cs) = (c :: part) :: parts := by
  rw [split, if_neg h, hcs]

theorem split_append_slash (cs rest : List Char) :
    split (cs ++ '/' :: rest) = split cs ++ split rest := by
  induction cs with
  | nil => rfl
  | cons c cs ih =>
    rw [List.cons_append]
    by_cases h : c = '/'
    · rw [split, if_pos h, split, if_pos h, ih]
      rfl
    · obtain ⟨part, parts, hcs⟩ := List.exists_cons_of_ne_nil (split_ne_nil cs)
      rw [split_cons_of_ne h hcs, split_cons_of_ne h (ih.trans (congrArg (· ++ split rest) hcs))]
      rfl

theorem split_of_not_mem {cs : List Char} (h : '/' ∉ cs) : split cs = [cs] := by
  induction cs with
  | nil => rfl
  | cons c cs ih =>
    rw [List.mem_cons, not_or] at h
    exact split_cons_of_ne (Ne.symm h.1) (ih h.2)

theorem names_append_slash (cs rest : List Char) :
    names (String.ofList (cs ++ '/' :: rest)) =
      names (String.ofList cs) ++ names (String.ofList rest) := by
  simp only [names, parts, String.toList_ofList, split_append_slash, List.map_append,
    List.filter_append]

theorem names_of_not_mem {cs : List Char} (h : '/' ∉ cs) :
    names (String.ofList cs) = [String.ofList cs].filter leads := by
  rw [names, parts, String.toList_ofList, split_of_not_mem h, List.map_singleton]

theorem names_snoc_slash (cs : List Char) :
    names (String.ofList (cs ++ ['/'])) = names (String.ofList cs) := by
  have hnone : names (String.ofList []) = [] := by decide +kernel
  rw [names_append_slash, hnone, List.append_nil]

theorem names_snoc_point (cs : List Char) :
    names (String.ofList (cs ++ ['/', '.'])) = names (String.ofList cs) := by
  have hnone : names (String.ofList ['.']) = [] := by decide +kernel
  rw [names_append_slash, hnone, List.append_nil]

/-- What is dropped from the end of a path leads nowhere. -/
theorem names_dropTrailing (backwards : List Char) :
    names (String.ofList (dropTrailing backwards).reverse) =
      names (String.ofList backwards.reverse) := by
  fun_induction dropTrailing backwards with
  | case1 => rfl
  | case2 rest _ ih => rw [ih, List.reverse_cons, names_snoc_slash]
  | case3 rest ih =>
    rw [ih, List.reverse_cons, names_snoc_slash, List.reverse_cons, List.reverse_cons,
      List.append_assoc]
    exact (names_snoc_point _).symm
  | case4 => rfl

theorem dropTrailing_of_name {name rest : List Char} (hne : name ≠ []) (hpoint : name ≠ ['.'])
    (hslash : '/' ∉ name) : dropTrailing (name ++ rest) = name ++ rest := by
  obtain ⟨c, cs, rfl⟩ := List.exists_cons_of_ne_nil hne
  rw [List.mem_cons, not_or] at hslash
  have hc : c ≠ '/' := Ne.symm hslash.1
  cases cs with
  | nil =>
    have hdot : c ≠ '.' := fun h => hpoint (congrArg (fun c => [c]) h)
    simp [dropTrailing, hc, hdot]
  | cons c' cs =>
    have hc' : c' ≠ '/' := fun h => hslash.2 (h ▸ List.mem_cons_self)
    simp [dropTrailing, hc, hc']

theorem isToFolder_append (cs : List Char) {name : List Char} (h : '/' ∉ name) :
    isToFolder (String.ofList (cs ++ '/' :: name)) = isToFolder (String.ofList name) := by
  simp only [isToFolder, parts, String.toList_ofList, split_append_slash, split_of_not_mem h,
    List.map_append, List.map_singleton, List.getLast?_append, List.getLast?_singleton,
    Option.some_or]

theorem leads_of_not_isToFolder {name : List Char} (hslash : '/' ∉ name)
    (h : isToFolder (String.ofList name) = false) :
    leads (String.ofList name) = true ∧ name ≠ [] ∧ name ≠ ['.'] ∧ String.ofList name ≠ ".." := by
  simp only [isToFolder, parts, String.toList_ofList, split_of_not_mem hslash, List.map_singleton,
    List.getLast?_singleton, Bool.or_eq_false_iff, decide_eq_false_iff_not] at h
  obtain ⟨⟨hempty, hpoint⟩, hback⟩ := h
  refine ⟨?_, ?_, ?_, hback⟩
  · simp [leads, hempty, hpoint]
  · exact fun hname => hempty (hname ▸ rfl)
  · exact fun hname => hpoint (hname ▸ rfl)

/-- The last name of a path, written backwards, and what is before it. -/
theorem exists_name (backwards : List Char) : ∃ name rest, backwards = name ++ rest ∧ '/' ∉ name ∧
    (rest = [] ∨ ∃ folder, rest = '/' :: folder) := by
  induction backwards with
  | nil => exact ⟨[], [], rfl, List.not_mem_nil, .inl rfl⟩
  | cons c cs ih =>
    by_cases hc : c = '/'
    · exact ⟨[], c :: cs, rfl, List.not_mem_nil, .inr ⟨cs, hc ▸ rfl⟩⟩
    · obtain ⟨name, rest, rfl, hslash, hrest⟩ := ih
      refine ⟨c :: name, rest, rfl, ?_, hrest⟩
      rw [List.mem_cons, not_or]
      exact ⟨Ne.symm hc, hslash⟩

/-- A path that can lead to a file has one name more than the folder that it leads into. -/
theorem names_parent {path : Path} (h : path.isToFolder = false) :
    ∃ folder name, path.parent? = some folder ∧ path.names = folder.names ++ [name] ∧
      name ≠ ".." := by
  obtain ⟨name, rest, hpath, hslash, hrest⟩ := exists_name path.toList.reverse
  have hname : '/' ∉ name.reverse := fun hmem => hslash (List.mem_reverse.mp hmem)
  have hwhole : path = String.ofList (rest.reverse ++ name.reverse) := by
    rw [← List.reverse_append, ← hpath, List.reverse_reverse, String.ofList_toList]
  have hlast : isToFolder (String.ofList name.reverse) = false := by
    rw [hwhole] at h
    rcases hrest with rfl | ⟨folder, rfl⟩
    · exact h
    · rwa [List.reverse_cons, List.append_assoc, List.singleton_append,
        isToFolder_append _ hname] at h
  obtain ⟨hleads, hempty, hpoint, hback⟩ := leads_of_not_isToFolder hname hlast
  have hdrop : dropTrailing path.toList.reverse = name ++ rest := by
    rw [hpath]
    refine dropTrailing_of_name (mt (fun h => by rw [h]; rfl) hempty) ?_ hslash
    exact mt (fun h => by rw [h]; rfl) hpoint
  have hfolder : (name ++ rest).dropWhile (· ≠ '/') = rest := by
    have hall : ∀ c ∈ name, decide (c ≠ '/') = true :=
      fun c hc => decide_eq_true fun h : c = '/' => hslash (h ▸ hc)
    rw [List.dropWhile_append_of_pos hall]
    rcases hrest with rfl | ⟨folder, rfl⟩ <;> simp
  refine ⟨String.ofList (dropTrailing rest).reverse, String.ofList name.reverse, ?_, ?_, hback⟩
  · have hne : name ≠ [] := mt (fun h => by rw [h]; rfl) hempty
    have hslash' : name ++ rest ≠ ['/'] := by
      intro h
      obtain ⟨c, cs, rfl⟩ := List.exists_cons_of_ne_nil hne
      rw [List.cons_append, List.cons.injEq] at h
      exact hslash (h.1 ▸ List.mem_cons_self)
    simp only [parent?, hdrop, hfolder, hslash', List.append_eq_nil_iff, hne, false_and, or_self,
      if_false]
  · rw [names_dropTrailing, hwhole]
    have hlast : names (String.ofList name.reverse) = [String.ofList name.reverse] := by
      rw [names_of_not_mem hname, List.filter_cons_of_pos hleads, List.filter_nil]
    rcases hrest with rfl | ⟨folder, rfl⟩
    · rw [List.reverse_nil, List.nil_append, hlast]
      rfl
    · rw [List.reverse_cons, List.append_assoc, List.singleton_append, names_append_slash, hlast,
        names_snoc_slash]

end Path

/-! ## Files -/

namespace Files

theorem isFolder_iff {found : Option Files} :
    isFolder found = true ↔ ∃ entries, found = some (folder entries) := by
  unfold isFolder
  split <;> simp_all

theorem at?_cons (name : String) (steps : List String) (entries : List (String × Files)) :
    at? (name :: steps) (folder entries) = (entries.lookup name).bind (at? steps) :=
  rfl

theorem at?_append (front back : List String) (files : Files) :
    files.at? (front ++ back) = (files.at? front).bind (at? back) := by
  induction front generalizing files with
  | nil => rfl
  | cons name front ih =>
    cases files with
    | file bytes => rfl
    | folder entries =>
      rw [List.cons_append, at?_cons, at?_cons, Option.bind_assoc]
      exact congrArg _ (funext ih)

theorem at?_snoc {files : Files} {here : List String} {entries : List (String × Files)}
    (h : files.at? here = some (folder entries)) (name : String) :
    files.at? (here ++ [name]) = entries.lookup name := by
  rw [at?_append, h, Option.bind_some, at?_cons]
  exact Option.bind_fun_some _

/-- Everything on the way to something is a folder. -/
theorem isFolder_before {files : Files} {front steps : List String} (hfront : front <+: steps)
    (hne : front ≠ steps) {found : Files} (h : files.at? steps = some found) :
    isFolder (files.at? front) = true := by
  obtain ⟨back, rfl⟩ := hfront
  rw [at?_append] at h
  obtain ⟨inner, hinner, hfound⟩ := Option.bind_eq_some_iff.mp h
  rw [hinner]
  cases inner with
  | folder entries => rfl
  | file bytes =>
    cases back with
    | nil => exact absurd (List.append_nil front).symm hne
    | cons name back => cases hfound

/-- There is no file on the way to a folder. -/
theorem not_file_before {files : Files} {front here : List String}
    (h : isFolder (files.at? here) = true) (hfront : front <+: here) (bytes : ByteArray) :
    files.at? front ≠ some (file bytes) := by
  intro hfile
  obtain ⟨entries, hentries⟩ := isFolder_iff.mp h
  by_cases hsame : front = here
  · rw [hsame, hentries] at hfile
    cases hfile
  · have hfolder := isFolder_before hfront hsame hentries
    rw [hfile] at hfolder
    cases hfolder

/-! ### What stays -/

/-- Apart from some places, files are the same afterwards; folders are still there. -/
structure Keeps (changed : List String → Prop) (files after : Files) : Prop where
  same : ∀ steps, ¬ changed steps → ∀ bytes,
    after.at? steps = some (file bytes) ↔ files.at? steps = some (file bytes)
  folders : ∀ steps, isFolder (files.at? steps) = true → isFolder (after.at? steps) = true

/-- Files are the same afterwards. -/
abbrev KeepsAll : Files → Files → Prop :=
  Keeps fun _ => False

variable {files after : Files} {changed : List String → Prop}

theorem KeepsAll.refl (files : Files) : KeepsAll files files :=
  ⟨fun _ _ _ => Iff.rfl, fun _ h => h⟩

theorem KeepsAll.trans {between : Files} (h : KeepsAll files between)
    (h' : Keeps changed between after) : Keeps changed files after where
  same steps hsteps bytes := (h'.same steps hsteps bytes).trans (h.same steps not_false bytes)
  folders steps := h'.folders steps ∘ h.folders steps

/-- A change inside an entry of a folder is one in the folder. -/
theorem keeps_put {name : String} {inner : Files} {entries : List (String × Files)}
    (hfiles : ∀ steps, ¬ changed (name :: steps) → ∀ bytes, inner.at? steps = some (file bytes) ↔
      (entries.lookup name).bind (at? steps) = some (file bytes))
    (hfolders : ∀ steps, isFolder ((entries.lookup name).bind (at? steps)) = true →
      isFolder (inner.at? steps) = true) :
    Keeps changed (folder entries) (folder (put name inner entries)) := by
  constructor
  · intro steps hsteps bytes
    cases steps with
    | nil => simp [at?]
    | cons other steps =>
      by_cases hother : other = name
      · subst hother
        rw [at?_cons, at?_cons, lookup_put_self]
        exact hfiles steps hsteps bytes
      · rw [at?_cons, at?_cons, lookup_put_of_ne hother]
  · intro steps
    cases steps with
    | nil => exact fun _ => rfl
    | cons other steps =>
      by_cases hother : other = name
      · subst hother
        rw [at?_cons, at?_cons, lookup_put_self]
        exact hfolders steps
      · rw [at?_cons, at?_cons, lookup_put_of_ne hother]
        exact id

/-! ### Making folders -/

theorem makeFolder_cons (name : String) (steps : List String) (entries : List (String × Files)) :
    makeFolder (name :: steps) (folder entries) =
      (makeFolder steps ((entries.lookup name).getD (folder []))).map fun files =>
        folder (put name files entries) :=
  rfl

/-- A folder that is not there holds as many files as an empty one. -/
theorem at?_getD {found : Option Files} (steps : List String) (bytes : ByteArray) :
    at? steps (found.getD (folder [])) = some (file bytes) ↔
      found.bind (at? steps) = some (file bytes) := by
  cases found with
  | some files => rfl
  | none => cases steps <;> simp [at?]

theorem makeFolder_keeps {steps : List String} (h : files.makeFolder steps = some after) :
    KeepsAll files after ∧ isFolder (after.at? steps) = true := by
  induction steps generalizing files after with
  | nil =>
    cases files with
    | file bytes => cases h
    | folder entries =>
      cases h
      exact ⟨.refl _, rfl⟩
  | cons name steps ih =>
    cases files with
    | file bytes => cases h
    | folder entries =>
      rw [makeFolder_cons] at h
      obtain ⟨inner, hinner, rfl⟩ := Option.map_eq_some_iff.mp h
      obtain ⟨hkeeps, hfolder⟩ := ih hinner
      constructor
      · refine keeps_put (fun steps _ bytes => ?_) fun steps hsteps => ?_
        · rw [hkeeps.same steps not_false bytes, at?_getD]
        · refine hkeeps.folders steps ?_
          cases hlookup : entries.lookup name with
          | some files => rwa [hlookup] at hsteps
          | none => rw [hlookup] at hsteps; cases hsteps
      · rw [at?_cons, lookup_put_self]
        exact hfolder

/-- A folder cannot be made exactly if a file is there, or on the way. -/
theorem makeFolder_eq_none_iff {steps : List String} :
    files.makeFolder steps = none ↔
      ∃ front, front <+: steps ∧ ∃ bytes, files.at? front = some (file bytes) := by
  induction steps generalizing files with
  | nil => cases files <;> simp [makeFolder, at?]
  | cons name steps ih =>
    cases files with
    | file bytes =>
      exact iff_of_true rfl ⟨[], List.nil_prefix, bytes, rfl⟩
    | folder entries =>
      rw [makeFolder_cons, Option.map_eq_none_iff, ih]
      constructor
      · rintro ⟨front, hfront, bytes, hbytes⟩
        refine ⟨name :: front, List.prefix_cons_iff.mpr (.inr ⟨front, rfl, hfront⟩), bytes, ?_⟩
        rwa [at?_cons, ← at?_getD]
      · rintro ⟨front, hfront, bytes, hbytes⟩
        rcases List.prefix_cons_iff.mp hfront with rfl | ⟨front, rfl, hfront⟩
        · cases hbytes
        · refine ⟨front, (List.prefix_cons_inj name).mp hfront, bytes, ?_⟩
          rwa [at?_getD, ← at?_cons]

/-- From a folder, a step cannot be taken exactly if it leads to a file. -/
theorem makeFolder_walk_eq_none_iff {here : List String} (h : isFolder (files.at? here) = true)
    (name : String) : files.makeFolder (Path.walk here name) = none ↔
      ∃ bytes, files.at? (Path.walk here name) = some (file bytes) := by
  rw [makeFolder_eq_none_iff]
  refine ⟨?_, fun ⟨bytes, hbytes⟩ => ⟨_, List.prefix_refl _, bytes, hbytes⟩⟩
  rintro ⟨front, hfront, bytes, hbytes⟩
  have hnot : ¬ front <+: here := fun hfront => not_file_before h hfront bytes hbytes
  unfold Path.walk at hfront ⊢
  split at hfront
  · exact absurd (hfront.trans (List.dropLast_prefix here)) hnot
  · rename_i hback
    rcases List.prefix_concat_iff.mp hfront with rfl | hfront
    · exact ⟨bytes, by rwa [if_neg hback]⟩
    · exact absurd hfront hnot

theorem makeWay_keeps (here names : List String) (files : Files) :
    KeepsAll files (files.makeWay here names).2 := by
  fun_induction makeWay here names files with
  | case1 => exact .refl _
  | case2 here name names files made hmade ih => exact (makeFolder_keeps hmade).1.trans ih
  | case3 => exact .refl _

theorem follow_cons {here : List String} (h : isFolder (files.at? here) = true) (name : String)
    (names : List String) :
    files.follow here (name :: names) = files.follow (Path.walk here name) names := by
  rw [follow, if_pos h]

/-- A way that was made leads to a folder. -/
theorem follow_makeWay {here names : List String} (h : isFolder (files.at? here) = true)
    (hmade : (files.makeWay here names).1 = true) :
    ∃ there, (files.makeWay here names).2.follow here names = some there ∧
      isFolder ((files.makeWay here names).2.at? there) = true := by
  fun_induction makeWay here names files with
  | case1 => exact ⟨_, rfl, h⟩
  | case2 here name names files made hfolder ih =>
    obtain ⟨hkeeps, hthere⟩ := makeFolder_keeps hfolder
    rw [follow_cons ((hkeeps.trans (makeWay_keeps _ _ _)).folders here h)]
    exact ih hthere hmade
  | case3 => cases hmade

/-- A way cannot be made exactly if there is a file on it. -/
theorem makeWay_eq_false_iff {here names : List String} (h : isFolder (files.at? here) = true) :
    (files.makeWay here names).1 = false ↔
      ∃ front, front <+: names ∧
        ∃ bytes, files.at? (front.foldl Path.walk here) = some (file bytes) := by
  fun_induction makeWay here names files with
  | case1 here files =>
    obtain ⟨entries, hentries⟩ := isFolder_iff.mp h
    simp [hentries]
  | case2 here name names files made hfolder ih =>
    obtain ⟨hkeeps, hthere⟩ := makeFolder_keeps hfolder
    rw [ih hthere]
    constructor
    · rintro ⟨front, hfront, bytes, hbytes⟩
      refine ⟨name :: front, (List.prefix_cons_inj name).mpr hfront, bytes, ?_⟩
      exact (hkeeps.same _ not_false bytes).mp hbytes
    · rintro ⟨front, hfront, bytes, hbytes⟩
      rcases List.prefix_cons_iff.mp hfront with rfl | ⟨front, rfl, hfront⟩
      · exact absurd hbytes (not_file_before h (List.prefix_refl here) bytes)
      · refine ⟨front, (List.prefix_cons_inj name).mp hfront, bytes, ?_⟩
        exact (hkeeps.same _ not_false bytes).mpr hbytes
  | case3 here name names files hnone =>
    refine iff_of_true rfl ⟨[name], ?_, (makeFolder_walk_eq_none_iff h name).mp hnone⟩
    exact List.prefix_append [name] names

/-! ### Following a path -/

theorem follow_of_keeps {here names steps : List String} (hkeeps : Keeps changed files after)
    (h : files.follow here names = some steps) : after.follow here names = some steps := by
  fun_induction follow files here names with
  | case1 => exact h
  | case2 here name names hfolder ih =>
    rw [follow_cons (hkeeps.folders here hfolder)]
    exact ih h
  | case3 => cases h

theorem follow_append {here there front back : List String}
    (h : files.follow here front = some there) :
    files.follow here (front ++ back) = files.follow there back := by
  fun_induction follow files here front with
  | case1 => rw [Option.some.injEq] at h; rw [h, List.nil_append]
  | case2 here name names hfolder ih =>
    rw [List.cons_append, follow_cons hfolder]
    exact ih h
  | case3 => cases h

theorem eq_foldl_of_follow {here names steps : List String}
    (h : files.follow here names = some steps) : steps = names.foldl Path.walk here := by
  fun_induction follow files here names with
  | case1 => exact (Option.some.inj h).symm
  | case2 here name names hfolder ih => exact ih h
  | case3 => cases h

theorem locate?_of_keeps {path : Path} {steps : List String} (hkeeps : Keeps changed files after)
    (h : files.locate? path = some steps) : after.locate? path = some steps := by
  unfold locate? at h ⊢
  split at h
  · cases h
  · rename_i hbroken
    rw [if_neg hbroken]
    exact follow_of_keeps hkeeps h

/-- The steps to where a path leads are those of the path. -/
theorem eq_steps_of_locate? {path : Path} {steps : List String}
    (h : files.locate? path = some steps) : steps = path.steps := by
  unfold locate? at h
  split at h
  · cases h
  · exact eq_foldl_of_follow h

theorem find?_eq_file_iff {path : Path} {bytes : ByteArray} :
    files.find? path = some (file bytes) ↔ path.isToFolder = false ∧
      ∃ steps, files.locate? path = some steps ∧ files.at? steps = some (file bytes) := by
  rw [← Option.bind_eq_some_iff, find?]
  split
  · rename_i found hfound
    rw [hfound]
    cases path.isToFolder <;> simp
  · rename_i hfile
    refine iff_of_false (hfile bytes) fun h => hfile bytes h.2

/-- A path still leads to a file that is the same afterwards. -/
theorem find?_of_keeps {path : Path} {bytes : ByteArray} (hkeeps : Keeps changed files after)
    (hunchanged : ∀ steps, files.locate? path = some steps → ¬ changed steps)
    (h : files.find? path = some (file bytes)) : after.find? path = some (file bytes) := by
  obtain ⟨hplain, steps, hsteps, hbytes⟩ := find?_eq_file_iff.mp h
  refine find?_eq_file_iff.mpr ⟨hplain, steps, locate?_of_keeps hkeeps hsteps, ?_⟩
  exact (hkeeps.same steps (hunchanged steps hsteps) bytes).mpr hbytes

/-! ### Writing -/

theorem write_singleton (bytes : ByteArray) {name : String} {entries : List (String × Files)}
    (h : isFolder (entries.lookup name) = false) :
    write bytes [name] (folder entries) = some (folder (put name (file bytes) entries)) := by
  rw [write]
  split
  · rename_i hfolder
    rw [hfolder] at h
    cases h
  · rfl

theorem write_cons (bytes : ByteArray) {name : String} {steps : List String} (hne : steps ≠ [])
    (entries : List (String × Files)) :
    write bytes (name :: steps) (folder entries) =
      (entries.lookup name).bind fun files =>
        (write bytes steps files).map fun files => folder (put name files entries) := by
  rw [write]
  · cases entries.lookup name <;> rfl
  · exact hne

/-- There is nothing inside what is no folder. -/
theorem bind_at?_of_not_isFolder {found : Option Files} (h : isFolder found = false)
    {steps : List String} (hne : steps ≠ []) : found.bind (at? steps) = none := by
  obtain ⟨name, steps, rfl⟩ := List.exists_cons_of_ne_nil hne
  rcases found with _ | (bytes | entries)
  · rfl
  · rfl
  · cases h

theorem write_keeps {bytes : ByteArray} {steps : List String}
    (h : files.write bytes steps = some after) :
    after.at? steps = some (file bytes) ∧ Keeps (· = steps) files after := by
  fun_induction write bytes steps files generalizing after with
  | case1 => cases h
  | case2 name entries hfolder =>
    cases h
    have hnot : isFolder (entries.lookup name) = false :=
      Bool.eq_false_iff.mpr fun h => (isFolder_iff.mp h).elim hfolder
    refine ⟨?_, keeps_put (fun steps hsteps other => ?_) fun steps hsteps => ?_⟩
    · rw [at?_cons, lookup_put_self]
      rfl
    · have hne : steps ≠ [] := fun h => hsteps (h ▸ rfl)
      rw [bind_at?_of_not_isFolder hnot hne, ← Option.bind_some (file bytes) (at? steps),
        bind_at?_of_not_isFolder rfl hne]
    · by_cases hne : steps = []
      · rw [hne, show (entries.lookup name).bind (at? []) = entries.lookup name from
          Option.bind_fun_some _, hnot] at hsteps
        cases hsteps
      · rw [bind_at?_of_not_isFolder hnot hne] at hsteps
        cases hsteps
  | case3 name entries steps hsteps inner hlookup ih =>
    obtain ⟨inner', hinner, rfl⟩ := Option.map_eq_some_iff.mp h
    obtain ⟨hbytes, hkeeps⟩ := ih hinner
    refine ⟨?_, keeps_put (fun steps' hsteps other => ?_) fun steps' => ?_⟩
    · rw [at?_cons, lookup_put_self]
      exact hbytes
    · rw [hlookup]
      exact hkeeps.same steps' (fun h => hsteps (h ▸ rfl)) other
    · rw [hlookup]
      exact hkeeps.folders steps'
  | case4 => cases h
  | case5 => cases h

/-- A file can be written into a folder, unless there is a folder in its place. -/
theorem isSome_write (bytes : ByteArray) {here : List String} {name : String}
    (hhere : isFolder (files.at? here) = true)
    (hname : isFolder (files.at? (here ++ [name])) = false) :
    (files.write bytes (here ++ [name])).isSome = true := by
  induction here generalizing files with
  | nil =>
    obtain ⟨entries, hentries⟩ := isFolder_iff.mp hhere
    rw [at?_snoc hentries] at hname
    cases hentries
    rw [List.nil_append, write_singleton bytes hname]
    rfl
  | cons outer here ih =>
    cases files with
    | file bytes => cases hhere
    | folder entries =>
      rw [List.cons_append, write_cons bytes (List.append_ne_nil_of_right_ne_nil _ (by simp))]
      rw [List.cons_append, at?_cons] at hname
      rw [at?_cons] at hhere
      cases hlookup : entries.lookup outer with
      | none => rw [hlookup] at hhere; cases hhere
      | some inner =>
        rw [hlookup] at hhere hname
        rw [Option.bind_some, Option.isSome_map]
        exact ih hhere hname

end Files
end Courier
