/-
What is written for plain tables in TOML is read back as those tables.

A document grows at its end: a header opens a new table there, and a pair goes to the end of the
table that was opened last.  `Leads` follows a text from statement to statement in this way, and
`read?_tablesText` says what is there at the end: the tables that were written, in their order, with
an item for the text of each value.
-/
import Mathlib.Data.List.Forall2
import Courier.Toml.Document
import Courier.Proofs.Toml.Values

namespace Courier
namespace Toml

/-! ## Statements -/

/-- Whether a key needs no quotes. -/
def isWord (key : String) : Bool :=
  !key.toList.isEmpty && key.toList.all isBare

section Word

variable {key : String} (h : isWord key = true)
include h

theorem bare_of_isWord : ∀ c ∈ key.toList, isBare c = true :=
  List.all_eq_true.mp (Bool.and_eq_true_iff.mp h).2

theorem eq_cons_of_isWord : ∃ c cs, key.toList = c :: cs ∧ isBare c = true := by
  have hne : key.toList ≠ [] := by
    have hempty := (Bool.and_eq_true_iff.mp h).1
    simpa using hempty
  obtain ⟨c, cs, heq⟩ := List.exists_cons_of_ne_nil hne
  exact ⟨c, cs, heq, bare_of_isWord h c (heq ▸ List.mem_cons_self)⟩

/-- No character that does not belong to a word stands where a word does. -/
theorem append_ne_cons_of_isWord {d : Char} (hd : isBare d = false) (rest tail : List Char) :
    key.toList ++ rest ≠ d :: tail := by
  obtain ⟨c, cs, heq, hbare⟩ := eq_cons_of_isWord h
  rw [heq]
  exact fun htail => ne_of_holds hbare hd (List.cons.inj htail).1

end Word

theorem skipBlanks_cons {c : Char} (hspace : c ≠ ' ') (htab : c ≠ '\t') (cs : List Char) :
    skipBlanks (c :: cs) = c :: cs := by
  rw [skipBlanks, if_neg (not_or.mpr ⟨hspace, htab⟩)]

/-- A word is read as a key if the character after it is none of a word, and no point follows. -/
theorem readKey_word {key : String} (h : isWord key = true) {c d : Char} {rest after : List Char}
    (hend : isBare c = false) (hblanks : skipBlanks (c :: rest) = d :: after) (hpoint : d ≠ '.') :
    ∃ span, readKey maxNesting (key.toList ++ c :: rest) =
      some ([], ⟨key, span⟩, d :: after) := by
  have hstop : ∀ e, (c :: rest).head? = some e → isBare e = false := by
    rintro e ⟨⟩
    exact hend
  have htake : (key.toList ++ c :: rest).takeWhile isBare = key.toList :=
    takeWhile_append_stop (bare_of_isWord h) hstop
  have hdrop : (key.toList ++ c :: rest).dropWhile isBare = c :: rest :=
    dropWhile_append_stop (bare_of_isWord h) hstop
  obtain ⟨first, cs, heq, hbare⟩ := eq_cons_of_isWord h
  have hempty : key.toList.isEmpty = false := by
    rw [heq]
    rfl
  have hstart : skipBlanks (key.toList ++ c :: rest) = key.toList ++ c :: rest := by
    rw [heq]
    exact skipBlanks_cons (ne_of_holds hbare (by decide)) (ne_of_holds hbare (by decide)) _
  have hpart : readPart (key.toList ++ c :: rest) =
      some (⟨key, .between (key.toList ++ c :: rest) (c :: rest)⟩, c :: rest) := by
    rw [readPart, htake, hdrop, hempty]
    · simp only [String.ofList_toList, Bool.false_eq_true, if_false]
    all_goals exact append_ne_cons_of_isWord h (by decide) _
  refine ⟨.between (key.toList ++ c :: rest) (c :: rest), ?_⟩
  show readKey (78 + 1) _ = _
  rw [readKey, hstart, hpart]
  simp only [hblanks]
  split
  · simp_all
  · rfl

theorem readStatement_pairLine {key : String} {value : List Char} (hkey : isWord key = true)
    (hvalue : IsValue value) (rest : List Char) :
    ∃ span item, Reads value item ∧
      readStatement (pairLine key value ++ rest) = some (.pair [] ⟨key, span⟩ item, rest) := by
  have hline : pairLine key value ++ rest =
      key.toList ++ ' ' :: '=' :: ' ' :: (value ++ '\n' :: rest) := by
    simp [pairLine]
  obtain ⟨span, hread⟩ : ∃ span,
      readKey maxNesting (key.toList ++ ' ' :: '=' :: ' ' :: (value ++ '\n' :: rest)) =
        some ([], ⟨key, span⟩, '=' :: ' ' :: (value ++ '\n' :: rest)) :=
    readKey_word hkey (by decide) rfl (by decide)
  obtain ⟨item, hitem⟩ := hvalue.ends (2 * (' ' :: (value ++ '\n' :: rest)).length + 2) rest
    (by simp only [List.length_cons, List.length_append]; omega)
  have hblanks : skipBlanks (' ' :: (value ++ '\n' :: rest)) = value ++ '\n' :: rest := by
    show skipBlanks (value ++ '\n' :: rest) = _
    cases value with
    | nil => exact skipBlanks_cons (by decide) (by decide) rest
    | cons c cs =>
      obtain ⟨hspace, htab⟩ := hvalue.begins c rfl
      exact skipBlanks_cons hspace htab _
  have hpair : readPair (pairLine key value ++ rest) = some (.pair [] ⟨key, span⟩ item, rest) := by
    rw [readPair, hline, hread]
    simp only [hblanks, hitem]
    rfl
  have hbracket (tail : List Char) : pairLine key value ++ rest ≠ '[' :: tail :=
    hline ▸ append_ne_cons_of_isWord hkey (by decide) _ tail
  refine ⟨span, item, ⟨_, _, hitem⟩, ?_⟩
  rw [readStatement, hpair]
  · exact fun tail => hbracket ('[' :: tail)
  · exact hbracket

theorem readStatement_headerLine {name : String} (hname : isWord name = true) (rest : List Char) :
    ∃ keySpan span,
      readStatement (headerLine name ++ rest) =
        some (.header false [] ⟨name, keySpan⟩ span, rest) := by
  have hline : headerLine name ++ rest = '[' :: (name.toList ++ ']' :: '\n' :: rest) := by
    simp [headerLine]
  obtain ⟨keySpan, hread⟩ : ∃ span, readKey maxNesting (name.toList ++ ']' :: '\n' :: rest) =
      some ([], ⟨name, span⟩, ']' :: '\n' :: rest) :=
    readKey_word hname (by decide) rfl (by decide)
  have hheader (start : List Char) : readHeader start false (name.toList ++ ']' :: '\n' :: rest) =
      some (.header false [] ⟨name, keySpan⟩ (.between start ('\n' :: rest)), rest) := by
    rw [readHeader, hread]
    rfl
  have hstatement : readStatement (headerLine name ++ rest) =
      readHeader (headerLine name ++ rest) false (name.toList ++ ']' :: '\n' :: rest) := by
    rw [hline, readStatement]
    exact append_ne_cons_of_isWord hname (by decide) _
  exact ⟨keySpan, _, hstatement.trans (hheader _)⟩

/-! ## Documents -/

/-- Takes in the statements of a text, as `read?` does. -/
def takeIn (fuel : Nat) (cs : List Char) (document : Document) : Option Document :=
  (readStatements fuel cs).bind fun statements => statements.foldlM Document.add? document

/-- Reading a text from a document on leads to another document, with the rest of the text still
to be read. -/
def Leads (cs : List Char) (document : Document) (rest : List Char) (next : Document) : Prop :=
  ∀ fuel, cs.length ≤ fuel →
    ∃ less, rest.length ≤ less ∧ takeIn fuel cs document = takeIn less rest next

namespace Leads

variable {cs rest last : List Char} {document next final : Document}

theorem refl (cs : List Char) (document : Document) : Leads cs document cs document :=
  fun fuel hfuel => ⟨fuel, hfuel, rfl⟩

theorem trans (h : Leads cs document rest next) (h' : Leads rest next last final) :
    Leads cs document last final := by
  intro fuel hfuel
  obtain ⟨less, hless, heq⟩ := h fuel hfuel
  obtain ⟨least, hleast, heq'⟩ := h' less hless
  exact ⟨least, hleast, heq.trans heq'⟩

theorem blank (rest : List Char) (document : Document) :
    Leads ('\n' :: rest) document rest document := by
  intro fuel hfuel
  rw [List.length_cons] at hfuel
  obtain ⟨fuel, rfl⟩ : ∃ less, fuel = less + 1 := ⟨fuel - 1, by omega⟩
  exact ⟨fuel, by omega, rfl⟩

/-- A statement leads to the document that takes it in. -/
theorem statement {text : List Char} {statement : Statement}
    (hstart : ∃ c ∈ text.head?, isBare c = true ∨ c = '[')
    (hread : readStatement (text ++ rest) = some (statement, rest))
    (hadd : document.add? statement = some next) : Leads (text ++ rest) document rest next := by
  intro fuel hfuel
  obtain ⟨c, hhead, hstart⟩ := hstart
  obtain ⟨cs, rfl⟩ : ∃ cs, text = c :: cs := List.head?_eq_some_iff.mp hhead
  rw [List.cons_append, List.length_cons, List.length_append] at hfuel
  rw [List.cons_append] at hread ⊢
  obtain ⟨fuel, rfl⟩ : ∃ less, fuel = less + 1 := ⟨fuel - 1, by omega⟩
  refine ⟨fuel, by omega, ?_⟩
  have hne : ∀ d : Char, isBare d = false → d ≠ '[' → c ≠ d := by
    rintro d hd hbracket rfl
    rcases hstart with hbare | rfl
    · exact ne_of_holds hbare hd rfl
    · exact hbracket rfl
  have hblanks : skipBlanks (c :: (cs ++ rest)) = c :: (cs ++ rest) :=
    skipBlanks_cons (hne ' ' (by decide) (by decide)) (hne '\t' (by decide) (by decide)) _
  have hcomment : c ≠ '#' := hne '#' (by decide) (by decide)
  have hnewline : c ≠ '\n' := hne '\n' (by decide) (by decide)
  have hreturn : c ≠ '\r' := hne '\r' (by decide) (by decide)
  have hstatements : readStatements (fuel + 1) (c :: (cs ++ rest)) =
      (readStatements fuel rest).map (statement :: ·) := by
    rw [readStatements, hblanks]
    split <;> simp_all
  unfold takeIn
  rw [hstatements]
  cases readStatements fuel rest with
  | none => rfl
  | some statements =>
    show List.foldlM Document.add? document (statement :: statements) = _
    rw [List.foldlM_cons, hadd]
    rfl

/-- A text that leads to its end has been read. -/
theorem read?_eq {s : String} (h : Leads s.toList {} [] next)
    (hmark : s.toList.head? ≠ some byteOrderMark) : read? s = some next.root := by
  obtain ⟨less, -, heq⟩ := h s.toList.length (Nat.le_refl _)
  have hend : takeIn less [] next = some next := by
    cases less <;> rfl
  rw [hend, takeIn, Option.bind_eq_some_iff] at heq
  obtain ⟨statements, hstatements, hdocument⟩ := heq
  unfold read?
  simp only [if_neg hmark, hstatements, hdocument, Option.bind_eq_bind, Option.bind_some]

end Leads

/-- A document whose last table a header has opened. -/
def openAt (done : List (Key × Item)) (key : Key) (span : Span) (entries : List (Key × Item)) :
    Document where
  root := .table none .header (done ++ [(key, .table (some span) .header entries)])
  opened := [key]

theorem change_last {key : Key} {done : List (Key × Item)} (hdone : ∀ entry ∈ done,
    entry.1.text ≠ key.text) (f : Option Item → Option Item) (item : Item) :
    change key f (done ++ [(key, item)]) =
      (f (some item)).map fun item => done ++ [(key, item)] := by
  induction done with
  | nil => rw [List.nil_append, change, if_pos rfl]; rfl
  | cons entry done ih =>
    obtain ⟨hne, htail⟩ := List.forall_mem_cons.mp hdone
    rw [List.cons_append, change, if_neg hne, ih htail, Option.map_map]
    rfl

theorem get?_eq_none {key : String} {entries : List (Key × Item)}
    (h : ∀ entry ∈ entries, entry.1.text ≠ key) : Item.get? key entries = none := by
  have hnone : entries.find? (·.1.text = key) = none := by
    simpa using h
  rw [Item.get?, hnone]
  rfl

/-- A header opens a new table at the end. -/
theorem add?_header {done : List (Key × Item)} {key : Key}
    (hdone : ∀ entry ∈ done, entry.1.text ≠ key.text) (opened : List Key) (span : Span) :
    Document.add? ⟨.table none .header done, opened⟩ (.header false [] key span) =
      some (openAt done key span []) := by
  simp [Document.add?, changeAt, Document.openTable, get?_eq_none hdone, openAt]

/-- A pair goes to the end of the table that was opened last. -/
theorem add?_pair {done entries : List (Key × Item)} {key newKey : Key}
    (hdone : ∀ entry ∈ done, entry.1.text ≠ key.text)
    (hentries : ∀ entry ∈ entries, entry.1.text ≠ newKey.text) (span : Span) (item : Item) :
    ∃ span', (openAt done key span entries).add? (.pair [] newKey item) =
      some (openAt done key span' (entries ++ [(newKey, item)])) := by
  -- With the pair the table may reach further; else it is as it was.
  have hextend : ∃ span', Document.extend item (.table (some span) .header entries) =
      .table (some span') .header entries := by
    unfold Document.extend
    cases item.span? with
    | none => exact ⟨span, rfl⟩
    | some last => exact ⟨_, rfl⟩
  obtain ⟨span', hextend⟩ := hextend
  refine ⟨span', ?_⟩
  simp [Document.add?, openAt, changeAt, change_last hdone, hextend, addPair, get?_eq_none hentries]

/-! ## Tables -/

/-- Pairs that make up a table. -/
structure ArePairs (pairs : List (String × List Char)) : Prop where
  words : ∀ pair ∈ pairs, isWord pair.1 = true
  values : ∀ pair ∈ pairs, IsValue pair.2
  distinct : (pairs.map Prod.fst).Nodup

/-- The entries of a table are read from pairs, one from each. -/
def PairsRead (pairs : List (String × List Char)) (entries : List (Key × Item)) : Prop :=
  List.Forall₂ (fun pair entry => entry.1.text = pair.1 ∧ Reads pair.2 entry.2) pairs entries

/-- Tables that make up a document. -/
structure AreTables (tables : List (String × List (String × List Char))) : Prop where
  words : ∀ table ∈ tables, isWord table.1 = true
  pairs : ∀ table ∈ tables, ArePairs table.2
  distinct : (tables.map Prod.fst).Nodup

/-- The entries of a document are read from tables, one from each. -/
def TablesRead (tables : List (String × List (String × List Char)))
    (entries : List (Key × Item)) : Prop :=
  List.Forall₂ (fun table entry => entry.1.text = table.1 ∧
    ∃ span inner, entry.2 = .table span .header inner ∧ PairsRead table.2 inner) tables entries

theorem exists_mem_of_forall₂ {α β : Type} {R : α → β → Prop} {as : List α} {bs : List β}
    (h : List.Forall₂ R as bs) : (∀ a ∈ as, ∃ b ∈ bs, R a b) ∧ ∀ b ∈ bs, ∃ a ∈ as, R a b := by
  induction h with
  | nil => exact ⟨nofun, nofun⟩
  | cons hhead _ ih =>
    constructor
    · refine List.forall_mem_cons.mpr ⟨⟨_, List.mem_cons_self, hhead⟩, fun a ha => ?_⟩
      obtain ⟨b, hb, hab⟩ := ih.1 a ha
      exact ⟨b, List.mem_cons_of_mem _ hb, hab⟩
    · refine List.forall_mem_cons.mpr ⟨⟨_, List.mem_cons_self, hhead⟩, fun b hb => ?_⟩
      obtain ⟨a, ha, hab⟩ := ih.2 b hb
      exact ⟨a, List.mem_cons_of_mem _ ha, hab⟩

/-- A new entry leaves the names of those that come after it free. -/
theorem ne_of_mem_append {α : Type} {others : List (String × α)} {entries : List (Key × Item)}
    {name : String} (h : ∀ other ∈ others, ∀ entry ∈ entries, entry.1.text ≠ other.1)
    {entry : Key × Item} (hentry : entry.1.text = name) (hnew : name ∉ others.map Prod.fst) :
    ∀ other ∈ others, ∀ e ∈ entries ++ [entry], e.1.text ≠ other.1 := by
  intro other hother e he
  rcases List.mem_append.mp he with hold | hlast
  · exact h other hother e hold
  · rw [List.mem_singleton.mp hlast, hentry]
    rintro rfl
    exact hnew (List.mem_map_of_mem hother)

/-- Pairs go to the end of the table that is open, one after the other.  `isOpen` says of documents
which entries that table has. -/
theorem leads_pairs (isOpen : List (Key × Item) → Document → Prop)
    (hadd : ∀ entries document key item, isOpen entries document →
      (∀ entry ∈ entries, entry.1.text ≠ key.text) →
      ∃ next, document.add? (.pair [] key item) = some next ∧ isOpen (entries ++ [(key, item)]) next)
    {pairs : List (String × List Char)} (hpairs : ArePairs pairs) {entries : List (Key × Item)}
    (hentries : ∀ pair ∈ pairs, ∀ entry ∈ entries, entry.1.text ≠ pair.1) {document : Document}
    (hopen : isOpen entries document) (rest : List Char) :
    ∃ inner next, PairsRead pairs inner ∧ isOpen (entries ++ inner) next ∧
      Leads (pairs.flatMap (fun (key, value) => pairLine key value) ++ rest) document rest next := by
  induction pairs generalizing entries document with
  | nil =>
    refine ⟨[], document, .nil, ?_, .refl _ _⟩
    rwa [List.append_nil]
  | cons pair pairs ih =>
    obtain ⟨hword, hwords⟩ := List.forall_mem_cons.mp hpairs.words
    obtain ⟨hvalue, hvalues⟩ := List.forall_mem_cons.mp hpairs.values
    obtain ⟨hpair, hentries'⟩ := List.forall_mem_cons.mp hentries
    obtain ⟨hnew, hdistinct⟩ := List.nodup_cons.mp hpairs.distinct
    let text := pairs.flatMap (fun (key, value) => pairLine key value) ++ rest
    obtain ⟨keySpan, item, hitem, hread⟩ := readStatement_pairLine hword hvalue text
    let entry : Key × Item := (⟨pair.1, keySpan⟩, item)
    obtain ⟨next, hnext, hopen'⟩ := hadd entries document entry.1 item hopen hpair
    have hfresh : ∀ other ∈ pairs, ∀ e ∈ entries ++ [entry], e.1.text ≠ other.1 :=
      ne_of_mem_append hentries' rfl hnew
    obtain ⟨inner, last, hinner, hlast, hrest⟩ := ih ⟨hwords, hvalues, hdistinct⟩ hfresh hopen'
    have hstart : ∃ c ∈ (pairLine pair.1 pair.2).head?, isBare c = true ∨ c = '[' := by
      obtain ⟨c, cs, heq, hbare⟩ := eq_cons_of_isWord hword
      exact ⟨c, by simp [pairLine, heq], .inl hbare⟩
    refine ⟨entry :: inner, last, .cons ⟨rfl, hitem⟩ hinner, ?_, ?_⟩
    · rwa [List.append_assoc] at hlast
    · rw [List.flatMap_cons, List.append_assoc]
      exact (Leads.statement hstart hread hnext).trans hrest

/-- A table opens at the end of a document and takes its pairs. -/
theorem leads_table {name : String} {pairs : List (String × List Char)} (hname : isWord name = true)
    (hpairs : ArePairs pairs) {done : List (Key × Item)}
    (hdone : ∀ entry ∈ done, entry.1.text ≠ name) (opened : List Key) (rest : List Char) :
    ∃ key span inner, key.text = name ∧ PairsRead pairs inner ∧
      Leads (tableText name pairs ++ rest) ⟨.table none .header done, opened⟩ rest
        (openAt done key span inner) := by
  let text := pairs.flatMap (fun (key, value) => pairLine key value) ++ rest
  obtain ⟨keySpan, span, hread⟩ := readStatement_headerLine hname text
  let key : Key := ⟨name, keySpan⟩
  have hheader : Leads (headerLine name ++ text) ⟨.table none .header done, opened⟩ text
      (openAt done key span []) :=
    .statement ⟨'[', rfl, .inr rfl⟩ hread (add?_header hdone opened span)
  have hpair : ∀ entries document (new : Key) (item : Item),
      (∃ span, document = openAt done key span entries) →
      (∀ entry ∈ entries, entry.1.text ≠ new.text) →
      ∃ next, document.add? (.pair [] new item) = some next ∧
        ∃ span, next = openAt done key span (entries ++ [(new, item)]) := by
    rintro entries _ new item ⟨span, rfl⟩ hnew
    obtain ⟨span', hadd⟩ : ∃ span', (openAt done key span entries).add? (.pair [] new item) =
        some (openAt done key span' (entries ++ [(new, item)])) := add?_pair hdone hnew span item
    exact ⟨_, hadd, span', rfl⟩
  obtain ⟨inner, _, hinner, ⟨span', rfl⟩, hrest⟩ :=
    leads_pairs (fun entries document => ∃ span, document = openAt done key span entries) hpair
      hpairs (fun _ _ _ h => absurd h List.not_mem_nil) ⟨span, rfl⟩ rest
  refine ⟨key, span', inner, rfl, hinner, ?_⟩
  rw [tableText, List.append_assoc]
  exact hheader.trans hrest

theorem tablesText_cons (table : String × List (String × List Char))
    (tables : List (String × List (String × List Char))) :
    ∃ gap, (gap = [] ∨ gap = ['\n']) ∧
      tablesText (table :: tables) = tableText table.1 table.2 ++ (gap ++ tablesText tables) := by
  cases tables with
  | nil => exact ⟨[], .inl rfl, by simp [tablesText]⟩
  | cons next tables => exact ⟨['\n'], .inr rfl, by simp [tablesText]⟩

/-- Tables come one after the other. -/
theorem leads_tables {tables : List (String × List (String × List Char))}
    (htables : AreTables tables) {done : List (Key × Item)}
    (hdone : ∀ table ∈ tables, ∀ entry ∈ done, entry.1.text ≠ table.1) (opened : List Key) :
    ∃ entries opened', TablesRead tables entries ∧
      Leads (tablesText tables) ⟨.table none .header done, opened⟩ []
        ⟨.table none .header (done ++ entries), opened'⟩ := by
  induction tables generalizing done opened with
  | nil =>
    refine ⟨[], opened, .nil, ?_⟩
    rw [List.append_nil]
    exact .refl _ _
  | cons table tables ih =>
    obtain ⟨hword, hwords⟩ := List.forall_mem_cons.mp htables.words
    obtain ⟨hpairs, hpairs'⟩ := List.forall_mem_cons.mp htables.pairs
    obtain ⟨htable, hdone'⟩ := List.forall_mem_cons.mp hdone
    obtain ⟨hnew, hdistinct⟩ := List.nodup_cons.mp htables.distinct
    obtain ⟨gap, hgap, htext⟩ := tablesText_cons table tables
    obtain ⟨key, span, inner, hkey, hinner, hfirst⟩ :=
      leads_table hword hpairs htable opened (gap ++ tablesText tables)
    let entry : Key × Item := (key, .table (some span) .header inner)
    have hskip : Leads (gap ++ tablesText tables) (openAt done key span inner) (tablesText tables)
        (openAt done key span inner) := by
      rcases hgap with rfl | rfl
      · exact .refl _ _
      · exact .blank _ _
    have hfresh : ∀ other ∈ tables, ∀ e ∈ done ++ [entry], e.1.text ≠ other.1 :=
      ne_of_mem_append hdone' hkey hnew
    obtain ⟨entries, opened', hentries, hrest⟩ :=
      ih ⟨hwords, hpairs', hdistinct⟩ hfresh [key]
    refine ⟨entry :: entries, opened', .cons ⟨hkey, _, _, rfl, hinner⟩ hentries, ?_⟩
    rw [List.append_assoc] at hrest
    rw [htext]
    exact (hfirst.trans hskip).trans hrest

/-- A pair before all headers goes to the end of the document. -/
theorem add?_loosePair {entries : List (Key × Item)} {key : Key}
    (hnew : ∀ entry ∈ entries, entry.1.text ≠ key.text) (item : Item) :
    Document.add? ⟨.table none .header entries, []⟩ (.pair [] key item) =
      some ⟨.table none .header (entries ++ [(key, item)]), []⟩ := by
  have hextend : Document.extend item (.table none .header entries) =
      .table none .header entries := rfl
  simp [Document.add?, changeAt, hextend, addPair, get?_eq_none hnew]

/-- Pairs that belong to no table, and then tables. -/
def documentText (loose : List (String × List Char))
    (tables : List (String × List (String × List Char))) : List Char :=
  loose.flatMap (fun (key, value) => pairLine key value) ++ tablesText tables

theorem head?_documentText {loose : List (String × List Char)} (hloose : ArePairs loose)
    (tables : List (String × List (String × List Char))) :
    (documentText loose tables).head? ≠ some byteOrderMark := by
  cases loose with
  | nil =>
    cases tables with
    | nil => simp [documentText, tablesText]
    | cons table tables =>
      obtain ⟨gap, -, htext⟩ := tablesText_cons table tables
      rw [documentText, htext]
      exact fun heq => absurd (Option.some.inj heq) (by decide)
  | cons pair loose =>
    obtain ⟨c, cs, heq, hbare⟩ := eq_cons_of_isWord (hloose.words pair List.mem_cons_self)
    have hhead : (documentText (pair :: loose) tables).head? = some c := by
      simp [documentText, pairLine, heq]
    rw [hhead]
    rintro ⟨⟩
    exact absurd hbare (by decide)

/-- What is written for loose pairs and tables is read back as those. -/
theorem read?_documentText {loose : List (String × List Char)}
    {tables : List (String × List (String × List Char))} (hloose : ArePairs loose)
    (htables : AreTables tables) (hapart : ∀ table ∈ tables, table.1 ∉ loose.map Prod.fst) :
    ∃ inner entries, PairsRead loose inner ∧ TablesRead tables entries ∧
      read? (String.ofList (documentText loose tables)) =
        some (.table none .header (inner ++ entries)) := by
  obtain ⟨inner, _, hinner, rfl, hfirst⟩ : ∃ inner next, PairsRead loose inner ∧
      next = ⟨.table none .header ([] ++ inner), []⟩ ∧
      Leads (documentText loose tables) {} (tablesText tables) next :=
    leads_pairs (fun entries document => document = ⟨.table none .header entries, []⟩)
      (fun _ _ _ item hdocument hnew => ⟨_, hdocument ▸ add?_loosePair hnew item, rfl⟩)
      hloose (fun _ _ _ h => absurd h List.not_mem_nil) rfl (tablesText tables)
  have hdone : ∀ table ∈ tables, ∀ entry ∈ inner, entry.1.text ≠ table.1 := by
    intro table htable entry hentry heq
    obtain ⟨pair, hpair, hsame, -⟩ := (exists_mem_of_forall₂ hinner).2 entry hentry
    exact hapart table htable (heq ▸ hsame ▸ List.mem_map_of_mem hpair)
  obtain ⟨entries, opened, hentries, hrest⟩ := leads_tables htables hdone []
  have hleads := hfirst.trans hrest
  have hmark := head?_documentText hloose tables
  refine ⟨inner, entries, hinner, hentries, ?_⟩
  rw [← String.toList_ofList (l := documentText loose tables)] at hleads hmark
  exact hleads.read?_eq hmark

/-- What is written for tables is read back as those tables. -/
theorem read?_tablesText {tables : List (String × List (String × List Char))}
    (h : AreTables tables) :
    ∃ entries, TablesRead tables entries ∧
      read? (String.ofList (tablesText tables)) = some (.table none .header entries) := by
  have hnone : ArePairs [] := ⟨nofun, nofun, .nil⟩
  obtain ⟨_, entries, hloose, hentries, hread⟩ :=
    read?_documentText hnone h (fun _ _ => List.not_mem_nil)
  cases hloose
  exact ⟨entries, hentries, hread⟩

end Toml
end Courier
