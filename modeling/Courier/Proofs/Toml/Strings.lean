/-
What is written for a string in TOML is read back as that string.

`quoted` chooses one of four styles.  Between apostrophes everything stands for itself, so the choice
has to see to it that nothing there ends the string early; between quotes whatever is written for a
character is read as that character (`takes_escaped`).  The long styles end at the first three marks
in a row, of up to five, so that marks at the end of the string run into the closing ones; that is
why the proofs look two marks ahead.  `readString_quoted` puts the styles together.
-/
import Courier.Toml.Quoted

namespace Courier
namespace Toml

/-! ## Characters between quotes -/

/-- A reader of the inside of a string takes a text for a character. -/
def Takes (read : List Char → Option (List Char × List Char)) (text : List Char) (c : Char) : Prop :=
  ∀ rest, read (text ++ rest) = before [c] (read rest)

/-- The letters that stand after a backslash. -/
def escapeLetters : List Char :=
  ['"', '\\', 'b', 't', 'n', 'f', 'r']

/-- None of them begins a code point or a fold. -/
theorem ne_of_mem_escapeLetters {letter : Char} (h : letter ∈ escapeLetters) :
    letter ≠ 'u' ∧ letter ≠ 'U' ∧ letter ≠ ' ' ∧ letter ≠ '\t' ∧ letter ≠ '\n' ∧
      letter ≠ '\r' := by
  simp only [escapeLetters, List.mem_cons, List.not_mem_nil, or_false] at h
  rcases h with rfl | rfl | rfl | rfl | rfl | rfl | rfl <;> decide

/-- The ways in which a character is written. -/
theorem escaped_cases (long : Bool) (c : Char) :
    (∃ letter ∈ escapeLetters, escape? letter = some c ∧ escaped long c = ['\\', letter]) ∨
    (c.toNat < 256 ∧ escaped long c =
      ['\\', 'u', '0', '0', upperHexDigit (c.toNat / 16), upperHexDigit (c.toNat % 16)]) ∨
    (long = true ∧ c = '\n' ∧ escaped long c = ['\n']) ∨
    (isText c = true ∧ c ≠ '\\' ∧ escaped long c = [c]) := by
  unfold escaped
  by_cases hslash : c = '\\'
  · exact .inl ⟨'\\', by decide, by rw [hslash]; rfl, if_pos hslash⟩
  by_cases hback : c = '\x08'
  · exact .inl ⟨'b', by decide, by rw [hback]; rfl, by rw [if_neg hslash, if_pos hback]⟩
  rw [if_neg hslash, if_neg hback]
  by_cases htab : c = '\t'
  · exact .inl ⟨'t', by decide, by rw [htab]; rfl, if_pos htab⟩
  rw [if_neg htab]
  by_cases hnewline : c = '\n'
  · rw [if_pos hnewline]
    cases long with
    | false => exact .inl ⟨'n', by decide, by rw [hnewline]; rfl, rfl⟩
    | true => exact .inr (.inr (.inl ⟨rfl, hnewline, rfl⟩))
  rw [if_neg hnewline]
  by_cases hfeed : c = '\x0c'
  · exact .inl ⟨'f', by decide, by rw [hfeed]; rfl, if_pos hfeed⟩
  by_cases hreturn : c = '\r'
  · exact .inl ⟨'r', by decide, by rw [hreturn]; rfl, by rw [if_neg hfeed, if_pos hreturn]⟩
  rw [if_neg hfeed, if_neg hreturn]
  by_cases hcontrol : c.toNat < 0x20 ∨ c.toNat = 0x7F
  · exact .inr (.inl ⟨by omega, if_pos hcontrol⟩)
  · refine .inr (.inr (.inr ⟨?_, hslash, if_neg hcontrol⟩))
    simp only [isText, htab, decide_false, Bool.false_or, Bool.and_eq_true, decide_eq_true_eq,
      bne_iff_ne, ne_eq]
    omega

/-- The code point of a small character is read as the character. -/
theorem ofHex?_small {c : Char} (h : c.toNat < 256) :
    ofHex? ['0', '0', upperHexDigit (c.toNat / 16), upperHexDigit (c.toNat % 16)] = some c := by
  have hvalid : c.toNat.isValidChar := c.valid
  unfold ofHex?
  rw [hexValues?_small (fun _ => hexValue?_upperHexDigit) h]
  dsimp only
  rw [dif_pos hvalid]
  rfl

/-- A reader that takes the plain characters, the letters after a backslash and the code points for
what they are takes for a character whatever is written for it. -/
theorem takes_escaped {read : List Char → Option (List Char × List Char)} {long : Bool}
    (hplain : ∀ c, isText c = true → c ≠ '"' → c ≠ '\\' → Takes read [c] c)
    (hletter : ∀ letter ∈ escapeLetters, ∀ c, escape? letter = some c →
      Takes read ['\\', letter] c)
    (hcode : ∀ a b d e c, ofHex? [a, b, d, e] = some c → Takes read ['\\', 'u', a, b, d, e] c)
    (hbreak : long = true → Takes read ['\n'] '\n') {c : Char} (hquote : c ≠ '"') :
    Takes read (escaped long c) c := by
  rcases escaped_cases long c with
    ⟨letter, hmem, hletter', heq⟩ | ⟨hsmall, heq⟩ | ⟨hlong, rfl, heq⟩ | ⟨htext, hslash, heq⟩ <;>
    rw [heq]
  · exact hletter letter hmem c hletter'
  · exact hcode _ _ _ _ c (ofHex?_small hsmall)
  · exact hbreak hlong
  · exact hplain c htext hquote hslash

/-! ## One quote -/

theorem readBasic_plain {c : Char} (htext : isText c = true) (hquote : c ≠ '"')
    (hslash : c ≠ '\\') : Takes readBasic [c] c := by
  intro rest
  show readBasic (c :: rest) = _
  rw [readBasic]
  · simp [htext, hslash]
  all_goals simp_all

theorem readBasic_letter {letter c : Char} (hmem : letter ∈ escapeLetters)
    (hletter : escape? letter = some c) : Takes readBasic ['\\', letter] c := by
  intro rest
  obtain ⟨hu, hU, -⟩ := ne_of_mem_escapeLetters hmem
  show readBasic ('\\' :: letter :: rest) = _
  rw [readBasic, hletter]
  · rfl
  all_goals simp_all

theorem readBasic_code {a b d e c : Char} (hcode : ofHex? [a, b, d, e] = some c) :
    Takes readBasic ['\\', 'u', a, b, d, e] c := by
  intro rest
  show readBasic ('\\' :: 'u' :: a :: b :: d :: e :: rest) = _
  rw [readBasic, hcode]
  rfl

/-- A string between single quotes is read up to the closing one. -/
theorem readBasic_escapedText (cs : List Char) (run : Nat) (rest : List Char) :
    readBasic (escapedText false run cs ++ '"' :: rest) = some (cs, rest) := by
  induction cs generalizing run with
  | nil => rw [escapedText, List.nil_append, readBasic]
  | cons c cs ih =>
    rw [escapedText]
    by_cases hquote : c = '"'
    · have htake : Takes readBasic ['\\', '"'] '"' := readBasic_letter (by decide) rfl
      rw [if_pos hquote, if_neg (by simp), hquote]
      show readBasic (['\\', '"'] ++ (escapedText false 0 cs ++ '"' :: rest)) = _
      rw [htake, ih]
      rfl
    · have htake : Takes readBasic (escaped false c) c :=
        takes_escaped (fun _ => readBasic_plain) (fun _ h _ => readBasic_letter h)
          (fun _ _ _ _ _ => readBasic_code) (by simp) hquote
      rw [if_neg hquote, List.append_assoc, htake, ih]
      rfl

/-! ## Three quotes -/

theorem readLongBasic_plain {c : Char} (hin : isText c = true ∨ c = '\n') (hquote : c ≠ '"')
    (hslash : c ≠ '\\') : Takes (readLongBasic false) [c] c := by
  intro rest
  have hreturn : c ≠ '\r' := by
    rintro rfl
    exact absurd hin (by decide)
  show readLongBasic false (c :: rest) = _
  rw [readLongBasic]
  · simp [hin, hslash]
  all_goals simp_all

theorem readLongBasic_letter {letter c : Char} (hmem : letter ∈ escapeLetters)
    (hletter : escape? letter = some c) : Takes (readLongBasic false) ['\\', letter] c := by
  intro rest
  obtain ⟨hu, hU, hspace, htab, hnewline, hreturn⟩ := ne_of_mem_escapeLetters hmem
  have hbreak : breaksLine (letter :: rest) = false := by
    rw [breaksLine] <;> simp_all
  show readLongBasic false ('\\' :: letter :: rest) = _
  rw [readLongBasic, hbreak, hletter]
  · rfl
  all_goals simp_all

theorem readLongBasic_code {a b d e c : Char} (hcode : ofHex? [a, b, d, e] = some c) :
    Takes (readLongBasic false) ['\\', 'u', a, b, d, e] c := by
  intro rest
  show readLongBasic false ('\\' :: 'u' :: a :: b :: d :: e :: rest) = _
  rw [readLongBasic, hcode]
  rfl

/-- A quote is taken for itself where not two more follow. -/
theorem readLongBasic_quote {rest : List Char} (h : ∀ tail, rest ≠ '"' :: '"' :: tail) :
    readLongBasic false ('"' :: rest) = before ['"'] (readLongBasic false rest) := by
  rw [readLongBasic]
  · simp [isText]
  all_goals simp_all

/-- How what is written for a character begins. -/
theorem escaped_eq_cons (long : Bool) (c : Char) :
    ∃ first tail, escaped long c = first :: tail ∧ first ≠ '\r' ∧ (first = '\n' → c = '\n') ∧
      (first = '"' → c = '"') := by
  rcases escaped_cases long c with ⟨letter, -, -, heq⟩ | ⟨-, heq⟩ | ⟨-, rfl, heq⟩ |
    ⟨htext, -, heq⟩
  · exact ⟨_, _, heq, by decide, by simp, by simp⟩
  · exact ⟨_, _, heq, by decide, by simp, by simp⟩
  · exact ⟨_, _, heq, by decide, fun _ => rfl, by simp⟩
  · refine ⟨_, _, heq, ?_, id, id⟩
    rintro rfl
    exact absurd htext (by decide)

/-- A quote stands first only where it needs no escape. -/
theorem escapedText_eq_cons (long : Bool) (run : Nat) (c : Char) (cs : List Char) :
    ∃ first tail, escapedText long run (c :: cs) = first :: tail ∧ first ≠ '\r' ∧
      (first = '\n' → c = '\n') ∧ (first = '"' → c = '"' ∧ long = true ∧ run < 2) := by
  rw [escapedText]
  by_cases hquote : c = '"'
  · rw [if_pos hquote]
    by_cases hraw : long = true ∧ run < 2
    · rw [if_pos hraw]
      exact ⟨_, _, rfl, by decide, by simp, fun _ => ⟨hquote, hraw⟩⟩
    · rw [if_neg hraw]
      exact ⟨_, _, rfl, by decide, by simp, by simp⟩
  · obtain ⟨first, tail, heq, hreturn, hnewline, hfirst⟩ := escaped_eq_cons long c
    rw [if_neg hquote, heq]
    exact ⟨first, tail ++ _, rfl, hreturn, hnewline, fun h => absurd (hfirst h) hquote⟩

/-- After a quote, two more stand only at the end. -/
theorem eq_of_quotes {cs rest tail : List Char} {run : Nat}
    (h : escapedText true (run + 1) cs ++ '"' :: '"' :: '"' :: rest = '"' :: '"' :: tail) :
    cs = [] ∨ cs = ['"'] ∧ escapedText true (run + 1) cs = ['"'] := by
  cases cs with
  | nil => exact .inl rfl
  | cons c cs =>
    obtain ⟨first, _, heq, -, -, hfirst⟩ := escapedText_eq_cons true (run + 1) c cs
    have hquote : first = '"' := by
      rw [heq] at h
      exact (List.cons.inj h).1
    obtain ⟨rfl, -, hrun⟩ := hfirst hquote
    rw [escapedText, if_pos rfl, if_pos ⟨rfl, hrun⟩] at h ⊢
    cases cs with
    | nil => exact .inr ⟨rfl, rfl⟩
    | cons d cs =>
      obtain ⟨second, _, heq', -, -, hsecond⟩ := escapedText_eq_cons true (run + 1 + 1) d cs
      have hquote' : second = '"' := by
        rw [heq'] at h
        exact (List.cons.inj (List.cons.inj h).2).1
      have := (hsecond hquote').2.2
      omega

section Close

variable {mark : Char} {rest : List Char} (h : rest.head? ≠ some mark)
include h

theorem closeLong_none : closeLong mark rest = ([], rest) := by
  rcases rest with _ | ⟨c, _ | ⟨d, rest⟩⟩ <;> simp_all [closeLong]

theorem closeLong_one : closeLong mark (mark :: rest) = ([mark], rest) := by
  cases rest <;> simp_all [closeLong]

omit h in
theorem closeLong_two : closeLong mark (mark :: mark :: rest) = ([mark, mark], rest) := by
  simp [closeLong]

end Close

/-- A string between three quotes is read up to the closing ones. -/
theorem readLongBasic_escapedText (cs : List Char) (run : Nat) {rest : List Char}
    (h : rest.head? ≠ some '"') :
    readLongBasic false (escapedText true run cs ++ '"' :: '"' :: '"' :: rest) =
      some (cs, rest) := by
  induction cs generalizing run with
  | nil => rw [escapedText, List.nil_append, readLongBasic, closeLong_none h]
  | cons c cs ih =>
    rw [escapedText]
    by_cases hquote : c = '"'
    · subst hquote
      rw [if_pos rfl]
      by_cases hraw : true = true ∧ run < 2
      · rw [if_pos hraw, List.cons_append]
        -- With two more the quote is one of those that close: it is one of the last two then.
        by_cases hclose : ∃ tail,
            escapedText true (run + 1) cs ++ '"' :: '"' :: '"' :: rest = '"' :: '"' :: tail
        · obtain ⟨tail, htail⟩ := hclose
          rcases eq_of_quotes htail with rfl | ⟨rfl, hone⟩
          · rw [escapedText, List.nil_append, readLongBasic, closeLong_one h]
          · rw [hone, List.cons_append, List.nil_append, readLongBasic, closeLong_two]
        · rw [readLongBasic_quote fun tail htail => hclose ⟨tail, htail⟩, ih]
          rfl
      · have htake : Takes (readLongBasic false) ['\\', '"'] '"' :=
          readLongBasic_letter (by decide) rfl
        rw [if_neg hraw]
        show readLongBasic false (['\\', '"'] ++ (escapedText true 0 cs ++ _)) = _
        rw [htake, ih]
        rfl
    · have htake : Takes (readLongBasic false) (escaped true c) c :=
        takes_escaped (fun _ htext => readLongBasic_plain (.inl htext))
          (fun _ h _ => readLongBasic_letter h) (fun _ _ _ _ _ => readLongBasic_code)
          (fun _ => readLongBasic_plain (.inr rfl) (by decide) (by decide)) hquote
      rw [if_neg hquote, List.append_assoc, htake, ih]
      rfl

/-! ## Apostrophes -/

theorem readLiteral_append {cs : List Char} (h : ∀ c ∈ cs, isText c = true ∧ c ≠ '\'')
    (rest : List Char) : readLiteral (cs ++ '\'' :: rest) = some (cs, rest) := by
  induction cs with
  | nil => rw [List.nil_append, readLiteral]
  | cons c cs ih =>
    obtain ⟨⟨htext, hmark⟩, htail⟩ := List.forall_mem_cons.mp h
    rw [List.cons_append, readLiteral, if_pos htext, ih htail]
    · rfl
    · simp_all

theorem le_longestRun (mark : Char) (run : Nat) (cs : List Char) :
    run ≤ longestRun mark run cs := by
  induction cs generalizing run with
  | nil => exact Nat.le_refl run
  | cons c cs ih =>
    rw [longestRun]
    split
    · exact Nat.le_of_succ_le (ih (run + 1))
    · exact Nat.le_max_left _ _

theorem longestRun_mark (mark : Char) (run : Nat) (cs : List Char) :
    longestRun mark run (mark :: cs) = longestRun mark (run + 1) cs := by
  rw [longestRun, if_pos rfl]

/-- A character is taken for itself, an apostrophe where not two more follow. -/
theorem readLongLiteral_plain {c : Char} (hbare : isText c = true ∨ c = '\n') {rest : List Char}
    (h : c = '\'' → ∀ tail, rest ≠ '\'' :: '\'' :: tail) :
    readLongLiteral (c :: rest) = before [c] (readLongLiteral rest) := by
  have hreturn : c ≠ '\r' := by
    rintro rfl
    exact absurd hbare (by decide)
  rw [readLongLiteral, if_pos hbare] <;> simp_all

/-- A string between three apostrophes is read up to the closing ones, if there are no three in a
row before. -/
theorem readLongLiteral_append {cs : List Char} {run : Nat} {rest : List Char}
    (hbare : ∀ c ∈ cs, isText c = true ∨ c = '\n') (hrun : longestRun '\'' run cs ≤ 2)
    (h : rest.head? ≠ some '\'') :
    readLongLiteral (cs ++ '\'' :: '\'' :: '\'' :: rest) = some (cs, rest) := by
  induction cs generalizing run with
  | nil => rw [List.nil_append, readLongLiteral, closeLong_none h]
  | cons c cs ih =>
    obtain ⟨hc, htail⟩ := List.forall_mem_cons.mp hbare
    rw [List.cons_append]
    by_cases hmark : c = '\''
    · subst hmark
      rw [longestRun_mark] at hrun
      by_cases hclose : ∃ tail, cs ++ '\'' :: '\'' :: '\'' :: rest = '\'' :: '\'' :: tail
      · obtain ⟨tail, hcs⟩ := hclose
        rcases cs with _ | ⟨d, _ | ⟨e, cs⟩⟩
        · rw [List.nil_append, readLongLiteral, closeLong_one h]
        · obtain ⟨rfl, -⟩ := List.cons.inj hcs
          rw [List.cons_append, List.nil_append, readLongLiteral, closeLong_two]
        · obtain ⟨rfl, hcs'⟩ := List.cons.inj hcs
          obtain ⟨rfl, -⟩ := List.cons.inj hcs'
          rw [longestRun_mark, longestRun_mark] at hrun
          have := le_longestRun '\'' (run + 1 + 1 + 1) cs
          omega
      · rw [readLongLiteral_plain hc fun _ tail hcs => hclose ⟨tail, hcs⟩, ih htail hrun]
        rfl
    · rw [longestRun, if_neg hmark] at hrun
      have hrun' : longestRun '\'' 0 cs ≤ 2 := by omega
      rw [readLongLiteral_plain hc fun h => absurd h hmark, ih htail hrun']
      rfl

/-! ## The four styles -/

theorem styleOf_cases (cs : List Char) :
    styleOf cs = .basic ∨
    (styleOf cs = .literal ∧ cs ≠ [] ∧ ∀ c ∈ cs, isText c = true ∧ c ≠ '\'') ∨
    styleOf cs = .longBasic ∨
    (styleOf cs = .longLiteral ∧ (∀ c ∈ cs, isText c = true ∨ c = '\n') ∧
      longestRun '\'' 0 cs ≤ 2) := by
  have hbare : (cs.all fun c => isText c || c = '\n') = true ↔
      ∀ c ∈ cs, isText c = true ∨ c = '\n' := by
    simp
  unfold styleOf
  simp only [hbare]
  split
  · exact .inl rfl
  rename_i hbasic
  split
  · rename_i hliteral
    obtain ⟨htext, hline, hmark⟩ := hliteral
    refine .inr (.inl ⟨rfl, ?_, fun c hc => ⟨(htext c hc).resolve_right ?_, ?_⟩⟩)
    · rintro rfl
      exact hbasic (by simp)
    · rintro rfl
      exact hline hc
    · rintro rfl
      exact hmark hc
  split
  · exact .inr (.inr (.inl rfl))
  split
  · rename_i hlong
    exact .inr (.inr (.inr ⟨rfl, hlong⟩))
  split
  · exact .inl rfl
  · exact .inr (.inr (.inl rfl))

theorem dropBreak_of_head? {cs : List Char}
    (h : ∀ c ∈ cs.head?, c ≠ '\n' ∧ c ≠ '\r') : dropBreak cs = cs := by
  cases cs with
  | nil => rfl
  | cons c cs =>
    obtain ⟨hnewline, hreturn⟩ := h c rfl
    rw [dropBreak] <;> simp_all

/-- A long string that begins on its line is read from there. -/
theorem dropBreak_opening {cs text : List Char}
    (h : '\n' ∉ cs → ∀ c ∈ text.head?, c ≠ '\n' ∧ c ≠ '\r') :
    dropBreak ((if '\n' ∈ cs then ['\n'] else []) ++ text) = text := by
  by_cases hline : '\n' ∈ cs
  · rw [if_pos hline]
    rfl
  · rw [if_neg hline]
    exact dropBreak_of_head? (h hline)

theorem readString_basic (cs : List Char) {rest : List Char} (h : rest.head? ≠ some '"') :
    readString ('"' :: (escapedText false 0 cs ++ '"' :: rest)) = some (cs, rest) := by
  rw [readString, readBasic_escapedText]
  intro tail htail
  cases cs with
  | nil =>
    rw [escapedText, List.nil_append] at htail
    simp_all
  | cons c cs =>
    obtain ⟨first, _, heq, -, -, hfirst⟩ := escapedText_eq_cons false 0 c cs
    rw [heq] at htail
    exact absurd (hfirst (List.cons.inj htail).1).2.1 (by decide)

theorem readString_literal {cs : List Char} (hne : cs ≠ [])
    (hcs : ∀ c ∈ cs, isText c = true ∧ c ≠ '\'') (rest : List Char) :
    readString ('\'' :: (cs ++ '\'' :: rest)) = some (cs, rest) := by
  rw [readString, readLiteral_append hcs]
  intro tail htail
  obtain ⟨c, cs, rfl⟩ := List.exists_cons_of_ne_nil hne
  exact (hcs c List.mem_cons_self).2 (List.cons.inj htail).1

theorem readString_longBasic (cs : List Char) {rest : List Char} (h : rest.head? ≠ some '"') :
    readString ('"' :: '"' :: '"' :: ((if '\n' ∈ cs then ['\n'] else []) ++
      (escapedText true 0 cs ++ '"' :: '"' :: '"' :: rest))) = some (cs, rest) := by
  rw [readString, dropBreak_opening, readLongBasic_escapedText cs 0 h]
  intro hline c hc
  cases cs with
  | nil =>
    cases hc
    decide
  | cons d cs =>
    obtain ⟨first, _, heq, hreturn, hnewline, -⟩ := escapedText_eq_cons true 0 d cs
    rw [heq] at hc
    cases hc
    exact ⟨fun hfirst => hline (hnewline hfirst ▸ List.mem_cons_self), hreturn⟩

theorem readString_longLiteral {cs rest : List Char}
    (hbare : ∀ c ∈ cs, isText c = true ∨ c = '\n') (hrun : longestRun '\'' 0 cs ≤ 2)
    (h : rest.head? ≠ some '\'') :
    readString ('\'' :: '\'' :: '\'' :: ((if '\n' ∈ cs then ['\n'] else []) ++
      (cs ++ '\'' :: '\'' :: '\'' :: rest))) = some (cs, rest) := by
  rw [readString, dropBreak_opening, readLongLiteral_append hbare hrun h]
  intro hline c hc
  cases cs with
  | nil =>
    cases hc
    decide
  | cons d cs =>
    cases hc
    refine ⟨fun heq => hline (heq ▸ List.mem_cons_self), ?_⟩
    rintro rfl
    exact absurd (hbare '\r' List.mem_cons_self) (by decide)

/-- A string is read back from what is written for it, if no mark follows. -/
theorem readString_quoted (s : String) {rest : List Char} (hquote : rest.head? ≠ some '"')
    (hmark : rest.head? ≠ some '\'') :
    readString (quoted s ++ rest) = some (s.toList, rest) := by
  unfold quoted
  generalize s.toList = cs
  have hopening (mark : List Char) :
      (if '\n' ∈ cs then mark ++ ['\n'] else mark) =
        mark ++ (if '\n' ∈ cs then ['\n'] else []) := by
    split <;> simp
  rcases styleOf_cases cs with heq | ⟨heq, hne, hcs⟩ | heq | ⟨heq, hbare, hrun⟩ <;>
    simp only [heq, Style.isLong, Bool.false_eq_true, false_and, true_and, if_false, hopening,
      List.append_assoc]
  · exact readString_basic cs hquote
  · exact readString_literal hne hcs rest
  · exact readString_longBasic cs hquote
  · exact readString_longLiteral hbare hrun hmark

end Toml
end Courier
