/-
One envelope to a line, and nothing is lost.

The text of an envelope holds no line break, so it fits on a line, whatever its strings hold; and a
line that holds none, because it is blank or cannot be read, is passed over without any effect on
the lines around it.  What a reader is fed with is therefore what it tells its listener, with the
close at the end (`lines_lossless`).
-/
import Courier.Proofs.Envelope.RoundTrip
import Courier.Proofs.Json.Printable
import Courier.Proofs.Json.Trailing
import Courier.Proofs.Stream.Lines
import Courier.Proofs.Text.Blank

namespace Courier

theorem endsNumeral_of_skipSpace {tail : List Char} (h : skipSpace tail = []) :
    EndsNumeral tail := by
  cases tail with
  | nil => exact endsNumeral_nil
  | cons c cs =>
    rw [skipSpace] at h
    split at h
    · rename_i hspace
      rcases hspace with rfl | rfl | rfl | rfl <;>
        exact endsNumeral_cons (by decide) (by decide) (by decide) (by decide) _
    · cases h

namespace Envelope

theorem ofText_append {s tail : String} {envelope : Envelope} (h : ofText s = .ok envelope)
    (htail : skipSpace tail.toList = []) : ofText (s ++ tail) = .ok envelope := by
  unfold ofText at h ⊢
  split at h
  · cases h
  · rename_i t rest hread
    rw [String.toList_append, Tree.read?_append hread (endsNumeral_of_skipSpace htail)]
    dsimp only
    split at h
    · rename_i hwhole
      rw [if_pos hwhole]
      split at h
      · cases h
      · rename_i found hfound
        split at h
        · rename_i hrest
          rw [skipSpace_append_of_nil (List.isEmpty_iff.mp hrest), htail]
          exact h
        · cases h
    · cases h

theorem printable_text (envelope : Envelope) (listing : envelope.Listing) :
    Printable (envelope.text listing).toList := by
  unfold text Tree.text
  rw [String.toList_ofList]
  exact Tree.printable_chars _

theorem trimChars_text_ne_nil (envelope : Envelope) (listing : envelope.Listing) :
    Text.trimChars (envelope.text listing).toList ≠ [] := by
  intro hblank
  have hbrace : '{' ∈ (envelope.text listing).toList := by
    unfold text Tree.text tree
    rw [String.toList_ofList]
    cases envelope.members listing with
    | nil => exact List.mem_cons_self
    | cons member members => exact List.mem_cons_self
  exact absurd (Text.trimChars_eq_nil_iff.mp hblank _ hbrace) (by decide)

end Envelope

namespace Stream

/-! ## What stands on a line -/

/-- What stands on a line: an envelope, with its metadata in some order, or some other text. -/
inductive Content where
  | envelope (envelope : Envelope) (listing : envelope.Listing)
  | filler (text : String)

namespace Content

def text : Content → String
  | envelope e listing => e.text listing
  | filler text => text

/-- Whether an envelope is read back from its text, and another text is passed over, being blank or
not to be read as an envelope. -/
def Fits : Content → Prop
  | envelope e listing => Envelope.ofText (e.text listing) = .ok e
  | filler text =>
    '\n' ∉ text.toList ∧
      (Text.trimChars text.toList = [] ∨ ∃ fault, Envelope.ofText text = .error fault)

/-- What a listener is told of a line. -/
def arrival? : Content → Option Arrival
  | envelope e _ => some (.received e)
  | filler _ => none

theorem lineFeed_not_mem {content : Content} (hfits : content.Fits) :
    lineFeed ∉ encode content.text := by
  intro hmem
  have hbreak := lineFeed_mem_encode hmem
  cases content with
  | envelope e listing => exact absurd (e.printable_text listing _ hbreak) (by decide)
  | filler text => exact hfits.1 hbreak

theorem ofLine?_filler {text : String}
    (hpassed : Text.trimChars text.toList = [] ∨ ∃ fault, Envelope.ofText text = .error fault) :
    Arrival.ofLine? (encode text) = none := by
  unfold Arrival.ofLine?
  rw [fromUTF8?_encode]
  dsimp only
  split
  · rfl
  · rename_i hblank
    rcases hpassed with hnil | ⟨fault, hfault⟩
    · exact absurd (List.isEmpty_iff.mpr hnil) hblank
    · rw [hfault]

theorem ofLine?_encode {content : Content} (hfits : content.Fits) :
    Arrival.ofLine? (encode content.text) = content.arrival? := by
  cases content with
  | filler text => exact ofLine?_filler hfits.2
  | envelope e listing =>
    have hblank : ¬(Text.trimChars (e.text listing).toList).isEmpty = true :=
      fun hnil => e.trimChars_text_ne_nil listing (List.isEmpty_iff.mp hnil)
    unfold Arrival.ofLine? text
    dsimp only
    rw [fromUTF8?_encode]
    dsimp only
    rw [if_neg hblank, show Envelope.ofText (e.text listing) = .ok e from hfits]
    rfl

/-- A carriage return at the end of a line changes nothing: no envelope ends with one, and a text
that is passed over is passed over without it, too. -/
theorem ofLine?_dropReturn {content : Content} (hfits : content.Fits) :
    Arrival.ofLine? (dropReturn (encode content.text)) = content.arrival? := by
  rcases dropReturn_encode content.text with hsame | ⟨text, htext, hdropped⟩
  · rw [hsame, ofLine?_encode hfits]
  · cases content with
    | envelope e listing =>
      have hreturn : '\r' ∈ (e.text listing).toList := by
        rw [show e.text listing = text ++ "\r" from htext, String.toList_append]
        exact List.mem_append_right _ List.mem_cons_self
      exact absurd (e.printable_text listing _ hreturn) (by decide)
    | filler filler =>
      rw [hdropped]
      refine ofLine?_filler ?_
      have htext : filler = text ++ "\r" := htext
      rcases hfits.2 with hblank | ⟨fault, hfault⟩
      · rw [htext, String.toList_append, Text.trimChars_eq_nil_iff] at hblank
        exact .inl (Text.trimChars_eq_nil_iff.mpr fun c hc =>
          hblank c (List.mem_append_left _ hc))
      · right
        cases hread : Envelope.ofText text with
        | error fault => exact ⟨fault, rfl⟩
        | ok envelope =>
          rw [htext, Envelope.ofText_append hread rfl] at hfault
          cases hfault

end Content

/-! ## Streams of lines -/

/-- A line that has an end: a line feed, or a carriage return and a line feed. -/
structure Line where
  content : Content
  returns : Bool

namespace Line

/-- The bytes of a line before its line feed. -/
def bare (line : Line) : List UInt8 :=
  encode line.content.text ++ if line.returns then [carriageReturn] else []

def bytes (line : Line) : List UInt8 :=
  line.bare ++ [lineFeed]

variable {line : Line} (hfits : line.content.Fits)
include hfits

theorem lineFeed_not_mem_bare : lineFeed ∉ line.bare := by
  have htext := Content.lineFeed_not_mem hfits
  unfold bare
  intro hmem
  rcases List.mem_append.mp hmem with hcontent | hreturn
  · exact htext hcontent
  · split at hreturn
    · exact absurd (List.mem_singleton.mp hreturn) (by decide)
    · cases hreturn

theorem ofLine?_bare : Arrival.ofLine? (dropReturn line.bare) = line.content.arrival? := by
  unfold bare
  split
  · rw [dropReturn_encode_append, Content.ofLine?_encode hfits]
  · rw [List.append_nil, Content.ofLine?_dropReturn hfits]

end Line

/-- The bytes of a stream: lines, and perhaps a last one that has no end. -/
def streamOf (lines : List Line) (last : Option Content) : List UInt8 :=
  lines.flatMap Line.bytes ++ (last.map fun content => encode content.text).getD []

theorem closed_not_mem_arrivals (contents : List Content) :
    .closed ∉ contents.filterMap Content.arrival? := by
  intro hclosed
  obtain ⟨content, _, harrival⟩ := List.mem_filterMap.mp hclosed
  cases content <;> cases harrival

theorem arrivals_lines {lines : List Line} (hlines : ∀ line ∈ lines, line.content.Fits) :
    arrivals ((lines.map Line.bare).map dropReturn) =
      (lines.map Line.content).filterMap Content.arrival? := by
  induction lines with
  | nil => rfl
  | cons line lines ih =>
    have hline := Line.ofLine?_bare (hlines line List.mem_cons_self)
    have hrest := ih fun l hl => hlines l (List.mem_cons_of_mem line hl)
    simp only [List.map_cons, arrivals, List.filterMap_cons, hline, hrest]
    cases line.content <;> rfl

theorem finish_last {last : Option Content} (hlast : ∀ content ∈ last, content.Fits) :
    (Reader.finish { pending := (last.map fun content => encode content.text).getD [] }).1 =
      last.toList.filterMap Content.arrival? ++ [.closed] := by
  cases last with
  | none => rfl
  | some content =>
    have hbrings := Content.ofLine?_encode (hlast content rfl)
    have htold : (if (encode content.text).isEmpty then [] else arrivals [encode content.text]) =
        [content].filterMap Content.arrival? := by
      split
      · rename_i hempty
        have hnone : Arrival.ofLine? (encode "") = none := Content.ofLine?_filler (.inl rfl)
        rw [List.isEmpty_iff.mp hempty, show ([] : List UInt8) = encode "" from rfl, hnone]
          at hbrings
        rw [List.filterMap_cons, ← hbrings]
        rfl
      · simp only [arrivals, List.filterMap_cons, hbrings]
        cases content <;> rfl
    unfold Reader.finish
    simp only [if_true, Option.map_some, Option.getD_some, htold,
      if_neg (closed_not_mem_arrivals [content])]
    rfl

/-- Lines carry envelopes without loss, in any of their texts.  No text of an envelope is blank, or
holds a line break or any other character below U+0020.  And a stream of lines, in whatever pieces
it is read, brings the envelopes that stand on its lines, each once and in order, and then its
end. -/
theorem lines_lossless :
    (∀ (envelope : Envelope) (listing : envelope.Listing),
      Text.trimChars (envelope.text listing).toList ≠ [] ∧
        Printable (envelope.text listing).toList) ∧
    ∀ (lines : List Line) (last : Option Content),
      (∀ line ∈ lines, line.content.Fits) → (∀ content ∈ last, content.Fits) →
      ∀ pieces : List (List UInt8), pieces.flatten = streamOf lines last →
        ({} : Reader).told pieces =
          (lines.map Line.content ++ last.toList).filterMap Content.arrival? ++ [.closed] := by
  refine ⟨fun envelope listing =>
    ⟨envelope.trimChars_text_ne_nil listing, envelope.printable_text listing⟩, ?_⟩
  intro lines last hlines hlast pieces hpieces
  have hlast' : lineFeed ∉ (last.map fun content => encode content.text).getD [] := by
    cases last with
    | none => exact List.not_mem_nil
    | some content => exact Content.lineFeed_not_mem (hlast content rfl)
  have hcut : cutLines (streamOf lines last) =
      (lines.map Line.bare, (last.map fun content => encode content.text).getD []) := by
    have hbare : ∀ line ∈ lines.map Line.bare, lineFeed ∉ line :=
      List.forall_mem_map.mpr fun line hline => Line.lineFeed_not_mem_bare (hlines line hline)
    have hlines := cutLines_lines hbare hlast'
    rwa [List.flatMap_map] at hlines
  have htold := arrivals_lines hlines
  have hopen := closed_not_mem_arrivals (lines.map Line.content)
  rw [Reader.told_eq_readAll, hpieces]
  unfold readAll Reader.feed
  simp only [if_true, List.nil_append, hcut, htold, hopen, not_false_eq_true, decide_true]
  rw [finish_last hlast, List.filterMap_append, List.append_assoc]

/-- Two envelopes among lines that hold none. -/
def mixedLines : List Line :=
  [⟨.filler " \t", true⟩,
    ⟨.envelope Envelope.detailedCommand Envelope.detailedCommand.shuffled, true⟩,
    ⟨.filler "not json\r", false⟩,
    ⟨.envelope (.session { state := .new }) (Envelope.session { state := .new }).sorted, false⟩,
    ⟨.filler "", false⟩]

theorem mixedLines_lossless :
    (∀ line ∈ mixedLines, line.content.Fits) ∧
      ({} : Reader).told ((streamOf mixedLines (some (.filler "["))).map ([·])) =
        [.received Envelope.detailedCommand, .received (.session { state := .new }), .closed] := by
  have hcommand : Content.Fits
      (.envelope Envelope.detailedCommand Envelope.detailedCommand.shuffled) :=
    Envelope.ofText_text_of_recoverable Envelope.recoverable_detailedCommand _
  have hnew : (Envelope.session { state := .new }).Recoverable :=
    ⟨nofun, nofun, nofun, by decide⟩
  have hsession : Content.Fits
      (.envelope (.session { state := .new }) (Envelope.session { state := .new }).sorted) :=
    Envelope.ofText_text_of_recoverable hnew _
  have hfits : ∀ line ∈ mixedLines, line.content.Fits := by
    intro line hline
    simp only [mixedLines, List.mem_cons, List.not_mem_nil, or_false] at hline
    rcases hline with rfl | rfl | rfl | rfl | rfl
    · exact ⟨by decide, .inl rfl⟩
    · exact hcommand
    · exact ⟨by decide, .inr ⟨_, rfl⟩⟩
    · exact hsession
    · exact ⟨by decide, .inl rfl⟩
  have hlast : ∀ content ∈ some (Content.filler "["), content.Fits := by
    rintro _ ⟨⟩
    exact ⟨by decide, .inr ⟨_, rfl⟩⟩
  refine ⟨hfits, ?_⟩
  exact lines_lossless.2 mixedLines _ hfits hlast _
    (by rw [← List.flatMap_def, List.flatMap_singleton'])

end Stream
end Courier
