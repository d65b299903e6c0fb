/-
What is sent into a stream is written, once and in order.

The steps of a run come in any order: sends, closes by whoever makes them, and what the writer does.
At every moment the lines that have been accepted are the lines that have been written and then the
lines that are queued (`Sound`), so nothing is lost and nothing is written twice, whichever of its
two branches the writer takes once the stream is closed.
-/
import Courier.Stream.Outbox

namespace Courier
namespace Stream
namespace Outbox

/-- What the steps of a run are answered. -/
def answers : List Step → Outbox → List (Step × Except Fault Unit)
  | [], _ => []
  | step :: steps, outbox =>
    (step, (outbox.step step).1) :: answers steps (outbox.step step).2

/-- The line of a send that is accepted. -/
def acceptedLine? : Step × Except Fault Unit → Option String
  | (.send envelope listing, .ok ()) => some (envelope.text listing)
  | _ => none

/-- The lines of the sends of a run that are accepted, in order. -/
def accepted (steps : List Step) (outbox : Outbox) : List String :=
  (outbox.answers steps).filterMap acceptedLine?

theorem run_append (first second : List Step) (outbox : Outbox) :
    outbox.run (first ++ second) = (outbox.run first).run second :=
  List.foldl_append

theorem answers_append (first second : List Step) (outbox : Outbox) :
    outbox.answers (first ++ second) =
      outbox.answers first ++ (outbox.run first).answers second := by
  induction first generalizing outbox with
  | nil => rfl
  | cons step first ih => exact congrArg _ (ih _)

theorem accepted_append (first second : List Step) (outbox : Outbox) :
    outbox.accepted (first ++ second) =
      outbox.accepted first ++ (outbox.run first).accepted second := by
  unfold accepted
  rw [answers_append, List.filterMap_append]

/-! ## One step -/

/-- How it stands with a stream of which some lines have been accepted. -/
structure Sound (lines : List String) (outbox : Outbox) : Prop where
  lines : lines = outbox.written ++ outbox.queued
  drained : outbox.writerEnded = true → outbox.queued = []
  closed : outbox.writerEnded = true → outbox.connected = false
  stopping : outbox.connected = false → outbox.stopping = true
  closings : outbox.closings ≤ if outbox.connected then 0 else 1

variable {lines : List String} {outbox : Outbox}

theorem sound_fresh : Sound [] {} :=
  ⟨rfl, nofun, nofun, nofun, Nat.le_refl _⟩

theorem connected_close (outbox : Outbox) : outbox.close.connected = false := by
  unfold close
  split
  · rfl
  · rename_i hclosed
    exact Bool.eq_false_iff.mpr hclosed

/-- The close makes sound what is sound but for a writer that has ended too early. -/
theorem sound_close (hlines : lines = outbox.written ++ outbox.queued)
    (hdrained : outbox.writerEnded = true → outbox.queued = [])
    (hstopping : outbox.connected = false → outbox.stopping = true)
    (hclosings : outbox.closings ≤ if outbox.connected then 0 else 1) :
    Sound lines outbox.close := by
  have hclosed := connected_close outbox
  unfold close at hclosed ⊢
  split
  · rename_i hconnected
    rw [if_pos hconnected] at hclosings
    refine ⟨hlines, hdrained, fun _ => rfl, fun _ => rfl, ?_⟩
    show (if outbox.listening then outbox.closings + 1 else outbox.closings) ≤ 1
    split <;> omega
  · rename_i hconnected
    rw [if_neg hconnected] at hclosed
    exact ⟨hlines, hdrained, fun _ => hclosed, hstopping, hclosings⟩

namespace Sound

variable (hsound : Sound lines outbox)
include hsound

theorem close : Sound lines outbox.close :=
  sound_close hsound.lines hsound.drained hsound.stopping hsound.closings

theorem writeNext : Sound lines outbox.writeNext := by
  unfold Outbox.writeNext
  split
  · rename_i line queued hgoing hqueued
    have hnever : ∀ {p : Prop}, outbox.writerEnded = true → p := by simp [hgoing]
    refine ⟨?_, hnever, hnever, hsound.stopping, hsound.closings⟩
    rw [hsound.lines, hqueued]
    simp
  · exact hsound

theorem flush : Sound lines outbox.flush := by
  unfold Outbox.flush
  split
  · refine sound_close ?_ (fun _ => rfl) hsound.stopping hsound.closings
    rw [hsound.lines, List.append_nil]
  · exact hsound

theorem going (hconnected : outbox.connected = true) : outbox.writerEnded = false := by
  cases hended : outbox.writerEnded with
  | false => rfl
  | true =>
    rw [hsound.closed hended] at hconnected
    cases hconnected

end Sound

theorem send_open (hconnected : outbox.connected = true) (hgoing : outbox.writerEnded = false)
    (envelope : Envelope) (listing : envelope.Listing) :
    outbox.send envelope listing =
      (.ok (), { outbox with queued := outbox.queued ++ [envelope.text listing] }) := by
  unfold send
  rw [hconnected, hgoing]
  rfl

theorem send_closed (hclosed : outbox.connected = false) (envelope : Envelope)
    (listing : envelope.Listing) :
    outbox.send envelope listing =
      (.error (.connectionClosed "tcp transport is closed"), outbox) := by
  unfold send
  rw [hclosed]
  rfl

/-- A step keeps a stream sound, with the line of the send that it accepts, if it does. -/
theorem Sound.step (hsound : Sound lines outbox) (step : Step) :
    Sound (lines ++ (acceptedLine? (step, (outbox.step step).1)).toList)
      (outbox.step step).2 := by
  cases step with
  | send envelope listing =>
    show Sound
      (lines ++ (acceptedLine? (.send envelope listing, (outbox.send envelope listing).1)).toList)
      (outbox.send envelope listing).2
    cases hconnected : outbox.connected with
    | false =>
      rw [send_closed hconnected]
      exact (List.append_nil lines).symm ▸ hsound
    | true =>
      have hgoing := hsound.going hconnected
      have hnever : ∀ {p : Prop}, outbox.writerEnded = true → p := by simp [hgoing]
      rw [send_open hconnected hgoing]
      refine ⟨?_, hnever, hnever, hsound.stopping, hsound.closings⟩
      show lines ++ [envelope.text listing] =
        outbox.written ++ (outbox.queued ++ [envelope.text listing])
      rw [hsound.lines, List.append_assoc]
  | listen =>
    refine ⟨?_, hsound.drained, hsound.closed, hsound.stopping, hsound.closings⟩
    exact (List.append_nil lines).trans hsound.lines
  | drop =>
    refine ⟨?_, hsound.drained, hsound.closed, fun _ => rfl, hsound.closings⟩
    exact (List.append_nil lines).trans hsound.lines
  | close | peerClosed => exact (List.append_nil lines).symm ▸ hsound.close
  | writeNext => exact (List.append_nil lines).symm ▸ hsound.writeNext
  | flush => exact (List.append_nil lines).symm ▸ hsound.flush

/-! ## Runs -/

theorem Sound.run (hsound : Sound lines outbox) (steps : List Step) :
    Sound (lines ++ outbox.accepted steps) (outbox.run steps) := by
  induction steps generalizing lines outbox with
  | nil => exact (List.append_nil lines).symm ▸ hsound
  | cons step steps ih =>
    have hnext := ih (hsound.step step)
    have hfirst : outbox.accepted [step] =
        (acceptedLine? (step, (outbox.step step).1)).toList := by
      simp only [accepted, answers, List.filterMap_cons, List.filterMap_nil]
      split <;> rename_i heq <;> rw [heq] <;> rfl
    have haccepted := accepted_append [step] steps outbox
    rw [hfirst] at haccepted
    rw [List.append_assoc] at hnext
    exact (congrArg (Sound · _) (congrArg (lines ++ ·) haccepted)).mpr hnext

theorem connected_step (hclosed : outbox.connected = false) (step : Step) :
    (outbox.step step).2.connected = false := by
  cases step with
  | send envelope listing =>
    show (outbox.send envelope listing).2.connected = false
    rw [send_closed hclosed]
    exact hclosed
  | listen | drop => exact hclosed
  | close | peerClosed => exact connected_close outbox
  | writeNext =>
    show outbox.writeNext.connected = false
    unfold writeNext
    split <;> exact hclosed
  | flush =>
    show outbox.flush.connected = false
    unfold flush
    split
    · exact connected_close _
    · exact hclosed

theorem connected_run (hclosed : outbox.connected = false) (steps : List Step) :
    (outbox.run steps).connected = false := by
  induction steps generalizing outbox with
  | nil => exact hclosed
  | cons step steps ih => exact ih (connected_step hclosed step)

theorem answers_of_closed (hclosed : outbox.connected = false) {steps : List Step}
    {envelope : Envelope} {listing : envelope.Listing} {answer : Except Fault Unit}
    (hanswer : (.send envelope listing, answer) ∈ outbox.answers steps) :
    answer = .error (.connectionClosed "tcp transport is closed") := by
  induction steps generalizing outbox with
  | nil => cases hanswer
  | cons step steps ih =>
    rcases List.mem_cons.mp hanswer with hhead | htail
    · cases hhead
      exact congrArg Prod.fst (send_closed hclosed envelope listing)
    · exact ih (connected_step hclosed step) htail

theorem accepted_of_closed (hclosed : outbox.connected = false) (steps : List Step) :
    outbox.accepted steps = [] := by
  refine List.filterMap_eq_nil_iff.mpr fun ⟨step, answer⟩ hanswer => ?_
  cases step with
  | send envelope listing =>
    rw [answers_of_closed hclosed hanswer]
    rfl
  | listen | close | drop | peerClosed | writeNext | flush => rfl

/-- Once somebody has asked for the close, the stream is closed. -/
theorem connected_run_of_mem {closing : Step} (hcloses : closing = .close ∨ closing = .peerClosed)
    {steps : List Step} (hmem : closing ∈ steps) (outbox : Outbox) :
    (outbox.run steps).connected = false := by
  obtain ⟨before, after, rfl⟩ := List.append_of_mem hmem
  rw [run_append]
  have hclosed : ((outbox.run before).step closing).2.connected = false := by
    rcases hcloses with rfl | rfl <;> exact connected_close _
  exact connected_run hclosed after

/-- Whether a step asks the stream to close. -/
def Step.closes : Step → Bool
  | .close | .drop | .peerClosed => true
  | .listen | .send .. | .writeNext | .flush => false

/-- A stream that nobody has asked to close. -/
structure Open (outbox : Outbox) : Prop where
  connected : outbox.connected = true
  stopping : outbox.stopping = false
  writerEnded : outbox.writerEnded = false

theorem Open.step (hopen : Open outbox) {step : Step} (hgoing : step.closes = false) :
    Open (outbox.step step).2 := by
  cases step with
  | listen => exact ⟨hopen.connected, hopen.stopping, hopen.writerEnded⟩
  | send envelope listing =>
    show Open (outbox.send envelope listing).2
    rw [send_open hopen.connected hopen.writerEnded]
    exact ⟨hopen.connected, hopen.stopping, hopen.writerEnded⟩
  | close | drop | peerClosed => cases hgoing
  | writeNext =>
    show Open outbox.writeNext
    unfold writeNext
    split <;> exact ⟨hopen.connected, hopen.stopping, hopen.writerEnded⟩
  | flush =>
    show Open outbox.flush
    unfold flush
    rw [hopen.stopping]
    exact hopen

theorem Open.run (hopen : Open outbox) {steps : List Step}
    (hgoing : ∀ step ∈ steps, step.closes = false) : Open (outbox.run steps) := by
  induction steps generalizing outbox with
  | nil => exact hopen
  | cons step steps ih =>
    have hnext := hopen.step (hgoing step List.mem_cons_self)
    exact ih hnext fun later hlater => hgoing later (List.mem_cons_of_mem step hlater)

/-- A writer that has been told to end writes what is left and ends. -/
theorem writerEnded_flush (hstopping : outbox.stopping = true) :
    outbox.flush.writerEnded = true := by
  have hclose : ∀ outbox : Outbox, outbox.close.writerEnded = outbox.writerEnded := by
    intro outbox
    unfold close
    split <;> rfl
  unfold flush
  split
  · exact hclose _
  · rename_i hended
    simpa [hstopping] using hended

/-- Nothing that is accepted is lost or written twice, whichever of its texts an envelope is sent
as: at every moment the lines that have been written are the first of those that have been accepted,
and all of them when the writer has ended.  Sends are accepted until somebody asks the stream to
close.  After a close, by whoever makes it, sends fail and nothing more is accepted; the listener is
told of the close once at most; and a flush after it ends the writer. -/
theorem accepted_written (steps : List Step) :
    let outbox := ({} : Outbox).run steps
    outbox.written <+: ({} : Outbox).accepted steps ∧
      (outbox.writerEnded = true → outbox.written = ({} : Outbox).accepted steps) ∧
      outbox.closings ≤ 1 ∧
      (∀ before after, steps = before ++ after →
        .close ∈ before ∨ .peerClosed ∈ before ∨
            (({} : Outbox).run before).writerEnded = true →
          ({} : Outbox).accepted steps = ({} : Outbox).accepted before ∧
            ∀ envelope listing answer,
              (.send envelope listing, answer) ∈ (({} : Outbox).run before).answers after →
                ∃ message, answer = .error (.connectionClosed message)) ∧
      (.close ∈ steps → (outbox.step .flush).2.writerEnded = true) ∧
      ((∀ step ∈ steps, step.closes = false) →
        ∀ envelope listing, (outbox.send envelope listing).1 = .ok ()) := by
  intro outbox
  have hsound : Sound (({} : Outbox).accepted steps) outbox := sound_fresh.run steps
  refine ⟨?_, ?_, ?_, ?_, ?_, ?_⟩
  · exact ⟨outbox.queued, hsound.lines.symm⟩
  · intro hended
    rw [hsound.lines, hsound.drained hended, List.append_nil]
  · refine Nat.le_trans hsound.closings ?_
    split <;> decide
  · rintro before after rfl hcloses
    have hclosed : (({} : Outbox).run before).connected = false := by
      rcases hcloses with hmem | hmem | hended
      · exact connected_run_of_mem (.inl rfl) hmem _
      · exact connected_run_of_mem (.inr rfl) hmem _
      · exact (sound_fresh.run before).closed hended
    refine ⟨?_, fun envelope listing answer hanswer => ⟨_, answers_of_closed hclosed hanswer⟩⟩
    rw [accepted_append, accepted_of_closed hclosed, List.append_nil]
  · intro hmem
    exact writerEnded_flush (hsound.stopping (connected_run_of_mem (.inl rfl) hmem _))
  · intro hgoing envelope listing
    have hopen : Open outbox := Open.run ⟨rfl, rfl, rfl⟩ hgoing
    rw [send_open hopen.connected hopen.writerEnded]

/-- Two sends, the second still queued at the close, and one that comes too late. -/
theorem accepted_written_flushed :
    let first := Envelope.session { state := .new }
    let second := Envelope.session {
      header := { metadata := .ofList [("a", ""), ("b", "")] }, state := .established }
    let listing : second.Listing := ⟨[("b", ""), ("a", "")], by decide⟩
    let steps := [.listen, .send first first.sorted, .send second listing, .writeNext, .close,
      .send first first.sorted, .flush]
    let outbox := ({} : Outbox).run steps
    outbox.writerEnded = true ∧
      outbox.written = [first.text first.sorted, second.text listing] ∧ outbox.closings = 1 := by
  intro first second listing steps outbox
  have hended : outbox.writerEnded = true := rfl
  have hwritten := (accepted_written steps).2.1 hended
  exact ⟨hended, hwritten, rfl⟩

end Outbox
end Stream
end Courier
