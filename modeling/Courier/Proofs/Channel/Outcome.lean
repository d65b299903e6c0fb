/-
A handshake is told of its outcome once, and is out of the way from then on.

The outcome is told from three places, which may be nested in each other: the step that completes
the handshake, a step that fails, and the close of the link, which a last session brings about
before it is delivered.  That they do not get into each other's way is an invariant of every moment
(`Orderly`), also of those in which a callback is entered.
-/
import Courier.Proofs.Channel.Hosts

namespace Courier
namespace World

variable {σ : Type} {v w : World σ} {h : Host σ} {n : Nat}

/-- The outcomes that were told of a handshake. -/
def outcomes (n : Nat) (w : World σ) : List (Nat × Name × Outcome) :=
  w.conclusions.filter (·.1 = n)

/-- Every handshake was told of at most once, and is over if it was; and if it is over, it is not
registered. -/
structure Orderly (w : World σ) : Prop where
  once : ∀ n, (w.outcomes n).length ≤ 1
  finished : ∀ n, w.outcomes n ≠ [] → Finished n w
  unregistered : ∀ n, Finished n w → ¬ Listens n w ∧ ¬ AwaitsClose n w

/-! ## The invariant -/

/-- What is told of a handshake is added to what was told of it, and to nothing else. -/
theorem outcomes_noted {m : Nat} {handshake : Handshake} {outcome : Outcome} :
    (w.noted n handshake outcome).outcomes m = w.outcomes m ∨
      m = n ∧ ∃ name, (w.noted n handshake outcome).outcomes m =
        w.outcomes m ++ [(n, name, outcome)] := by
  unfold outcomes
  rw [conclusions_noted, List.filter_append]
  cases handshake.reporter with
  | waiting name => exact .inl (by simp)
  | callback name =>
    by_cases hm : n = m
    · exact .inr ⟨hm.symm, name, by simp [hm]⟩
    · exact .inl (by simp [hm])

theorem orderly_of_fewer (hw : Orderly w) (hconclusions : v.conclusions = w.conclusions)
    (hhandshakes : v.channel.handshakes = w.channel.handshakes)
    (hlistens : ∀ n < w.channel.handshakes.length, Listens n v → Listens n w)
    (hawaits : ∀ n < w.channel.handshakes.length, AwaitsClose n v → AwaitsClose n w) :
    Orderly v := by
  have hfinished : ∀ n, Finished n v ↔ Finished n w := by
    intro n
    rw [Finished, Finished, hhandshakes]
  have houtcomes : ∀ n, v.outcomes n = w.outcomes n := by
    intro n
    rw [outcomes, outcomes, hconclusions]
  refine ⟨fun n => ?_, fun n htold => ?_, fun n hover => ?_⟩
  · rw [houtcomes n]
    exact hw.once n
  · rw [houtcomes n] at htold
    exact (hfinished n).mpr (hw.finished n htold)
  · have hold := (hfinished n).mp hover
    obtain ⟨hnot, hnot'⟩ := hw.unregistered n hold
    exact ⟨fun hl => hnot (hlistens n hold.lt hl), fun ha => hnot' (hawaits n hold.lt ha)⟩

theorem orderly_started (establishment : Establishment) (reporter : Reporter) (hw : Orderly w) :
    Orderly (w.started establishment reporter) := by
  refine ⟨hw.once, fun n htold => finished_started.mpr (hw.finished n htold), fun n hover => ?_⟩
  have hold := finished_started.mp hover
  have hlt := hold.lt
  have hne : n ≠ w.channel.handshakes.length := by omega
  rw [listens_started, awaitsClose_started]
  simpa [hne] using hw.unregistered n hold

theorem orderly_register (hpending : Pending n w) (hw : Orderly w) :
    Orderly (w.addSessionListener (.handshake n) true).2 := by
  refine ⟨hw.once, hw.finished, fun m hover => ?_⟩
  have hne : m ≠ n := by
    rintro rfl
    exact not_pending_of_finished hover hpending
  obtain ⟨hnot, hnot'⟩ := hw.unregistered m hover
  refine ⟨fun hlistens => ?_, hnot'⟩
  exact (listens_register.mp hlistens).elim hnot hne

theorem orderly_noted {handshake : Handshake} (outcome : Outcome)
    (hget : w.channel.handshakes[n]? = some handshake) (hpending : handshake.finished = false)
    (hw : Orderly w) : Orderly (w.noted n handshake outcome) := by
  -- Nothing has been told of it before, or it would be over.
  have huntold : w.outcomes n = [] := by
    by_cases htold : w.outcomes n = []
    · exact htold
    · exact absurd ⟨handshake, hget, hpending⟩ (not_pending_of_finished (hw.finished n htold))
  refine ⟨fun m => ?_, fun m htold => ?_, fun m hover => ?_⟩
  · rcases @outcomes_noted _ w n m handshake outcome with heq | ⟨rfl, name, heq⟩
    · rw [heq]
      exact hw.once m
    · rw [heq, huntold]
      exact Nat.le_refl 1
  · rw [finished_noted hget]
    rcases @outcomes_noted _ w n m handshake outcome with heq | ⟨rfl, _⟩
    · rw [heq] at htold
      exact .inl (hw.finished m htold)
    · exact .inr rfl
  · rw [listens_noted, awaitsClose_noted]
    rcases (finished_noted hget).mp hover with hold | rfl
    · obtain ⟨hnot, hnot'⟩ := hw.unregistered m hold
      exact ⟨fun h => hnot h.1, fun h => hnot' h.1⟩
    · exact ⟨fun h => h.2 rfl, fun h => h.2 rfl⟩

/-- It does not matter that a delivery takes listeners out of the registry. -/
theorem kept_orderly : KeptAlways (@Orderly σ) where
  alike halike hv := orderly_of_fewer hv halike.conclusions halike.handshakes
    (fun n hn => (halike.listens n hn).mp) (fun n hn => (halike.awaitsClose n hn).mp)
  start establishment reporter _ _ hw := orderly_started establishment reporter hw
  register hpending hw := orderly_register hpending hw
  note outcome _ hget hpending hw := orderly_noted outcome hget hpending hw
  refuse _ _ _ hw := orderly_of_fewer hw rfl rfl (fun _ _ => id) (fun _ _ => id)
  cut hw := orderly_of_fewer hw rfl rfl (fun _ _ => id) (fun _ _ => id)
  takeClose _ hw := orderly_of_fewer hw rfl rfl (fun _ _ => id)
    (fun _ _ => Registry.mem_of_mem_withoutOnce)
  takeSession hw := orderly_of_fewer hw rfl rfl (fun _ _ => Registry.mem_of_mem_withoutOnce)
    (fun _ _ => id)

/-! ## What was told stays told -/

theorem kept_conclusions (told : List (Nat × Name × Outcome)) :
    KeptAlways fun w : World σ => told <+: w.conclusions where
  alike halike hv := by rwa [halike.conclusions]
  start _ _ _ _ hw := hw
  register _ hw := hw
  note _ _ _ _ hw := by
    rw [conclusions_noted]
    exact hw.trans (List.prefix_append _ _)
  refuse _ _ _ hw := hw
  cut hw := hw
  takeClose _ hw := hw
  takeSession hw := hw

/-- A run keeps order, and takes back nothing that was told. -/
theorem orderly_after (hh : h.Within Orderly) (steps : List Step) (hw : Orderly w) :
    Orderly (w.after h steps) ∧ w.conclusions <+: (w.after h steps).conclusions :=
  (kept_orderly.and (kept_conclusions w.conclusions)).after hh (fun _ hu => hu.1) steps
    ⟨hw, List.prefix_refl _⟩

theorem orderly_create {settings : ChannelSettings} {standing : Standing} {link : Link}
    {driven : Bool} {user : σ} (hcreate : create settings standing link driven user = .ok w) :
    Orderly w := by
  unfold create at hcreate
  split at hcreate
  · cases hcreate
  · cases hcreate
    refine ⟨fun _ => Nat.zero_le 1, fun _ htold => absurd rfl htold, fun n hover => ?_⟩
    exact absurd hover.lt (Nat.not_lt_zero n)

/-- In every run of a channel, whatever is received, sent, closed or asked for from inside
callbacks, a handshake has one outcome at most.  Once that was told, there is no other ever, the
handshake is in neither registry ever again, and it does nothing if it is told of a session or of
the close.

The same holds while callbacks run: nothing is known of the host but in orderly worlds, so it is
entered in no others. -/
theorem outcome_told_once {settings : ChannelSettings} {standing : Standing} {link : Link}
    {driven : Bool} {user : σ} (hcreate : create settings standing link driven user = .ok w)
    (hh : h.Within Orderly) (steps more : List Step) (number : Nat) :
    let now := w.after h steps
    let later := now.after h more
    (now.outcomes number).length ≤ 1 ∧
      (now.outcomes number ≠ [] →
        later.outcomes number = now.outcomes number ∧
        ¬ Listens number later ∧ ¬ AwaitsClose number later ∧
        ∀ g session state, later.handshakeReceives g number session = later ∧
          later.handshakeCloses g number state = later) := by
  intro now later
  obtain ⟨hnow, _⟩ := orderly_after hh steps (orderly_create hcreate)
  obtain ⟨hlater, hprefix⟩ := orderly_after hh more hnow
  refine ⟨hnow.once number, fun htold => ?_⟩
  have hgrows : now.outcomes number <+: later.outcomes number := hprefix.filter _
  have hfinished : Finished number later := by
    refine hlater.finished number fun hnone => htold ?_
    rw [hnone] at hgrows
    exact List.prefix_nil.mp hgrows
  have hpending := not_pending_of_finished hfinished
  obtain ⟨hlistens, hawaits⟩ := hlater.unregistered number hfinished
  refine ⟨?_, hlistens, hawaits, fun g session state => ⟨?_, ?_⟩⟩
  · have hpos := List.length_pos_iff.mpr htold
    have honce : (later.outcomes number).length ≤ 1 := hlater.once number
    exact (hgrows.eq_of_length_le (by omega)).symm
  · exact handshakeReceives_of_not_pending hpending session
  · exact handshakeCloses_of_not_pending hpending state

/-- A program that hands the channel yet another session when a handshake is over. -/
def insistent : Program Unit where
  script call _ :=
    match call with
    | .outcome _ _ => (.ask (.receive (.session { state := .failed })) fun _ => .done, ())
    | _ => (.done, ())
  transform _ _ _ item _ := (some item, ())

theorem outcome_told_once_insistent :
    let steps : List Step := [.request (.establish aliceAsGuest "door"),
      .request (.receive (.session { state := .established }))]
    let now := ({ user := () } : World Unit).after (insistent.host 3) steps
    let later := now.after (insistent.host 3) steps
    now.outcomes 0 = [(0, "door", .ok { state := .established })] ∧
      later.outcomes 0 = now.outcomes 0 ∧ ¬ Listens 0 later ∧ ¬ AwaitsClose 0 later := by
  intro steps now later
  have htold : now.outcomes 0 = [(0, "door", .ok { state := .established })] := rfl
  have hcreate : create {} {} {} false () = .ok ({ user := () } : World Unit) := rfl
  have hh := (insistent.host_isLawful 3).within Orderly
  have honce := (outcome_told_once hcreate hh steps steps 0).2
  obtain ⟨hsame, hlistens, hawaits, _⟩ := honce (by rw [htold]; exact List.cons_ne_nil _ _)
  exact ⟨htold, hsame, hlistens, hawaits⟩

end World
end Courier
