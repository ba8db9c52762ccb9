import DvbScan.Proofs.SweepSteps

/-!
# What a sweep reads

Nothing is known of a source of candidates, so a sweep may break down on it: the source may break down
itself, or it may give tried tunings for ever. Beyond that an act never breaks down, and never on a list that
only ends.
-/

namespace DvbScan

namespace CandidateSource

variable {ι : Type} [CandidateSource ι]

inductive Reads : ι → ι → Prop
  | here (source : ι) : Reads source source
  | next {source later : ι} (rest : Reads (CandidateSource.next source).rest later) : Reads source later
  | reset {source later : ι} (rest : Reads (CandidateSource.reset source) later) : Reads source later

/-- However it is read and reset, the source does not break down. -/
def NeverBreaks (source : ι) : Prop :=
  ∀ later, Reads source later → ∀ step, (next later).result ≠ .error step

/-- How a source fails to give a result: it breaks down, or it gives tried tunings for ever. -/
def Fault (source : ι) (step : Breakdown) : Prop :=
  ∃ later, Reads source later ∧ ((next later).result = .error step ∨
    step = .endless ∧ ∃ isTried, (next later).firstUntried isTried = none)

theorem Reads.trans {first second third : ι} (former : Reads first second)
    (latter : Reads second third) : Reads first third := by
  induction former with
  | here => exact latter
  | next _ ih => exact .next (ih latter)
  | reset _ ih => exact .reset (ih latter)

theorem Fault.of_reads {source later : ι} {step : Breakdown} (reads : Reads source later)
    (fault : Fault later step) : Fault source step := by
  obtain ⟨last, further, failed⟩ := fault
  exact ⟨last, reads.trans further, failed⟩

/-- The tuning that a search comes to is the next one of what has become of the source. -/
theorem reads_of_firstUntried {isTried : Tuning → Bool} {source : ι} {last : Offer ι}
    (found : (next source).firstUntried isTried = some last) :
    ∃ later, Reads source later ∧ next later = last := by
  -- the search may go on for ever, so the induction is on the steps of one that ends
  refine Offer.firstUntried.partial_correctness isTried
    (fun offer last => ∀ source, offer = next source →
      ∃ later, Reads source later ∧ next later = last)
    ?_ _ _ found source rfl
  intro search ih offer last reached source given
  subst given
  split at reached
  next tuning _ =>
    split at reached
    next =>
      obtain ⟨later, reads, shape⟩ := ih _ last reached _ rfl
      exact ⟨later, .next reads, shape⟩
    next =>
      cases reached
      exact ⟨source, .here source, rfl⟩
  next =>
    cases reached
    exact ⟨source, .here source, rfl⟩

end CandidateSource

namespace Candidates

theorem firstUntried_ne_none (candidates : Candidates) (isTried : Tuning → Bool) :
    (CandidateSource.next candidates).firstUntried isTried ≠ none := by
  obtain ⟨all, rest, ending⟩ := candidates
  induction rest with
  | nil =>
    rw [Offer.firstUntried]
    cases ending with
    | none => exact Option.some_ne_none _
    | some step => exact Option.some_ne_none _
  | cons tuning rest ih =>
    rw [Offer.firstUntried]
    change (if isTried tuning then
      (CandidateSource.next (⟨all, rest, ending⟩ : Candidates)).firstUntried isTried else _) ≠ none
    split
    · exact ih
    · exact Option.some_ne_none _

theorem ending_of_reads {first later : Candidates} (reads : CandidateSource.Reads first later) :
    later.ending = first.ending := by
  induction reads with
  | here => rfl
  | next _ ih =>
    rw [ih]
    rename_i source later _
    obtain ⟨all, _ | ⟨tuning, rest⟩, _ | step⟩ := source <;> rfl
  | reset _ ih => exact ih

theorem not_fault {candidates : Candidates} (ends : candidates.ending = none) (step : Breakdown) :
    ¬CandidateSource.Fault candidates step := by
  rintro ⟨later, reads, failed | ⟨-, isTried, search⟩⟩
  · rw [← ending_of_reads reads] at ends
    obtain ⟨all, rest, ending⟩ := later
    subst ends
    cases rest with
    | nil => cases failed
    | cons tuning rest => cases failed
  · exact later.firstUntried_ne_none isTried search

end Candidates

namespace Sweep

variable {ι : Type} [CandidateSource ι]

theorem reads_candidateTarget (sweep : Sweep ι) :
    CandidateSource.Reads sweep.candidates sweep.candidateTarget.1 ∧
      ∀ step, sweep.candidateTarget.2 = .error step → CandidateSource.Fault sweep.candidates step := by
  unfold candidateTarget
  split
  next found rest search =>
    obtain ⟨later, reads, shape⟩ := CandidateSource.reads_of_firstUntried search
    have moved : (CandidateSource.next later).rest = rest := by rw [shape]
    refine ⟨reads.trans (.next (moved ▸ .here _)), fun step failed => ?_⟩
    cases found with
    | error other =>
      cases failed
      exact ⟨later, reads, .inl (by rw [shape])⟩
    | ok tuning => cases failed
  next search =>
    refine ⟨.here _, fun step failed => ?_⟩
    cases failed
    exact ⟨_, .here _, .inr ⟨rfl, _, search⟩⟩

theorem reads_nextTarget (sweep : Sweep ι) :
    CandidateSource.Reads sweep.candidates sweep.nextTarget.1.candidates ∧
      ∀ step, sweep.nextTarget.2 = .error step → CandidateSource.Fault sweep.candidates step := by
  unfold nextTarget
  simp only
  split
  next => exact ⟨.here _, nofun⟩
  next => exact sweep.reads_candidateTarget

theorem reads_of_plan {sweep passed : Sweep ι} {next : Plan} (planned : sweep.plan = (passed, next)) :
    CandidateSource.Reads sweep.candidates passed.candidates ∧
      ∀ step, next = .stuck step → CandidateSource.Fault sweep.candidates step := by
  unfold plan at planned
  split at planned
  next =>
    cases planned
    exact ⟨.here _, nofun⟩
  next =>
    obtain ⟨rfl, shape⟩ := Prod.mk.inj planned
    obtain ⟨reads, faults⟩ := sweep.reads_nextTarget
    refine ⟨reads, fun step stuck => ?_⟩
    subst stuck
    split at shape
    next fault =>
      cases shape
      exact faults step fault
    next => cases shape
    next => cases shape

theorem reads_advance (sweep : Sweep ι) (receiver : Receiver) :
    CandidateSource.Reads sweep.candidates (sweep.advance receiver).1.candidates ∧
      ∀ step, (sweep.advance receiver).2 = some (.broken step) →
        CandidateSource.Fault sweep.candidates step := by
  fun_induction sweep.advance receiver with
  | case1 sweep passed planned =>
    exact ⟨(reads_of_plan planned).1, fun step broken => by cases broken⟩
  | case2 sweep passed planned =>
    exact ⟨(reads_of_plan planned).1, fun step broken => by cases broken⟩
  | case3 sweep passed step planned =>
    obtain ⟨reads, faults⟩ := reads_of_plan planned
    refine ⟨reads, fun other broken => ?_⟩
    cases broken
    exact faults step rfl
  | case4 sweep passed target planned asked accepted =>
    exact ⟨(reads_of_plan planned).1, fun step broken => by cases broken⟩
  | case5 sweep passed target planned asked error refused fatal =>
    exact ⟨(reads_of_plan planned).1, fun step broken => by cases broken⟩
  | case6 sweep passed target planned asked error refused passable _ ih =>
    obtain ⟨reads, -⟩ := reads_of_plan planned
    exact ⟨reads.trans ih.1, fun step broken => (ih.2 step broken).of_reads reads⟩

theorem reads_prepare (sweep : Sweep ι) (receiver : Receiver) (act : SweepAct) :
    CandidateSource.Reads sweep.candidates (sweep.prepare receiver act).sweep.candidates := by
  have unread {heard : Sweep ι} (target : Target) (outcome : ChannelOutcome)
      (same : heard.candidates = sweep.candidates) :
      CandidateSource.Reads sweep.candidates (heard.hear target outcome).sweep.candidates := by
    rw [← same]
    cases outcome with
    | running => exact .here _
    | finished success => exact .here _
  have prepared := sweep.prepared receiver act
  generalize sweep.prepare receiver act = progress at prepared ⊢
  cases prepared with
  | ignored => exact .here _
  | started => exact .reset (.here _)
  | locked phase => exact unread _ _ rfl
  | unlocked given phase => exact .here _
  | delivered filter delivery phase => exact unread _ _ rfl
  | left given phase => exact .here _
  | cancelled => exact .here _

theorem reads_act (sweep : Sweep ι) (receiver : Receiver) (act : SweepAct) :
    CandidateSource.Reads sweep.candidates (sweep.act receiver act).1.candidates ∧
      ∀ step, (sweep.act receiver act).2 = some (.broken step) →
        CandidateSource.Fault sweep.candidates step := by
  rw [act_eq_complete]
  have reads := sweep.reads_prepare receiver act
  cases progress : sweep.prepare receiver act with
  | waits waiting =>
    rw [progress] at reads
    exact ⟨reads, nofun⟩
  | movesOn moving =>
    rw [progress] at reads
    obtain ⟨further, faults⟩ := moving.reads_advance receiver
    exact ⟨reads.trans further, fun step broken => (faults step broken).of_reads reads⟩

theorem reads_actAll (sweep : Sweep ι) (receiver : Receiver) (acts : List SweepAct) :
    CandidateSource.Reads sweep.candidates (sweep.actAll receiver acts).candidates := by
  induction acts generalizing sweep with
  | nil => exact .here _
  | cons act rest ih => exact (sweep.reads_act receiver act).1.trans (ih _)

/-- Where an act of a run breaks down, the source is at fault. -/
theorem fault_of_broken {sweep : Sweep ι} {receiver : Receiver} {acts : List SweepAct} {act : SweepAct}
    {step : Breakdown} (broken : ((sweep.actAll receiver acts).act receiver act).2 = some (.broken step)) :
    CandidateSource.Fault sweep.candidates step :=
  ((reads_act _ receiver act).2 step broken).of_reads (sweep.reads_actAll receiver acts)

end Sweep

end DvbScan
