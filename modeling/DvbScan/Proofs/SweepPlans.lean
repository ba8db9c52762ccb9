import DvbScan.Proofs.GrowingTopology

/-!
# What a plan passes over

On its way to a decision a sweep gives up the transports that wait on tried channels, and reads its source over
tried tunings, up to the one that it asks for, to an end or to a failure. What a source gives, one tuning after the
other, is a relation between the source, the tunings and what the source has become; nothing else is known of it.
-/

namespace DvbScan

namespace CandidateSource

variable {ι : Type} [CandidateSource ι] {source later : ι} {tunings all : List Tuning}

/-- Read on and on, the source gives the tunings, in order, and becomes another one. It may fail on the way. -/
inductive Yields : ι → List Tuning → ι → Prop
  | nothing (source : ι) : Yields source [] source
  | tuning {source later : ι} {tuning : Tuning} {tunings : List Tuning}
      (given : (next source).result = .ok (some tuning)) (rest : Yields (next source).rest tunings later) :
      Yields source (tuning :: tunings) later
  | failure {source later : ι} {step : Breakdown} {tunings : List Tuning}
      (given : (next source).result = .error step) (rest : Yields (next source).rest tunings later) :
      Yields source tunings later

/-- The source gives the tunings and then comes to an end, without a failure. -/
inductive EndsAfter : ι → List Tuning → Prop
  | here {source : ι} (given : (next source).result = .ok none) : EndsAfter source []
  | tuning {source : ι} {tuning : Tuning} {tunings : List Tuning}
      (given : (next source).result = .ok (some tuning)) (rest : EndsAfter (next source).rest tunings) :
      EndsAfter source (tuning :: tunings)

theorem Yields.trans {last : ι} {more : List Tuning} (former : Yields source tunings later)
    (latter : Yields later more last) : Yields source (tunings ++ more) last := by
  induction former with
  | nothing => exact latter
  | tuning given _ ih => exact .tuning given (ih latter)
  | failure given _ ih => exact .failure given (ih latter)

theorem EndsAfter.of_yields (ends : EndsAfter source all) (yields : Yields source tunings later) :
    ∃ left, all = tunings ++ left ∧ EndsAfter later left := by
  induction yields generalizing all with
  | nothing => exact ⟨all, rfl, ends⟩
  | tuning given _ ih =>
    cases ends with
    | here ended => cases given.symm.trans ended
    | tuning other rest =>
      cases given.symm.trans other
      obtain ⟨left, rfl, ends⟩ := ih rest
      exact ⟨left, rfl, ends⟩
  | failure given _ ih =>
    cases ends with
    | here ended => cases given.symm.trans ended
    | tuning other rest => cases given.symm.trans other

theorem EndsAfter.result_ne_error (ends : EndsAfter source all) (step : Breakdown) :
    (next source).result ≠ .error step := by
  intro failed
  cases ends with
  | here ended => cases failed.symm.trans ended
  | tuning given => cases failed.symm.trans given

theorem EndsAfter.firstUntried_ne_none (ends : EndsAfter source all) (isTried : Tuning → Bool) :
    (next source).firstUntried isTried ≠ none := by
  induction ends with
  | here given =>
    rw [Offer.firstUntried, given]
    exact Option.some_ne_none _
  | tuning given _ ih =>
    rw [Offer.firstUntried, given]
    simp only
    split
    · exact ih
    · exact Option.some_ne_none _

theorem yields_of_firstUntried {isTried : Tuning → Bool} {last : Offer ι}
    (found : (next source).firstUntried isTried = some last) :
    ∃ skipped later, Yields source skipped later ∧ next later = last ∧
      ∀ tuning ∈ skipped, isTried tuning = true := by
  -- the search may go on for ever, so the induction is on the steps of one that ends
  refine Offer.firstUntried.partial_correctness isTried
    (fun offer last => ∀ source, offer = next source →
      ∃ skipped later, Yields source skipped later ∧ next later = last ∧
        ∀ tuning ∈ skipped, isTried tuning = true)
    ?_ _ _ found source rfl
  intro search ih offer last reached source given
  subst given
  split at reached
  next tuning shape =>
    split at reached
    next tried =>
      obtain ⟨skipped, later, yields, same, rest⟩ := ih _ last reached _ rfl
      exact ⟨tuning :: skipped, later, .tuning shape yields, same, List.forall_mem_cons.mpr ⟨tried, rest⟩⟩
    next =>
      cases reached
      exact ⟨[], source, .nothing source, rfl, List.forall_mem_nil _⟩
  next =>
    cases reached
    exact ⟨[], source, .nothing source, rfl, List.forall_mem_nil _⟩

end CandidateSource

theorem Candidates.endsAfter {candidates : Candidates} (ends : candidates.ending = none) :
    CandidateSource.EndsAfter candidates candidates.rest := by
  obtain ⟨all, rest, ending⟩ := candidates
  cases ends
  induction rest with
  | nil => exact .here rfl
  | cons tuning rest ih => exact .tuning rfl ih

namespace Sweep

open CandidateSource (Yields EndsAfter next)

variable {ι : Type} [CandidateSource ι] {sweep passed : Sweep ι}

omit [CandidateSource ι] in
theorem topology_giveUp (sweep : Sweep ι) (keys : List TransportKey) :
    (sweep.giveUp keys).topology = sweep.topology.settleWhere .failed fun key _ => keys.contains key := by
  obtain ⟨transports, given⟩ := Topology.foldl_setStatus_eq keys sweep.topology
  have entries := Topology.entries_foldl_setStatus keys sweep.topology
  change keys.foldl _ sweep.topology = _
  rw [given] at entries ⊢
  unfold Topology.settleWhere
  have same : transports = sweep.topology.transports.mapValues fun key transport =>
      if keys.contains key then { transport with status := .failed } else transport := by
    cases transports
    cases entries
    rfl
  rw [same]

omit [CandidateSource ι] in
/-- The transports that are passed over wait on tried channels. -/
theorem awaits_announcedTarget (sweep : Sweep ι) :
    sweep.topology.Awaits (fun key _ => sweep.announcedTarget.1.contains key) (· ∈ sweep.attempted) := by
  intro key transport found passed
  obtain ⟨⟨other, tuning⟩, taken, rfl⟩ := List.mem_map.mp (List.contains_iff_mem.mp passed)
  have waits : (other, tuning) ∈ sweep.topology.pending := (List.takeWhile_sublist _).subset taken
  have tried : sweep.isAttempted tuning = true := by
    have holds := List.mem_takeWhile_imp taken
    exact holds
  obtain ⟨same, present, status, known⟩ := Topology.mem_pending.mp waits
  cases OrderedMap.eq_of_mem_entries (OrderedMap.mem_entries_iff_get?.mpr found) present
  exact ⟨tuning, Topology.waiting?_eq_some_iff.mpr ⟨status, known⟩, List.contains_iff_mem.mp tried⟩

omit [CandidateSource ι] in
theorem pending_giveUp_of_none {sweep : Sweep ι} (unannounced : sweep.announcedTarget.2 = none) :
    (sweep.giveUp sweep.announcedTarget.1).topology.pending = [] := by
  have tried : ∀ entry ∈ sweep.topology.pending, sweep.isAttempted entry.2 = true := by
    rw [← List.dropWhile_eq_nil_iff]
    exact List.head?_eq_none_iff.mp (Option.map_eq_none_iff.mp unannounced)
  have passed : sweep.announcedTarget.1 = sweep.topology.pending.map (·.1) := by
    unfold announcedTarget
    simp only
    rw [List.takeWhile_eq_self_iff.mpr tried]
  refine List.eq_nil_iff_forall_not_mem.mpr fun entry waits => ?_
  rw [topology_giveUp] at waits
  have waited := (Topology.pending_settleWhere_sublist _ (by decide) _).subset waits
  obtain ⟨transport, present, status, -⟩ := Topology.mem_pending.mp waits
  rw [OrderedMap.mem_entries_iff_get?] at present
  unfold Topology.settleWhere at present
  rw [OrderedMap.get?_mapValues] at present
  obtain ⟨former, -, given⟩ := Option.map_eq_some_iff.mp present
  have picked : sweep.announcedTarget.1.contains entry.1 = true := by
    rw [passed]
    exact List.contains_iff_mem.mpr (List.mem_map_of_mem waited)
  rw [if_pos picked] at given
  cases given
  cases status

/-- How the choice of a candidate reads the source, when `passed` were passed over as tried. -/
inductive Choice (sweep : Sweep ι) : ι → Except Breakdown (Option Target) → Prop
  | candidate {skipped : List Tuning} {tuning : Tuning} {later : ι}
      (yields : Yields sweep.candidates (skipped ++ [tuning]) later)
      (tried : ∀ other ∈ skipped, sweep.isAttempted other = true) :
      Choice sweep later (.ok (some ⟨tuning, none⟩))
  | ended {skipped : List Tuning} {last : ι} (yields : Yields sweep.candidates skipped last)
      (tried : ∀ other ∈ skipped, sweep.isAttempted other = true) (ended : (next last).result = .ok none) :
      Choice sweep (next last).rest (.ok none)
  | failed {skipped : List Tuning} {later : ι} {step : Breakdown} (yields : Yields sweep.candidates skipped later)
      (tried : ∀ other ∈ skipped, sweep.isAttempted other = true)
      (endless : ∀ all, ¬EndsAfter sweep.candidates all) : Choice sweep later (.error step)

theorem choice (sweep : Sweep ι) : sweep.Choice sweep.candidateTarget.1 sweep.candidateTarget.2 := by
  unfold candidateTarget
  split
  next found rest search =>
    obtain ⟨skipped, last, yields, shape, tried⟩ := CandidateSource.yields_of_firstUntried search
    have result : (next last).result = found := by rw [shape]
    have moved : rest = (next last).rest := by rw [shape]
    subst moved
    rcases found with step | _ | tuning
    · refine .failed (yields.trans (.failure result (.nothing _))) ?_ fun all ends => ?_
      · rw [List.append_nil]
        exact tried
      · obtain ⟨left, -, ends⟩ := ends.of_yields yields
        exact ends.result_ne_error step result
    · exact .ended yields tried result
    · exact .candidate (yields.trans (.tuning result (.nothing _))) tried
  next search =>
    refine .failed (.nothing _) (List.forall_mem_nil _) fun all ends => ?_
    exact ends.firstUntried_ne_none _ search

inductive Planned (sweep : Sweep ι) : Sweep ι → Plan → Prop
  | enough (satisfied : sweep.isHarvested = true) : Planned sweep sweep .enough
  | announced {entry : TransportKey × Tuning} (unsatisfied : sweep.isHarvested = false)
      (waits : entry ∈ sweep.topology.pending) :
      Planned sweep (sweep.giveUp sweep.announcedTarget.1) (.request ⟨entry.2, some entry.1⟩)
  | candidate {skipped : List Tuning} {tuning : Tuning} {later : ι} (unsatisfied : sweep.isHarvested = false)
      (unannounced : sweep.announcedTarget.2 = none) (yields : Yields sweep.candidates (skipped ++ [tuning]) later)
      (tried : ∀ other ∈ skipped, sweep.isAttempted other = true) :
      Planned sweep { sweep.giveUp sweep.announcedTarget.1 with candidates := later } (.request ⟨tuning, none⟩)
  | exhausted {skipped : List Tuning} {last : ι} (unsatisfied : sweep.isHarvested = false)
      (unannounced : sweep.announcedTarget.2 = none) (yields : Yields sweep.candidates skipped last)
      (tried : ∀ other ∈ skipped, sweep.isAttempted other = true) (ended : (next last).result = .ok none) :
      Planned sweep { sweep.giveUp sweep.announcedTarget.1 with candidates := (next last).rest } .exhausted
  | stuck {skipped : List Tuning} {later : ι} {step : Breakdown} (unsatisfied : sweep.isHarvested = false)
      (unannounced : sweep.announcedTarget.2 = none) (yields : Yields sweep.candidates skipped later)
      (tried : ∀ other ∈ skipped, sweep.isAttempted other = true)
      (endless : ∀ all, ¬EndsAfter sweep.candidates all) :
      Planned sweep { sweep.giveUp sweep.announcedTarget.1 with candidates := later } (.stuck step)

theorem planned (sweep : Sweep ι) : sweep.Planned sweep.plan.1 sweep.plan.2 := by
  unfold plan
  split
  next satisfied => exact .enough satisfied
  next missing =>
    have unsatisfied : sweep.isHarvested = false := by simpa using missing
    unfold nextTarget
    cases announced : sweep.announcedTarget.2 with
    | some target =>
      obtain ⟨entry, waits, -, rfl⟩ := announcedTarget_eq_some announced
      simp only [announced]
      exact .announced unsatisfied waits
    | none =>
      simp only [announced]
      have choice := sweep.choice
      generalize sweep.candidateTarget = chosen at choice ⊢
      obtain ⟨later, result⟩ := chosen
      cases choice with
      | candidate yields tried => exact .candidate unsatisfied announced yields tried
      | ended yields tried ended => exact .exhausted unsatisfied announced yields tried ended
      | failed yields tried endless => exact .stuck unsatisfied announced yields tried endless

end Sweep

end DvbScan
