import DvbScan.Proofs.StalledSweep
import DvbScan.Proofs.TriedTransports
import DvbScan.Proofs.TuneHarvest

/-!
# Why a sweep ends

A sweep that was not cancelled and has not failed is finished for one of two reasons: what the policy asks for was
found, or nothing is left to try. Then no transport waits that could be tried, and the source was read to its end
since it was reset, with every tuning that it gave tried.
-/

namespace DvbScan

theorem Topology.allServicesFound_iff (topology : Topology) :
    topology.allServicesFound = true ↔
      topology.referencedServices ≠ [] ∧
        ∀ service ∈ topology.referencedServices, service ∈ topology.observedServices := by
  unfold allServicesFound
  rw [Bool.and_eq_true, List.all_eq_true]
  refine and_congr (by simp) (forall_congr' fun service => forall_congr' fun member => ?_)
  exact List.contains_iff_mem

namespace Sweep

open CandidateSource (Yields next)

variable {ι : Type} [CandidateSource ι] {sweep passed : Sweep ι} {begun begun' : ι → Prop}
  {attempted attempted' : List EquivalenceKey} {later last : ι}

/-- Since it was as the sweep began with it, a source has become another and given tried tunings only. -/
def ReadFrom (begun : ι → Prop) (attempted : List EquivalenceKey) (later : ι) : Prop :=
  ∃ source tunings, begun source ∧ Yields source tunings later ∧
    ∀ tuning ∈ tunings, tuning.equivalence ∈ attempted

theorem ReadFrom.refl {source : ι} (here : begun source) : ReadFrom begun attempted source :=
  ⟨source, [], here, .nothing source, List.forall_mem_nil _⟩

theorem ReadFrom.trans (read : ReadFrom begun attempted later) (kept : attempted ⊆ attempted')
    (further : ReadFrom (· = later) attempted' last) : ReadFrom begun attempted' last := by
  obtain ⟨source, tunings, here, yields, tried⟩ := read
  obtain ⟨_, more, rfl, onward, triedMore⟩ := further
  refine ⟨source, tunings ++ more, here, yields.trans onward, fun tuning member => ?_⟩
  exact (List.mem_append.mp member).elim (kept <| tried tuning ·) (triedMore tuning)

theorem ReadFrom.imp (read : ReadFrom begun attempted later) (from_ : ∀ source, begun source → begun' source)
    (kept : attempted ⊆ attempted') : ReadFrom begun' attempted' later := by
  obtain ⟨source, tunings, here, yields, tried⟩ := read
  exact ⟨source, tunings, from_ source here, yields, fun tuning member => kept (tried tuning member)⟩

/-- Nothing is left to try: no transport waits that could be tried, and the source has come to an end. -/
structure Exhausted (begun : ι → Prop) (sweep : Sweep ι) : Prop where
  pending : sweep.topology.pending = []
  status : sweep.status ≠ .complete
  read : ∃ last, ReadFrom begun sweep.attempted last ∧ (next last).result = .ok none

theorem Exhausted.imp (nothing : sweep.Exhausted begun) (from_ : ∀ source, begun source → begun' source) :
    sweep.Exhausted begun' := by
  obtain ⟨pending, status, last, read, ended⟩ := nothing
  exact ⟨pending, status, last, read.imp from_ (List.Subset.refl _), ended⟩

omit [CandidateSource ι] in
theorem exhaustedStatus_ne_complete (sweep : Sweep ι) : sweep.exhaustedStatus ≠ .complete := by
  unfold exhaustedStatus
  split
  · decide
  · decide

inductive Verdict (before after : Sweep ι) : Option (Failure ScanError) → Prop
  | harvested (phase : after.phase = .finished) (satisfied : after.isHarvested = true)
      (status : after.status = after.harvestedStatus) : Verdict before after none
  | exhausted (phase : after.phase = .finished) (nothing : after.Exhausted (· = before.candidates)) :
      Verdict before after none
  | accepted {attempt : AttemptId} {target : Target} (phase : after.phase = .tuning attempt target)
      (read : ReadFrom (· = before.candidates) after.attempted after.candidates) : Verdict before after none
  | rejected (error : ScanError) (phase : after.phase = .finished) (status : after.status = .failed) :
      Verdict before after (some (.rejected error))
  | broken (step : Breakdown) (unsatisfied : before.isHarvested = false) (phase : after.phase = before.phase)
      (status : after.status = before.status)
      (pending : before.topology.pending = [] → after.topology.pending = [])
      (read : ReadFrom (· = before.candidates) after.attempted after.candidates) :
      Verdict before after (some (.broken step))

theorem read_of_request {target : Target} (planned : sweep.plan = (passed, .request target)) :
    sweep.isHarvested = false ∧ passed.status = sweep.status ∧
      passed.topology.pending.Sublist sweep.topology.pending ∧
      ReadFrom (· = sweep.candidates) (passed.ask target).attempted passed.candidates := by
  have cases := sweep.planned
  rw [planned] at cases
  cases cases with
  | announced unsatisfied waits => exact ⟨unsatisfied, rfl, sweep.pending_giveUp_sublist _, .refl rfl⟩
  | @candidate skipped tuning later unsatisfied unannounced yields tried =>
    refine ⟨unsatisfied, rfl, sweep.pending_giveUp_sublist _, _, _, rfl, yields, fun other member => ?_⟩
    rcases List.mem_append.mp member with former | last
    · exact List.mem_cons_of_mem _ (List.contains_iff_mem.mp (tried other former))
    · rw [List.mem_singleton.mp last]
      exact List.mem_cons_self

theorem attempted_subset_advance (sweep : Sweep ι) (receiver : Receiver) :
    sweep.attempted ⊆ (sweep.advance receiver).1.attempted := by
  refine advance_of_moves (sweep.attempted ⊆ ·.attempted) (List.Subset.refl _) receiver ?_ ?_ ?_ ?_
  · exact fun _ _ _ kept => kept
  · exact fun _ _ kept => List.subset_cons_of_subset _ kept
  · exact fun _ _ kept => kept
  · exact fun _ _ _ kept => kept

theorem verdict (sweep : Sweep ι) (receiver : Receiver) :
    Verdict sweep (sweep.advance receiver).1 (sweep.advance receiver).2 := by
  fun_induction sweep.advance receiver with
  | case1 sweep passed planned =>
    have cases := sweep.planned
    rw [planned] at cases
    cases cases with
    | enough satisfied => exact .harvested rfl satisfied rfl
  | case2 sweep passed planned =>
    have cases := sweep.planned
    rw [planned] at cases
    cases cases with
    | @exhausted skipped last unsatisfied unannounced yields tried ended =>
      refine .exhausted rfl ⟨pending_giveUp_of_none unannounced, exhaustedStatus_ne_complete _, last, ?_, ended⟩
      exact ⟨_, skipped, rfl, yields, fun other member => List.contains_iff_mem.mp (tried other member)⟩
  | case3 sweep passed step planned =>
    have cases := sweep.planned
    rw [planned] at cases
    cases cases with
    | @stuck skipped later _ unsatisfied unannounced yields tried endless =>
      refine .broken step unsatisfied rfl rfl (fun _ => pending_giveUp_of_none unannounced) ?_
      exact ⟨_, skipped, rfl, yields, fun other member => List.contains_iff_mem.mp (tried other member)⟩
  | case4 sweep passed target planned asked accepted => exact .accepted rfl (read_of_request planned).2.2.2
  | case5 sweep passed target planned asked error refused fatal => exact .rejected error rfl rfl
  | case6 sweep passed target planned asked error refused passable _ ih =>
    obtain ⟨unsatisfied, same, fewer, read⟩ := read_of_request planned
    have kept := attempted_subset_advance (asked.settle target .failed) receiver
    generalize (asked.settle target .failed).advance receiver = result at ih kept ⊢
    obtain ⟨after, failure⟩ := result
    cases ih with
    | harvested phase satisfied status => exact .harvested phase satisfied status
    | exhausted phase nothing =>
      obtain ⟨pending, status, last, further, ended⟩ := nothing
      exact .exhausted phase ⟨pending, status, last, read.trans kept further, ended⟩
    | accepted phase further => exact .accepted phase (read.trans kept further)
    | rejected error phase status => exact .rejected error phase status
    | broken step _ phase status pending further =>
      obtain ⟨-, -, -, phase'⟩ := fields_of_plan planned
      refine .broken step unsatisfied (phase.trans phase') (status.trans same) (fun none => pending ?_)
        (read.trans kept further)
      have settled : (asked.settle target .failed).topology.pending.Sublist sweep.topology.pending :=
        (pending_settle_sublist asked target (by decide)).trans fewer
      rw [none] at settled
      exact List.sublist_nil.mp settled

/-- A sweep that tries a target has read tried tunings only since the source was reset; one that is finished is so
because the policy is satisfied, or because nothing is left to try. -/
structure Concludes (begun : ι → Prop) (sweep : Sweep ι) : Prop where
  reading : ∀ target, sweep.phase.target? = some target → ReadFrom begun sweep.attempted sweep.candidates
  ended : sweep.phase = .finished → sweep.status ≠ .cancelled → sweep.status ≠ .failed →
    (sweep.isHarvested = true ∧ sweep.status = sweep.harvestedStatus) ∨ sweep.Exhausted begun

namespace Concludes

theorem advance (receiver : Receiver) (read : ReadFrom begun sweep.attempted sweep.candidates)
    (ended : ∀ step, (sweep.advance receiver).2 = some (.broken step) → sweep.phase = .finished →
      sweep.isHarvested = false → sweep.status ≠ .cancelled → sweep.status ≠ .failed → sweep.Exhausted begun) :
    (sweep.advance receiver).1.Concludes begun := by
  have kept := attempted_subset_advance sweep receiver
  have verdict := sweep.verdict receiver
  generalize sweep.advance receiver = result at kept verdict ended ⊢
  obtain ⟨after, failure⟩ := result
  have waits {phase : Phase} (given : after.phase = phase) (none : phase.target? = none) :
      ∀ target, after.phase.target? = some target → ReadFrom begun after.attempted after.candidates := by
    intro target present
    rw [given, none] at present
    cases present
  cases verdict with
  | harvested phase satisfied status => exact ⟨waits phase rfl, fun _ _ _ => .inl ⟨satisfied, status⟩⟩
  | exhausted phase nothing =>
    obtain ⟨pending, status, last, further, ended⟩ := nothing
    exact ⟨waits phase rfl, fun _ _ _ => .inr ⟨pending, status, last, read.trans kept further, ended⟩⟩
  | accepted phase further =>
    refine ⟨fun _ _ => read.trans kept further, fun finished => ?_⟩
    cases phase.symm.trans finished
  | rejected error phase status => exact ⟨waits phase rfl, fun _ _ failed => absurd status failed⟩
  | broken step unsatisfied phase status pending further =>
    refine ⟨fun _ _ => read.trans kept further, fun finished active unfailed => .inr ?_⟩
    obtain ⟨nothing, unfinished, last, read, end_⟩ := ended step rfl (phase.symm.trans finished) unsatisfied
      (status ▸ active) (status ▸ unfailed)
    exact ⟨pending nothing, status ▸ unfinished, last, read.imp (fun _ => id) kept, end_⟩

theorem hear {target : Target} (scanning : sweep.phase = .scanning target)
    (read : ReadFrom begun sweep.attempted sweep.candidates) (receiver : Receiver) (outcome : ChannelOutcome) :
    ((sweep.hear target outcome).complete receiver).1.Concludes begun := by
  cases outcome with
  | running =>
    refine ⟨fun _ _ => read, fun finished => ?_⟩
    cases scanning.symm.trans finished
  | finished success =>
    refine Concludes.advance receiver read fun _ _ finished => ?_
    cases finished

/-- A start begins with another source. Any other act goes on with the old one, and so does a start that breaks down
on a finished sweep. -/
theorem act (concludes : sweep.Concludes begun) (receiver : Receiver) {act : SweepAct}
    (restarts : act = .start → begun' (CandidateSource.reset sweep.candidates))
    (goesOn : (act ≠ .start ∨ ∃ step, (sweep.act receiver act).2 = some (.broken step)) →
      ∀ source, begun source → begun' source) : (sweep.act receiver act).1.Concludes begun' := by
  rw [act_eq_complete] at goesOn ⊢
  have going (given : act ≠ .start) (target : Target) (present : sweep.phase.target? = some target) :
      ReadFrom begun' sweep.attempted sweep.candidates :=
    (concludes.reading target present).imp (goesOn (.inl given)) (List.Subset.refl _)
  have prepared := sweep.prepared receiver act
  generalize sweep.prepare receiver act = progress at prepared goesOn ⊢
  cases prepared with
  | ignored given =>
    refine ⟨going given, fun finished active unfailed => ?_⟩
    exact (concludes.ended finished active unfailed).imp_right (·.imp (goesOn (.inl given)))
  | started =>
    refine Concludes.advance receiver (.refl (restarts rfl)) fun step broken finished unsatisfied active unfailed => ?_
    have former := (concludes.ended finished active unfailed).resolve_left fun harvested => by
      cases unsatisfied.symm.trans harvested.1
    obtain ⟨pending, status, read⟩ := former.imp (goesOn (.inr ⟨step, broken⟩))
    exact ⟨pending, status, read⟩
  | @locked attempt target phase =>
    refine hear rfl ?_ receiver _
    exact going nofun target (by rw [phase]; rfl)
  | @unlocked _ attempt target given phase =>
    refine Concludes.advance receiver ?_ fun _ _ finished => ?_
    · exact going given target (by rw [phase]; rfl)
    · cases finished
  | @delivered target filter delivery phase =>
    refine hear ?_ ?_ receiver _
    · exact phase
    · exact going nofun target (by rw [phase]; rfl)
  | @left _ target given phase =>
    refine Concludes.advance receiver ?_ fun _ _ finished => ?_
    · exact going given target (by rw [phase]; rfl)
    · cases finished
  | cancelled => exact ⟨nofun, fun _ active => absurd rfl active⟩

end Concludes

/-- The source that the run reads at its end, as it was after the reset. A start begins anew; only one that breaks
down on its way may leave the sweep with what it had read before. -/
inductive BegunWith (sweep : Sweep ι) (receiver : Receiver) : List SweepAct → ι → Prop
  | started (acts : List SweepAct) :
      BegunWith sweep receiver (acts ++ [.start]) (CandidateSource.reset (sweep.actAll receiver acts).candidates)
  | later {acts : List SweepAct} {act : SweepAct} {source : ι} (begun : BegunWith sweep receiver acts source)
      (goesOn : act ≠ .start ∨
        ∃ step, ((sweep.actAll receiver acts).act receiver act).2 = some (.broken step)) :
      BegunWith sweep receiver (acts ++ [act]) source

theorem concludes_actAll (idle : sweep.phase = .idle) (receiver : Receiver) (acts : List SweepAct) :
    (sweep.actAll receiver acts).Concludes (sweep.BegunWith receiver acts) := by
  induction acts using List.reverseRecOn with
  | nil =>
    refine ⟨fun _ present => ?_, fun finished => ?_⟩
    · rw [show (sweep.actAll receiver []).phase = .idle from idle] at present
      cases present
    · cases idle.symm.trans finished
  | append_singleton before act ih =>
    rw [actAll_append]
    refine ih.act receiver ?_ fun goesOn source begun => .later begun goesOn
    rintro rfl
    exact .started before

theorem platform_actAll (sweep : Sweep ι) (receiver : Receiver) (acts : List SweepAct) :
    (sweep.actAll receiver acts).platform = sweep.platform := by
  refine actAll_of_act (·.platform = sweep.platform) rfl fun act _ before kept => ?_
  refine act_of_prepare (·.platform = sweep.platform) ?_ fun moving kept => ?_
  · exact (before.untuned_prepare receiver act).platform.trans kept
  · exact advance_of_moves (·.platform = sweep.platform) kept receiver (fun _ _ _ => id) (fun _ _ => id)
      (fun _ _ => id) fun _ _ _ => id

/-- A sweep that is finished, neither cancelled nor failed, has a reason for it. Either the policy asks for something,
and all that it asks for has come true: two channels left and one of them with success, no known transport waiting,
every service that is referred to seen. Then the sweep is complete exactly if a channel was left with success. Or no
transport with a known tuning waits, the source was read to its end since it was reset, with every tuning that it gave
asked for, and the sweep is not complete. -/
theorem finished_for_reason (platform : Platform) (candidates : ι) (timeouts : Timeouts) (receiver : Receiver)
    (acts : List SweepAct) :
    let initial := new platform candidates timeouts
    let sweep := initial.actAll receiver acts
    let endings := SweepNote.endings (initial.notesOf receiver acts)
    let asked := (Call.tunes sweep.calls).map (·.2.1.equivalence)
    sweep.isFinished = true → sweep.status ≠ .cancelled → sweep.status ≠ .failed →
      (platform.policy.isEmpty = false ∧
        (platform.policy.atLeastTwo = true → 2 ≤ endings.length ∧ true ∈ endings) ∧
        (platform.policy.allDiscovered = true → sweep.topology.transports.entries ≠ [] ∧
          ∀ entry ∈ sweep.topology.transports.entries, entry.2.status ≠ .pending) ∧
        (platform.policy.allServices = true → sweep.topology.referencedServices ≠ [] ∧
          ∀ service ∈ sweep.topology.referencedServices, service ∈ sweep.topology.observedServices) ∧
        sweep.status = if true ∈ endings then .complete else .partly) ∨
      ((∀ key transport, sweep.topology.transports.get? key = some transport → transport.status = .pending →
          transport.tuning = none) ∧
        sweep.status ≠ .complete ∧
        ∃ source tunings last, initial.BegunWith receiver acts source ∧ Yields source tunings last ∧
          (next last).result = .ok none ∧ ∀ tuning ∈ tunings, tuning.equivalence ∈ asked) := by
  intro initial sweep endings asked finished active unfailed
  have tallies : sweep.Tallies (initial.notesOf receiver acts) :=
    (tallies_new platform candidates timeouts).actAll receiver acts
  have kept : sweep.platform = platform := initial.platform_actAll receiver acts
  rcases (initial.concludes_actAll rfl receiver acts).ended (beq_iff_eq.mp finished) active unfailed with
    ⟨satisfied, status⟩ | ⟨pending, status, last, read, ended⟩
  · obtain ⟨demands, channels, discovered, services⟩ := sweep.isHarvested_iff.mp satisfied
    rw [kept] at demands channels discovered services
    refine .inl ⟨demands, fun demanded => ?_, fun demanded => ?_, fun demanded => ?_, ?_⟩
    · rw [← tallies.channelsScanned, ← tallies.anyComplete]
      exact channels demanded
    · exact sweep.topology.allDiscoveredScanned_iff.mp (discovered demanded)
    · exact sweep.topology.allServicesFound_iff.mp (services demanded)
    · rw [show sweep.status = sweep.harvestedStatus from status]
      unfold harvestedStatus
      exact if_congr tallies.anyComplete rfl rfl
  · obtain ⟨source, tunings, begun, yields, tried⟩ := read
    refine .inr ⟨fun key transport found waits => ?_, status, source, tunings, last, begun, yields, ended, ?_⟩
    · refine Option.eq_none_iff_forall_ne_some.mpr fun tuning known => ?_
      have waiting : (key, tuning) ∈ sweep.topology.pending :=
        Topology.mem_pending.mpr ⟨transport, OrderedMap.mem_entries_iff_get?.mpr found, waits, known⟩
      rw [show sweep.topology.pending = [] from pending] at waiting
      cases waiting
    · intro tuning member
      have noted : asked = sweep.attempted.reverse :=
        ((requestsNoted_new platform candidates timeouts).actAll receiver acts).keys
      rw [noted]
      exact List.mem_reverse.mpr (tried tuning member)

end Sweep

namespace TwoTransports

open scoped HanDecoders

def silent : Sweep := .new .standard (.raster 34 34) .default

/-- The sweep over two transports ends because none of them waits any more, with a channel left with success. The one
over a silent channel ends because that channel is all that its source gives. -/
theorem finished_for_either_reason :
    ((sweep.actAll .willing acts).isFinished = true ∧ true ∈ SweepNote.endings (sweep.notesOf .willing acts) ∧
      ∀ entry ∈ (sweep.actAll .willing acts).topology.transports.entries, entry.2.status ≠ .pending) ∧
    (silent.actAll .willing [.start, .stall]).isFinished = true ∧
      ∃ source tunings last, silent.BegunWith .willing [.start, .stall] source ∧
        CandidateSource.Yields source tunings last ∧ (CandidateSource.next last).result = .ok none ∧
        ∀ tuning ∈ tunings, tuning.equivalence ∈
          (Call.tunes (silent.actAll .willing [.start, .stall]).calls).map (·.2.1.equivalence) := by
  constructor
  · have reason := Sweep.finished_for_reason .standard (.raster 34 36 : Candidates) .default .willing acts
    dsimp only at reason
    obtain ⟨finished, complete, -⟩ := outcome
    obtain ⟨final, reached⟩ : ∃ final, sweep.actAll .willing acts = final := ⟨_, rfl⟩
    rw [show (Sweep.new .standard (.raster 34 36) .default).actAll .willing acts = final from reached,
      show (Sweep.new .standard (.raster 34 36) .default) = sweep from rfl] at reason
    rw [reached] at finished complete ⊢
    rw [complete] at reason
    refine ⟨beq_iff_eq.mpr finished, ?_⟩
    rcases reason (beq_iff_eq.mpr finished) nofun nofun with ⟨-, -, discovered, -, status⟩ | ⟨-, unfinished, -⟩
    · refine ⟨?_, (discovered rfl).2⟩
      apply Classical.byContradiction
      intro none
      rw [if_neg none] at status
      cases status
    · exact absurd rfl unfinished
  · have reason := Sweep.finished_for_reason .standard (.raster 34 34 : Candidates) .default .willing [.start, .stall]
    dsimp only at reason
    have ends : (Sweep.runWithin .willing 2 silent [.start, .stall]).map (fun run => (run.2.phase, run.2.status)) =
        some (.finished, .blank) := by
      decide +kernel
    obtain ⟨⟨requests, final⟩, run, shape⟩ := Option.map_eq_some_iff.mp ends
    have reached : silent.actAll .willing [.start, .stall] = final := (Sweep.run_of_within run).2
    obtain ⟨finished, blank⟩ : final.phase = .finished ∧ final.status = .blank := Prod.mk.inj shape
    rw [show (Sweep.new .standard (.raster 34 34) .default).actAll .willing [.start, .stall] = final from reached,
      show (Sweep.new .standard (.raster 34 34) .default) = silent from rfl, blank] at reason
    rw [reached]
    refine ⟨beq_iff_eq.mpr finished, ?_⟩
    rcases reason (beq_iff_eq.mpr finished) nofun nofun with ⟨-, -, -, -, status⟩ | ⟨-, -, exhausted⟩
    · split at status
      · cases status
      · cases status
    · exact exhausted

end TwoTransports

end DvbScan
