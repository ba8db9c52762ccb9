import DvbScan.Proofs.SweepLifecycle
import DvbScan.Proofs.SweepNotes
import DvbScan.Proofs.SweepPlans
import DvbScan.Proofs.TuneOnce

/-!
# No transport is given up untried

A sweep settles transports by the targets that it asks for: those that wait on the channel of one fail with it, or
count as received when it was heard with success. For this a target that is expected to hold a transport has the
tuning of that transport, which the first announcement has fixed. So there is a reason for every status, in the
requests and the notes of the run; and as all is done for a reason, topologies only grow.
-/

namespace DvbScan

def Phase.target? : Phase → Option Target
  | .tuning _ target | .scanning target => some target
  | .idle | .finished => none

def Target.IsKnown (target : Target) (topology : Topology) : Prop :=
  ∀ key, target.transport = some key → (topology.transportOf key).tuning = some target.tuning

theorem Target.IsKnown.grows {target : Target} {earlier later : Topology} (known : target.IsKnown earlier)
    (grows : earlier.Grows later) : target.IsKnown later := by
  intro key expected
  have tuned := known key expected
  unfold Topology.transportOf at tuned ⊢
  cases found : earlier.transports.get? key with
  | none =>
    rw [found] at tuned
    cases tuned
  | some transport =>
    rw [found] at tuned
    obtain ⟨grown, present, related⟩ := grows.transports key transport found
    rw [present]
    exact related.tuning _ tuned

namespace SweepNote

/-- The channel of a target locked, and then it was left with success. -/
def Received (notes : List SweepNote) (target : Target) : Prop :=
  [locked target, left target true].Sublist notes

/-- A transport may be given up if a channel with its key was asked for, and counts as received if that channel was
heard with success. -/
def Reason (notes : List SweepNote) (attempted : List EquivalenceKey) : TransportStatus → EquivalenceKey → Prop
  | .pending, _ => False
  | .failed, key => key ∈ attempted
  | .scanned, key => key ∈ attempted ∧ ∃ target, target.tuning.equivalence = key ∧ Received notes target

theorem Reason.mono {notes notes' : List SweepNote} {attempted attempted' : List EquivalenceKey}
    {status : TransportStatus} {key : EquivalenceKey} (reason : Reason notes attempted status key)
    (noted : notes.Sublist notes') (asked : attempted ⊆ attempted') : Reason notes' attempted' status key := by
  cases status with
  | pending => exact reason
  | failed => exact asked reason
  | scanned =>
    obtain ⟨tuned, target, same, received⟩ := reason
    exact ⟨asked tuned, target, same, received.trans noted⟩

end SweepNote

namespace Sweep

open SweepNote (ofOutcome Reason)

variable {ι : Type} {sweep before after : Sweep ι} {base : Topology} {notes : List SweepNote} {target : Target}

/-- Since some topology the sweep did all for a reason, and its present target is known, was asked for, and has
locked if its channel is heard. -/
structure Reasoned (base : Topology) (notes : List SweepNote) (sweep : Sweep ι) : Prop where
  evolves : Topology.Evolves (.told · ∈ notes) (Reason notes sweep.attempted) base sweep.topology
  known : ∀ target, sweep.phase.target? = some target → target.IsKnown sweep.topology
  asked : ∀ target, sweep.phase.target? = some target → target.tuning.equivalence ∈ sweep.attempted
  locked : ∀ target, sweep.phase = .scanning target → .locked target ∈ notes

theorem evolves_settle (sweep : Sweep ι) {told : Finding → Prop}
    {reason : TransportStatus → EquivalenceKey → Prop} (known : target.IsKnown sweep.topology)
    {status : TransportStatus} (cause : reason status target.tuning.equivalence) :
    Topology.Evolves told reason sweep.topology (sweep.settle target status).topology := by
  have equivalent : sweep.topology.Awaits (fun _ transport => transport.waitsOn target.tuning.equivalence)
      (reason status) := by
    intro key transport _ picked
    obtain ⟨tuning, waits, same⟩ := (Option.any_eq_true ..).mp picked
    rw [← eq_of_beq same] at cause
    exact ⟨tuning, waits, cause⟩
  refine .settle equivalent ?_
  unfold settle
  cases expected : target.transport with
  | none => exact .refl _
  | some key =>
    refine .settle (fun other transport found picked => ?_) (.refl _)
    rw [Bool.and_eq_true, beq_iff_eq, beq_iff_eq] at picked
    obtain ⟨rfl, waits⟩ := picked
    have tuned := known.grows (Topology.grows_settleWhere equivalent status) other expected
    unfold Topology.transportOf at tuned
    rw [found] at tuned
    exact ⟨target.tuning, Topology.waiting?_eq_some_iff.mpr ⟨waits, tuned⟩, cause⟩

namespace Reasoned

theorem onward (reasoned : before.Reasoned base notes) (attempted : before.attempted ⊆ after.attempted)
    (phase : after.phase = before.phase ∨ after.phase.target? = none)
    (evolves : Topology.Evolves (.told · ∈ notes) (Reason notes after.attempted) before.topology after.topology) :
    after.Reasoned base notes where
  evolves := by
    refine Topology.Evolves.trans (reasoned.evolves.mono (fun _ => id) fun _ _ reason => ?_) evolves
    exact reason.mono (List.Sublist.refl _) attempted
  known target present := by
    rcases phase with same | absent
    · rw [same] at present
      exact (reasoned.known target present).grows evolves.grows
    · cases absent.symm.trans present
  asked target present := by
    rcases phase with same | absent
    · rw [same] at present
      exact attempted (reasoned.asked target present)
    · cases absent.symm.trans present
  locked target scanning := by
    rcases phase with same | absent
    · exact reasoned.locked target (same.symm.trans scanning)
    · rw [scanning] at absent
      cases absent

theorem noting (reasoned : sweep.Reasoned base notes) (more : List SweepNote) :
    sweep.Reasoned base (notes ++ more) where
  evolves := by
    refine reasoned.evolves.mono (fun _ => List.mem_append_left more) fun _ _ reason => ?_
    exact reason.mono (List.sublist_append_left notes more) (List.Subset.refl _)
  known := reasoned.known
  asked := reasoned.asked
  locked target scanning := List.mem_append_left more (reasoned.locked target scanning)

theorem leaveChannel (reasoned : sweep.Reasoned base notes) (phase : sweep.phase = .scanning target)
    (success : Bool) : (sweep.leaveChannel target success).Reasoned base (notes ++ [.left target success]) := by
  have present : sweep.phase.target? = some target := by rw [phase]; rfl
  refine (reasoned.noting [.left target success]).onward (List.Subset.refl _) (.inr rfl) ?_
  refine .listen none (evolves_settle { sweep with topology := sweep.topology.endChannel } ?_ ?_)
  · exact (reasoned.known target present).grows (sweep.topology.grows_listen none)
  · cases success with
    | false => exact reasoned.asked target present
    | true =>
      refine ⟨reasoned.asked target present, target, rfl, ?_⟩
      exact (List.singleton_sublist.mpr (reasoned.locked target phase)).append (List.Sublist.refl _)

theorem hear (reasoned : sweep.Reasoned base notes) (phase : sweep.phase = .scanning target)
    (outcome : ChannelOutcome) :
    (sweep.hear target outcome).sweep.Reasoned base (notes ++ ofOutcome target outcome) := by
  cases outcome with
  | running => exact (List.append_nil notes).symm ▸ reasoned
  | finished success => exact reasoned.leaveChannel phase success

variable [CandidateSource ι]

theorem prepare (reasoned : sweep.Reasoned base notes) (receiver : Receiver) (act : SweepAct) :
    (sweep.prepare receiver act).sweep.Reasoned base (notes ++ sweep.notes receiver act) := by
  have noted := sweep.noted receiver act
  generalize sweep.prepare receiver act = progress, sweep.notes receiver act = more at noted ⊢
  cases noted with
  | ignored => exact reasoned.noting []
  | started => exact (reasoned.noting []).onward (List.Subset.refl _) (.inl rfl) (.refl _)
  | @locked act attempt target given phase =>
    have present : sweep.phase.target? = some target := by rw [phase]; rfl
    have noting := reasoned.noting [.locked target]
    rw [List.append_cons]
    refine hear ⟨?_, fun other given => ?_, fun other given => ?_, fun other given => ?_⟩ rfl _
    · exact noting.evolves.trans (.listen _ (.refl _))
    · cases given
      exact (reasoned.known target present).grows (sweep.topology.grows_listen _)
    · cases given
      exact reasoned.asked target present
    · cases given
      exact List.mem_append_right notes List.mem_cons_self
  | @unlocked act attempt target given phase =>
    have present : sweep.phase.target? = some target := by rw [phase]; rfl
    refine (reasoned.noting []).onward (List.Subset.refl _) (.inr rfl) ?_
    exact evolves_settle { sweep with phase := .idle } (reasoned.known target present)
      (reasoned.asked target present)
  | delivered given filter delivery phase =>
    rw [← List.append_assoc]
    refine hear ?_ ?_ _
    · refine (reasoned.noting _).onward (List.Subset.refl _) (.inl rfl) (.applyAll (fun finding found => ?_) _)
      exact List.mem_append_right notes (List.mem_map_of_mem found)
    · exact phase
  | left given phase => exact reasoned.leaveChannel phase _
  | cancelled => exact (reasoned.noting []).onward (List.Subset.refl _) (.inr rfl) (.listen none (.refl _))

theorem passing (reasoned : sweep.Reasoned base notes) {passed : Sweep ι} {next : Plan}
    (planned : sweep.plan = (passed, next)) :
    passed.Reasoned base notes ∧ ∀ target, next = .request target → target.IsKnown passed.topology := by
  have evolves : Topology.Evolves (.told · ∈ notes) (Reason notes sweep.attempted) sweep.topology
      (sweep.giveUp sweep.announcedTarget.1).topology := by
    rw [topology_giveUp]
    exact .settle sweep.awaits_announcedTarget (.refl _)
  have given : Reasoned base notes (sweep.giveUp sweep.announcedTarget.1) :=
    reasoned.onward (List.Subset.refl _) (.inl rfl) evolves
  have cases := sweep.planned
  rw [planned] at cases
  cases cases with
  | enough => exact ⟨reasoned, nofun⟩
  | @announced entry unsatisfied waits =>
    refine ⟨given, fun target same => ?_⟩
    cases same
    have known : Target.IsKnown ⟨entry.2, some entry.1⟩ sweep.topology := by
      intro key expected
      cases expected
      obtain ⟨transport, present, -, tuned⟩ := Topology.mem_pending.mp waits
      unfold Topology.transportOf
      rw [OrderedMap.mem_entries_iff_get?.mp present]
      exact tuned
    exact known.grows evolves.grows
  | candidate =>
    refine ⟨given.onward (List.Subset.refl _) (.inl rfl) (.refl _), fun target same => ?_⟩
    cases same
    exact nofun
  | exhausted => exact ⟨given.onward (List.Subset.refl _) (.inl rfl) (.refl _), nofun⟩
  | stuck => exact ⟨given.onward (List.Subset.refl _) (.inl rfl) (.refl _), nofun⟩

theorem advance (reasoned : sweep.Reasoned base notes) (receiver : Receiver) :
    (sweep.advance receiver).1.Reasoned base notes := by
  fun_induction sweep.advance receiver with
  | case1 sweep passed planned =>
    exact (reasoned.passing planned).1.onward (List.Subset.refl _) (.inr rfl) (.refl _)
  | case2 sweep passed planned =>
    exact (reasoned.passing planned).1.onward (List.Subset.refl _) (.inr rfl) (.refl _)
  | case3 sweep passed step planned => exact (reasoned.passing planned).1
  | case4 sweep passed target planned asked accepted =>
    obtain ⟨passing, known⟩ := reasoned.passing planned
    have asking : asked.Reasoned base notes :=
      passing.onward (List.subset_cons_self _ _) (.inl rfl) (.refl _)
    refine ⟨asking.evolves, fun other present => ?_, fun other present => ?_, fun other scanning => ?_⟩
    · cases present
      exact known target rfl
    · cases present
      exact List.mem_cons_self
    · cases scanning
  | case5 sweep passed target planned asked error refused fatal =>
    exact (reasoned.passing planned).1.onward (List.subset_cons_self _ _) (.inr rfl) (.refl _)
  | case6 sweep passed target planned asked error refused passable _ ih =>
    obtain ⟨passing, known⟩ := reasoned.passing planned
    have asking : asked.Reasoned base notes :=
      passing.onward (List.subset_cons_self _ _) (.inl rfl) (.refl _)
    refine ih (asking.onward (List.Subset.refl _) (.inl rfl) ?_)
    exact evolves_settle asked (known target rfl) List.mem_cons_self

theorem actAll (reasoned : sweep.Reasoned base notes) (receiver : Receiver) (acts : List SweepAct) :
    (sweep.actAll receiver acts).Reasoned base (notes ++ sweep.notesOf receiver acts) :=
  actAll_of_noted (fun sweep notes => sweep.Reasoned base notes) reasoned receiver
    (fun _ _ act reasoned => reasoned.prepare receiver act) (fun _ _ reasoned => reasoned.advance receiver) acts

end Reasoned

variable [CandidateSource ι]

theorem reasoned_of_run (platform : Platform) (candidates : ι) (timeouts : Timeouts) (receiver : Receiver)
    (acts : List SweepAct) :
    ((new platform candidates timeouts).actAll receiver acts).Reasoned .empty
      ((new platform candidates timeouts).notesOf receiver acts) := by
  have blank : (new platform candidates timeouts).Reasoned .empty [] := by
    refine ⟨.refl _, fun _ present => ?_, fun _ present => ?_, nofun⟩
    · cases present
    · cases present
  exact blank.actAll receiver acts

/-- Over a run nothing that was known of the topology is lost: at any later point every network, bouquet, transport,
service, channel number and region is still there; a transport has the tuning and the network it had, at least its
services, and at most a later status; and nothing that was told of a service is untold. -/
theorem topology_grows (platform : Platform) (candidates : ι) (timeouts : Timeouts) (receiver : Receiver)
    (first second : List SweepAct) :
    let sweep := new platform candidates timeouts
    (sweep.actAll receiver first).topology.Grows (sweep.actAll receiver (first ++ second)).topology := by
  intro sweep
  have earlier := reasoned_of_run platform candidates timeouts receiver first
  -- from the earlier point on, all is done for a reason again
  have since : Reasoned (sweep.actAll receiver first).topology (sweep.notesOf receiver first)
      (sweep.actAll receiver first) :=
    ⟨.refl _, earlier.known, earlier.asked, earlier.locked⟩
  rw [actAll_append]
  exact (since.actAll receiver second).evolves.grows

/-- Throughout a run, a transport that was given up has a known tuning whose channel was asked for; and one that counts
as received was named by a table as the transport being received, or it has a known tuning whose channel was asked for,
locked and was left with success. -/
theorem status_of_reason (platform : Platform) (candidates : ι) (timeouts : Timeouts) (receiver : Receiver)
    (acts : List SweepAct) :
    let sweep := (new platform candidates timeouts).actAll receiver acts
    let notes := (new platform candidates timeouts).notesOf receiver acts
    let asked := (Call.tunes sweep.calls).map (·.2.1.equivalence)
    ∀ key transport, sweep.topology.transports.get? key = some transport →
      (transport.status = .failed → ∃ tuning, transport.tuning = some tuning ∧ tuning.equivalence ∈ asked) ∧
      (transport.status = .scanned →
        .told (.currentTransport key.onid key.tsid) ∈ notes ∨
          ∃ tuning target, transport.tuning = some tuning ∧ target.tuning.equivalence = tuning.equivalence ∧
            tuning.equivalence ∈ asked ∧ [.locked target, .left target true].Sublist notes) := by
  intro sweep notes asked key transport found
  have reasoned := reasoned_of_run platform candidates timeouts receiver acts
  have noted : asked = sweep.attempted.reverse :=
    ((requestsNoted_new platform candidates timeouts).actAll receiver acts).keys
  have accounted := reasoned.evolves.accounted (fun _ settled => absurd rfl settled) key
  unfold Topology.transportOf at accounted
  rw [found] at accounted
  unfold Topology.Accounted at accounted
  rw [Option.getD_some] at accounted
  constructor
  · intro failed
    rw [failed] at accounted
    obtain ⟨other, -⟩ | ⟨tuning, known, tried⟩ := accounted nofun
    · cases other
    · exact ⟨tuning, known, noted ▸ List.mem_reverse.mpr tried⟩
  · intro scanned
    rw [scanned] at accounted
    obtain ⟨-, told⟩ | ⟨tuning, known, tried, target, same, received⟩ := accounted nofun
    · exact .inl told
    · exact .inr ⟨tuning, target, known, same, noted ▸ List.mem_reverse.mpr tried, received⟩

end Sweep

namespace TwoTransports

open scoped HanDecoders

def network : Bytes :=
  [0x40, 0xF0, 0x33, 0x30, 0x01, 0xC1, 0x00, 0x00, 0xF0, 0x00, 0xF0, 0x26, 0x10, 0x04, 0x23, 0x3A, 0xF0,
    0x0D, 0x5A, 0x0B, 0x03, 0x71, 0xF5, 0x40, 0x1F, 0x81, 0x03, 0xFF, 0xFF, 0xFF, 0xFF, 0x20, 0x05, 0x23,
    0x3A, 0xF0, 0x0D, 0x5A, 0x0B, 0x02, 0xEB, 0xAE, 0x40, 0x1F, 0x81, 0x03, 0xFF, 0xFF, 0xFF, 0xFF, 0x00,
    0x00, 0x00, 0x00]

def acts : List SweepAct :=
  [.start, .event (.lock 1 true), .event (.delivery 1 (.bytes network)), .event .detuned,
    .event (.lock 2 false)]

def sweep : Sweep := .new .standard (.raster 34 36) .default

/-- The sweep ends when both transports were tried, with one of them received. -/
theorem outcome :
    let final := sweep.actAll .willing acts
    final.phase = .finished ∧ final.status = .complete ∧
      (final.topology.transports.get? ⟨0x233A, 0x1004⟩).map (·.status) = some .scanned ∧
      (final.topology.transports.get? ⟨0x233A, 0x2005⟩).map (·.status) = some .failed := by
  have ends : (Sweep.runWithin .willing 4 sweep acts).map (fun run =>
      (run.2.phase, run.2.status, (run.2.topology.transports.get? ⟨0x233A, 0x1004⟩).map (·.status),
        (run.2.topology.transports.get? ⟨0x233A, 0x2005⟩).map (·.status))) =
      some (.finished, .complete, some .scanned, some .failed) := by
    decide +kernel
  obtain ⟨⟨requests, final⟩, run, shape⟩ := Option.map_eq_some_iff.mp ends
  rw [(Sweep.run_of_within run).2]
  simp only [Prod.mk.injEq] at shape
  exact shape

theorem status_of_either :
    let final := sweep.actAll .willing acts
    let notes := sweep.notesOf .willing acts
    let asked := (Call.tunes final.calls).map (·.2.1.equivalence)
    (∃ received, final.topology.transports.get? ⟨0x233A, 0x1004⟩ = some received ∧ received.status = .scanned ∧
      (.told (.currentTransport 0x233A 0x1004) ∈ notes ∨
        ∃ tuning target, received.tuning = some tuning ∧ target.tuning.equivalence = tuning.equivalence ∧
          tuning.equivalence ∈ asked ∧ [.locked target, .left target true].Sublist notes)) ∧
    ∃ lost, final.topology.transports.get? ⟨0x233A, 0x2005⟩ = some lost ∧ lost.status = .failed ∧
      ∃ tuning, lost.tuning = some tuning ∧ tuning.equivalence ∈ asked := by
  obtain ⟨-, -, first, second⟩ := outcome
  obtain ⟨received, there, scanned⟩ := Option.map_eq_some_iff.mp first
  obtain ⟨lost, present, failed⟩ := Option.map_eq_some_iff.mp second
  refine ⟨⟨received, there, scanned, ?_⟩, lost, present, failed, ?_⟩
  · exact (Sweep.status_of_reason .standard (.raster 34 36 : Candidates) .default .willing acts
      _ received there).2 scanned
  · exact (Sweep.status_of_reason .standard (.raster 34 36 : Candidates) .default .willing acts
      _ lost present).1 failed

end TwoTransports

end DvbScan
