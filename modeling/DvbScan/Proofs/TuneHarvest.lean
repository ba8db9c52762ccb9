import DvbScan.Proofs.BoundedRun
import DvbScan.Proofs.Lookup
import Mathlib.Data.List.TakeWhile

/-!
# The policy at the moment of a request

The policy is checked before every request to tune, but between the check and the request the sweep gives up
the transports that wait on tried channels. Where those were the last that waited, the policy is satisfied
by the time of the request, which is made all the same. That is the only case.
-/

namespace DvbScan

namespace Topology

def abandon (keys : List TransportKey) (entry : TransportKey × Transport) : TransportKey × Transport :=
  (entry.1, if keys.contains entry.1 then { entry.2 with status := .failed } else entry.2)

theorem entries_foldl_setStatus (keys : List TransportKey) (topology : Topology) :
    (keys.foldl (fun topology key => topology.setStatus key .failed) topology).transports.entries =
      topology.transports.entries.map (abandon keys) := by
  induction keys generalizing topology with
  | nil => exact (List.map_id' _).symm
  | cons key rest ih =>
    rw [List.foldl_cons, ih]
    change ((topology.transports.entries.map _).map _) = _
    rw [List.map_map]
    apply List.map_congr_left
    intro entry _
    unfold abandon
    by_cases picked : entry.1 = key
    · subst picked
      simp
    · simp [picked]

theorem allServicesFound_foldl_setStatus (keys : List TransportKey) (topology : Topology) :
    (keys.foldl (fun topology key => topology.setStatus key .failed) topology).allServicesFound =
      topology.allServicesFound := by
  have entries := entries_foldl_setStatus keys topology
  obtain ⟨transports, given⟩ := foldl_setStatus_eq keys topology
  rw [given] at entries ⊢
  have lists : transports.values.flatMap (fun transport => OrderedSet.toList transport.serviceIds) =
      topology.transports.values.flatMap
        (fun transport => OrderedSet.toList transport.serviceIds) := by
    unfold OrderedMap.values
    rw [show transports.entries = _ from entries, List.map_map, List.flatMap_map, List.flatMap_map]
    congr 1
    funext entry
    unfold abandon
    simp only [Function.comp_apply]
    split
    · rfl
    · rfl
  unfold allServicesFound referencedServices observedServices
  simp only [lists]

theorem allDiscoveredScanned_iff (topology : Topology) :
    topology.allDiscoveredScanned = true ↔
      topology.transports.entries ≠ [] ∧
        ∀ entry ∈ topology.transports.entries, entry.2.status ≠ .pending := by
  unfold allDiscoveredScanned OrderedMap.isEmpty OrderedMap.values
  rw [Bool.and_eq_true, List.all_map, List.all_eq_true]
  refine and_congr (by simp) (forall_congr' fun entry => forall_congr' fun member => ?_)
  simp

theorem allDiscoveredScanned_foldl_setStatus (keys : List TransportKey) (topology : Topology) :
    (keys.foldl (fun topology key => topology.setStatus key .failed) topology).allDiscoveredScanned =
        true ↔
      topology.transports.entries ≠ [] ∧
        ∀ entry ∈ topology.transports.entries, entry.2.status = .pending → entry.1 ∈ keys := by
  rw [allDiscoveredScanned_iff, entries_foldl_setStatus, List.forall_mem_map]
  refine and_congr (by simp) (forall_congr' fun entry => forall_congr' fun member => ?_)
  unfold abandon
  by_cases given : entry.1 ∈ keys
  · simp [given]
  · simp [given]

theorem mem_pending {topology : Topology} {key : TransportKey} {tuning : Tuning} :
    (key, tuning) ∈ topology.pending ↔
      ∃ transport, (key, transport) ∈ topology.transports.entries ∧ transport.status = .pending ∧
        transport.tuning = some tuning := by
  unfold pending
  rw [List.mem_filterMap]
  constructor
  · rintro ⟨⟨other, transport⟩, member, shape⟩
    obtain ⟨known, waiting, same⟩ := Option.map_eq_some_iff.mp shape
    cases same
    unfold Transport.waiting? at waiting
    split at waiting
    next status => exact ⟨transport, member, status, waiting⟩
    next => cases waiting
  · rintro ⟨transport, member, status, known⟩
    refine ⟨(key, transport), member, ?_⟩
    simp only [Transport.waiting?, status, if_true, known, Option.map_some]

end Topology

namespace Sweep

variable {ι : Type} [CandidateSource ι]

omit [CandidateSource ι] in
theorem isHarvested_iff (sweep : Sweep ι) :
    sweep.isHarvested = true ↔
      sweep.platform.policy.isEmpty = false ∧
      (sweep.platform.policy.atLeastTwo = true →
        2 ≤ sweep.channelsScanned ∧ sweep.anyComplete = true) ∧
      (sweep.platform.policy.allDiscovered = true → sweep.topology.allDiscoveredScanned = true) ∧
      (sweep.platform.policy.allServices = true → sweep.topology.allServicesFound = true) := by
  unfold isHarvested
  generalize sweep.platform.policy = policy
  simp only [Bool.and_eq_true, Bool.or_eq_true, Bool.not_eq_true', decide_eq_true_eq, and_assoc]
  refine and_congr Iff.rfl (and_congr ?_ (and_congr ?_ ?_))
  · cases policy.atLeastTwo <;> simp
  · cases policy.allDiscovered <;> simp
  · cases policy.allServices <;> simp

/-- Nothing is missing for the policy but that every known transport was tried, and those that wait are all
expected on channels that were tried. -/
structure GivesUpLast (sweep : Sweep ι) : Prop where
  demanded : sweep.platform.policy.allDiscovered = true
  channels : sweep.platform.policy.atLeastTwo = true →
    2 ≤ sweep.channelsScanned ∧ sweep.anyComplete = true
  services : sweep.platform.policy.allServices = true → sweep.topology.allServicesFound = true
  some_wait : ∃ entry ∈ sweep.topology.transports.entries, entry.2.status = .pending
  all_tried : ∀ entry ∈ sweep.topology.transports.entries, entry.2.status = .pending →
    ∃ tuning, entry.2.tuning = some tuning ∧ sweep.isAttempted tuning = true

omit [CandidateSource ι] in
theorem passedOver_all_iff (sweep : Sweep ι) :
    (∀ entry ∈ sweep.topology.transports.entries, entry.2.status = .pending →
        entry.1 ∈ sweep.announcedTarget.1) ↔
      ∀ entry ∈ sweep.topology.transports.entries, entry.2.status = .pending →
        ∃ tuning, entry.2.tuning = some tuning ∧ sweep.isAttempted tuning = true := by
  constructor
  · intro passed entry member waits
    obtain ⟨⟨key, tuning⟩, taken, same⟩ := List.mem_map.mp (passed entry member waits)
    have waiting : (key, tuning) ∈ sweep.topology.pending :=
      (List.takeWhile_sublist _).subset taken
    obtain ⟨transport, present, -, known⟩ := Topology.mem_pending.mp waiting
    have tried : sweep.isAttempted tuning = true := by
      have holds := List.mem_takeWhile_imp taken
      exact holds
    obtain ⟨key, other⟩ := entry
    cases same
    rw [OrderedMap.eq_of_mem_entries member present]
    exact ⟨tuning, known, tried⟩
  · intro tried entry member waits
    have all_tried : ∀ waiting ∈ sweep.topology.pending, sweep.isAttempted waiting.2 = true := by
      rintro ⟨key, tuning⟩ waiting
      obtain ⟨transport, present, status, known⟩ := Topology.mem_pending.mp waiting
      obtain ⟨other, same, attempted⟩ := tried (key, transport) present status
      cases known.symm.trans same
      exact attempted
    obtain ⟨tuning, known, -⟩ := tried entry member waits
    have waiting : (entry.1, tuning) ∈ sweep.topology.pending :=
      Topology.mem_pending.mpr ⟨entry.2, member, waits, known⟩
    unfold announcedTarget
    simp only
    rw [List.takeWhile_eq_self_iff.mpr all_tried]
    exact List.mem_map.mpr ⟨_, waiting, rfl⟩

/-- A planned request is made with the policy satisfied exactly if the plan gave up the last transports that
the policy waited for. -/
theorem isHarvested_ask_iff {sweep passed : Sweep ι} {target : Target}
    (planned : sweep.plan = (passed, .request target)) :
    (passed.ask target).isHarvested = true ↔ sweep.GivesUpLast := by
  obtain ⟨unsatisfied, chosen⟩ := plan_eq_request planned
  obtain ⟨candidates, given⟩ := sweep.nextTarget_fst
  rw [chosen] at given
  have passed_eq : passed = { sweep.giveUp sweep.announcedTarget.1 with candidates } := given
  have discovered : (passed.ask target).topology.allDiscoveredScanned = true ↔
      sweep.topology.transports.entries ≠ [] ∧
        ∀ entry ∈ sweep.topology.transports.entries, entry.2.status = .pending →
          ∃ tuning, entry.2.tuning = some tuning ∧ sweep.isAttempted tuning = true := by
    rw [passed_eq, ← passedOver_all_iff]
    exact Topology.allDiscoveredScanned_foldl_setStatus _ _
  have found : (passed.ask target).topology.allServicesFound = sweep.topology.allServicesFound := by
    rw [passed_eq]
    exact Topology.allServicesFound_foldl_setStatus _ _
  have kept : (passed.ask target).platform = sweep.platform ∧
      (passed.ask target).channelsScanned = sweep.channelsScanned ∧
      (passed.ask target).anyComplete = sweep.anyComplete := by
    rw [passed_eq]
    exact ⟨rfl, rfl, rfl⟩
  rw [isHarvested_iff, kept.1, kept.2.1, kept.2.2, discovered, found]
  have missing : ¬sweep.isHarvested = true := by rw [unsatisfied]; exact Bool.false_ne_true
  rw [isHarvested_iff] at missing
  constructor
  · rintro ⟨demands, channels, all, services⟩
    have lacking : ¬(sweep.platform.policy.allDiscovered = true →
        sweep.topology.allDiscoveredScanned = true) :=
      fun discovered => missing ⟨demands, channels, discovered, services⟩
    obtain ⟨demanded, undiscovered⟩ := Classical.not_imp.mp lacking
    obtain ⟨known, tried⟩ := all demanded
    rw [Topology.allDiscoveredScanned_iff] at undiscovered
    refine ⟨demanded, channels, services, ?_, tried⟩
    apply Classical.byContradiction
    intro settled
    exact undiscovered ⟨known, fun entry member waits => settled ⟨entry, member, waits⟩⟩
  · rintro ⟨demanded, channels, services, ⟨entry, member, -⟩, tried⟩
    refine ⟨?_, channels, fun _ => ⟨List.ne_nil_of_mem member, tried⟩, services⟩
    unfold HarvestPolicy.isEmpty
    rw [demanded, Bool.or_true]
    rfl

/-- A run notes the requests that it makes, with the states that it makes them in, and no others. Every one
is planned with the policy unsatisfied, and is made with the policy satisfied exactly if its plan gave up
the last transports that the policy waited for. -/
theorem isHarvested_at_request_iff (platform : Platform) (candidates : ι) (timeouts : Timeouts)
    (receiver : Receiver) (acts : List SweepAct) :
    let sweep := new platform candidates timeouts
    Call.tunes (sweep.actAll receiver acts).calls =
        (sweep.requestsOf receiver acts).map (·.noted) ∧
      ∀ request ∈ sweep.requestsOf receiver acts,
        request.before.isHarvested = false ∧
          (request.asked.isHarvested = true ↔ request.before.GivesUpLast) := by
  refine ⟨tunes_actAll _ receiver acts, fun request made => ?_⟩
  have planned := plan_of_mem_requestsOf made
  exact ⟨(plan_eq_request planned).1, isHarvested_ask_iff planned⟩

end Sweep

namespace LateRequest

open scoped HanDecoders

def network : Bytes :=
  [0x40, 0xF0, 0x20, 0x30, 0x01, 0xC1, 0x00, 0x00, 0xF0, 0x00, 0xF0, 0x13, 0x10, 0x04, 0x23, 0x3A, 0xF0,
    0x0D, 0x5A, 0x0B, 0x03, 0x71, 0xF5, 0x40, 0x1F, 0x81, 0x03, 0xFF, 0xFF, 0xFF, 0xFF, 0x00, 0x00, 0x00,
    0x00]

/-- The channel at 578 MHz does not lock. The one at 586 MHz does, tells its network and is lost. -/
def acts : List SweepAct :=
  [.start, .event (.lock 1 false), .event (.lock 2 true), .event (.delivery 1 (.bytes network)),
    .event .detuned]

def sweep : Sweep := .new .standard (.raster 34 36) .default

/-- The channel at 594 MHz is asked for when the only known transport has been given up. -/
theorem request_when_harvested :
    ∃ request ∈ sweep.requestsOf .willing acts,
      request.asked.isHarvested = true ∧ request.target.transport = none := by
  have answers : (Sweep.runWithin .willing 4 sweep acts).map (fun run =>
      run.1.map fun request => (request.asked.isHarvested, request.target.transport)) =
      some [(false, none), (false, none), (true, none)] := by
    decide +kernel
  obtain ⟨⟨requests, final⟩, run, shape⟩ := Option.map_eq_some_iff.mp answers
  rw [(Sweep.run_of_within run).1]
  have late : (true, none) ∈ requests.map fun request =>
      (request.asked.isHarvested, request.target.transport) := by
    rw [shape]
    decide
  obtain ⟨request, made, same⟩ := List.mem_map.mp late
  exact ⟨request, made, (Prod.mk.inj same).1, (Prod.mk.inj same).2⟩

theorem givesUpLast_at_request :
    ∃ request ∈ sweep.requestsOf .willing acts, request.before.GivesUpLast := by
  have answers : (Sweep.runWithin .willing 4 sweep acts).map (fun run =>
      run.1.map (·.asked.isHarvested)) = some [false, false, true] := by
    decide +kernel
  obtain ⟨⟨requests, final⟩, run, shape⟩ := Option.map_eq_some_iff.mp answers
  have late : true ∈ requests.map (·.asked.isHarvested) := by
    rw [shape]
    decide
  obtain ⟨request, made, harvested⟩ := List.mem_map.mp late
  rw [← (Sweep.run_of_within run).1] at made
  have exact_when := (Sweep.isHarvested_at_request_iff .standard (.raster 34 36 : Candidates) .default
    .willing acts).2 request made
  exact ⟨request, made, exact_when.2.mp harvested⟩

end LateRequest

end DvbScan
