import DvbScan.Proofs.BoundedRun
import DvbScan.Proofs.ToldTopology
import DvbScan.Store.Topology

/-!
# What a blank sweep has collected

A sweep that comes to its end without a network, a bouquet, a transport or a service is called blank. Channel numbers
and names of regions are not asked for, and a network table can tell them of a transport that it says nothing else of.
So the batches of a blank sweep are empty but for these two, and they are empty altogether exactly if no section of the
whole run has told anything.
-/

namespace DvbScan

namespace Finding

def isNumber : Finding → Bool
  | logicalChannel _ _ _ _ _ => true
  | _ => false

def isRegion : Finding → Bool
  | region _ _ _ => true
  | _ => false

end Finding

namespace OrderedMap

variable {κ α : Type} [Ranked κ]

theorem isEmpty_alter (map : OrderedMap κ α) (key : κ) (change : Option α → α) :
    (map.alter key change).isEmpty = false := by
  rw [Bool.eq_false_iff]
  intro empty
  have absent := isEmpty_iff_get?.mp empty key
  rw [get?_alter_self] at absent
  cases absent

theorem isEmpty_insert (map : OrderedMap κ α) (key : κ) (value : α) : (map.insert key value).isEmpty = false :=
  isEmpty_alter map key _

theorem isEmpty_mapValues {β : Type} (map : OrderedMap κ α) (change : κ → α → β) :
    (map.mapValues change).isEmpty = map.isEmpty :=
  List.isEmpty_map

end OrderedMap

namespace Topology

open TopologyAct

/-- What only findings change, each in its own way, is after a run as its findings have left it. -/
theorem actAll_of_apply (blank : Topology → Bool) {silent : Finding → Bool}
    (applies : ∀ topology finding, blank (topology.apply finding) = (blank topology && silent finding))
    (listens : ∀ (topology : Topology) locked, blank { topology with locked } = blank topology)
    (settles : ∀ topology status test, blank (settleWhere topology status test) = blank topology)
    (topology : Topology) (acts : List TopologyAct) :
    blank (topology.actAll acts) = (blank topology && (findings acts).all silent) := by
  have step (topology : Topology) (act : TopologyAct) :
      blank (topology.act act) = (blank topology && (findings [act]).all silent) := by
    cases act with
    | find finding =>
      refine (applies topology finding).trans (congrArg _ ?_)
      exact (Bool.and_true _).symm
    | beginChannel tuning => exact (listens topology (some tuning)).trans (Bool.and_true _).symm
    | endChannel => exact (listens topology none).trans (Bool.and_true _).symm
    | settle status test => exact (settles topology status test).trans (Bool.and_true _).symm
  induction acts generalizing topology with
  | nil => exact (Bool.and_true _).symm
  | cons act rest ih =>
    rw [findings_cons, List.all_append, ← Bool.and_assoc, ← step]
    exact ih (topology.act act)

theorem isEmpty_apply (topology : Topology) (finding : Finding) :
    (topology.apply finding).isEmpty = (topology.isEmpty && (finding.isNumber || finding.isRegion)) := by
  cases finding with
  | networkName kind id name =>
    cases kind <;> simp [apply, isEmpty, OrderedMap.isEmpty_insert, Finding.isNumber, Finding.isRegion]
  | transportServices networkId onid tsid services =>
    obtain ⟨known, applied⟩ := topology.apply_transportServices networkId onid tsid services
    rw [applied]
    simp [withTransport, isEmpty, OrderedMap.isEmpty_alter, Finding.isNumber, Finding.isRegion]
  | transportTuning | service | currentTransport =>
    simp [apply, withService, withTransport, isEmpty, OrderedMap.isEmpty_alter, Finding.isNumber, Finding.isRegion]
  | logicalChannel | region => exact (Bool.and_true _).symm

theorem isEmpty_numbering_apply (topology : Topology) (finding : Finding) :
    (topology.apply finding).lcns.isEmpty = (topology.lcns.isEmpty && !finding.isNumber) ∧
      (topology.apply finding).regions.isEmpty = (topology.regions.isEmpty && !finding.isRegion) := by
  have kept : topology.lcns.isEmpty = (topology.lcns.isEmpty && true) ∧
      topology.regions.isEmpty = (topology.regions.isEmpty && true) :=
    ⟨(Bool.and_true _).symm, (Bool.and_true _).symm⟩
  cases finding with
  | networkName kind id name => cases kind <;> exact kept
  | transportServices networkId onid tsid services =>
    obtain ⟨known, applied⟩ := topology.apply_transportServices networkId onid tsid services
    rw [applied]
    exact kept
  | logicalChannel => exact ⟨(OrderedMap.isEmpty_insert ..).trans (Bool.and_false _).symm, kept.2⟩
  | region => exact ⟨kept.1, (OrderedMap.isEmpty_insert ..).trans (Bool.and_false _).symm⟩
  | transportTuning | service | currentTransport => exact kept

theorem isEmpty_settleWhere (topology : Topology) (status : TransportStatus)
    (test : TransportKey → Transport → Bool) : (topology.settleWhere status test).isEmpty = topology.isEmpty := by
  unfold isEmpty settleWhere
  rw [OrderedMap.isEmpty_mapValues]

/-- Channel numbers and regions leave a topology empty; every other finding fills it. -/
theorem isEmpty_actAll (topology : Topology) (acts : List TopologyAct) :
    (topology.actAll acts).isEmpty =
      (topology.isEmpty && (findings acts).all fun finding => finding.isNumber || finding.isRegion) :=
  actAll_of_apply isEmpty isEmpty_apply (fun _ _ => rfl) isEmpty_settleWhere topology acts

theorem lcns_actAll (topology : Topology) (acts : List TopologyAct) :
    (topology.actAll acts).lcns.isEmpty = (topology.lcns.isEmpty && (findings acts).all (!·.isNumber)) :=
  actAll_of_apply (·.lcns.isEmpty) (fun topology finding => (topology.isEmpty_numbering_apply finding).1)
    (fun _ _ => rfl) (fun _ _ _ => rfl) topology acts

theorem regions_actAll (topology : Topology) (acts : List TopologyAct) :
    (topology.actAll acts).regions.isEmpty = (topology.regions.isEmpty && (findings acts).all (!·.isRegion)) :=
  actAll_of_apply (·.regions.isEmpty) (fun topology finding => (topology.isEmpty_numbering_apply finding).2)
    (fun _ _ => rfl) (fun _ _ _ => rfl) topology acts

theorem batches_of_isEmpty {topology : Topology} (empty : topology.isEmpty = true) :
    topology.batches =
      [.source, .networkNames [], .tuning [], .transportServices [], .services [], .serviceNames [],
        .providerNames [], .serviceProviders [], .regions topology.regionRows,
        .networkLcns topology.networkLcnRows] := by
  unfold isEmpty at empty
  simp only [Bool.and_eq_true] at empty
  obtain ⟨⟨⟨networks, bouquets⟩, transports⟩, services⟩ := empty
  have networks := List.isEmpty_iff.mp networks
  have bouquets := List.isEmpty_iff.mp bouquets
  have transports := List.isEmpty_iff.mp transports
  have services := List.isEmpty_iff.mp services
  simp [batches, networkNameRows, tuningRows, transportServiceRows, serviceRows, serviceNameRows, providerNames,
    serviceProviderRows, networks, bouquets, transports, services]

theorem networkLcnRows_actAll_eq_nil_iff (acts : List TopologyAct) :
    (empty.actAll acts).networkLcnRows = [] ↔ ∀ finding ∈ findings acts, finding.isNumber = false := by
  have rows : (empty.actAll acts).networkLcnRows = [] ↔ (empty.actAll acts).lcns.isEmpty = true :=
    List.map_eq_nil_iff.trans List.isEmpty_iff.symm
  rw [rows, lcns_actAll]
  simp [empty, OrderedMap.empty, OrderedMap.isEmpty]

theorem regionRows_actAll_eq_nil_iff (acts : List TopologyAct) :
    (empty.actAll acts).regionRows = [] ↔ ∀ finding ∈ findings acts, finding.isRegion = false := by
  have rows : (empty.actAll acts).regionRows = [] ↔ (empty.actAll acts).regions.isEmpty = true :=
    List.map_eq_nil_iff.trans List.isEmpty_iff.symm
  rw [rows, regions_actAll]
  simp [empty, OrderedMap.empty, OrderedMap.isEmpty]

theorem networkLcns_mem_batches (topology : Topology) :
    .networkLcns topology.networkLcnRows ∈ topology.batches := by
  unfold batches
  simp

/-- The source has rows besides itself exactly if there are regions or channel numbers. -/
theorem batches_isEmpty_iff {topology : Topology} (empty : topology.isEmpty = true) :
    (∀ batch ∈ topology.batches, batch ≠ .source → batch.isEmpty = true) ↔
      topology.regionRows = [] ∧ topology.networkLcnRows = [] := by
  rw [batches_of_isEmpty empty]
  simp [Batch.isEmpty, Batch.size]

end Topology

namespace Sweep

open TopologyAct (findings)

variable {ι : Type} [CandidateSource ι] {sweep before after : Sweep ι}

def BlankWhenEmpty (sweep : Sweep ι) : Prop :=
  sweep.phase = .finished → sweep.status = .blank → sweep.topology.isEmpty = true

omit [CandidateSource ι] in
theorem BlankWhenEmpty.of_phase (phase : sweep.phase ≠ .finished) : sweep.BlankWhenEmpty :=
  fun finished => absurd finished phase

omit [CandidateSource ι] in
theorem blankWhenEmpty_hear (target : Target) (outcome : ChannelOutcome) (phase : sweep.phase = .scanning target) :
    (sweep.hear target outcome).sweep.BlankWhenEmpty := by
  cases outcome with
  | running =>
    apply BlankWhenEmpty.of_phase
    change sweep.phase ≠ .finished
    rw [phase]
    exact Phase.noConfusion
  | finished success => exact .of_phase Phase.noConfusion

theorem BlankWhenEmpty.prepare (blank : sweep.BlankWhenEmpty) (receiver : Receiver) (act : SweepAct) :
    (sweep.prepare receiver act).sweep.BlankWhenEmpty := by
  have noted := sweep.noted receiver act
  generalize sweep.prepare receiver act = progress, sweep.notes receiver act = more at noted ⊢
  cases noted with
  | ignored | started => exact blank
  | locked given phase => exact blankWhenEmpty_hear _ _ rfl
  | unlocked given phase => exact .of_phase Phase.noConfusion
  | delivered given filter delivery phase => exact blankWhenEmpty_hear _ _ phase
  | left given phase => exact .of_phase Phase.noConfusion
  | cancelled =>
    intro _ cancelled
    cases cancelled

omit [CandidateSource ι] in
theorem BlankWhenEmpty.onward (blank : before.BlankWhenEmpty) (acts : List TopologyAct) (quiet : findings acts = [])
    (made : after.topology = before.topology.actAll acts) (phase : after.phase = before.phase)
    (status : after.status = before.status) : after.BlankWhenEmpty := by
  intro finished none
  rw [made, Topology.isEmpty_actAll, quiet, blank (phase ▸ finished) (status ▸ none)]
  rfl

theorem BlankWhenEmpty.passing {passed : Sweep ι} {next : Plan} (blank : sweep.BlankWhenEmpty)
    (planned : sweep.plan = (passed, next)) : passed.BlankWhenEmpty := by
  obtain ⟨keys, candidates, given⟩ := sweep.plan_fst
  rw [planned] at given
  rw [show passed = _ from given]
  exact blank.onward [.settle .failed fun key _ => keys.contains key] rfl (sweep.topology_giveUp keys) rfl rfl

omit [CandidateSource ι] in
theorem harvestedStatus_ne_blank (sweep : Sweep ι) : sweep.harvestedStatus ≠ .blank := by
  unfold harvestedStatus
  split
  · decide
  · decide

omit [CandidateSource ι] in
theorem isEmpty_of_exhaustedStatus (blank : sweep.exhaustedStatus = .blank) : sweep.topology.isEmpty = true := by
  unfold exhaustedStatus at blank
  split at blank
  next empty => exact empty
  next => cases blank

theorem BlankWhenEmpty.advance (blank : sweep.BlankWhenEmpty) (receiver : Receiver) :
    (sweep.advance receiver).1.BlankWhenEmpty := by
  fun_induction sweep.advance receiver with
  | case1 sweep passed planned => exact fun _ none => absurd none passed.harvestedStatus_ne_blank
  | case2 sweep passed planned => exact fun _ none => isEmpty_of_exhaustedStatus none
  | case3 sweep passed step planned => exact blank.passing planned
  | case4 sweep passed target planned asked accepted => exact .of_phase Phase.noConfusion
  | case5 sweep passed target planned asked error refused fatal =>
    intro _ failed
    cases failed
  | case6 sweep passed target planned asked error refused passable _ ih =>
    obtain ⟨acts, quiet, made⟩ := asked.topology_settle target .failed
    exact ih ((blank.passing planned).onward acts quiet made rfl rfl)

theorem blankWhenEmpty_of_run (platform : Platform) (candidates : ι) (timeouts : Timeouts) (receiver : Receiver)
    (acts : List SweepAct) : ((new platform candidates timeouts).actAll receiver acts).BlankWhenEmpty := by
  apply actAll_of_act BlankWhenEmpty (.of_phase Phase.noConfusion)
  intro act _ sweep blank
  apply act_of_prepare BlankWhenEmpty
  · exact blank.prepare receiver act
  · exact fun moving blank => blank.advance receiver

/-- A sweep that is finished and blank was told channel numbers and regions at most, and has rows of these only. It has
no rows but the source exactly if nothing was told at all. -/
theorem batches_of_blank (platform : Platform) (candidates : ι) (timeouts : Timeouts) (receiver : Receiver)
    (acts : List SweepAct) :
    let sweep := (new platform candidates timeouts).actAll receiver acts
    let told := SweepNote.findings ((new platform candidates timeouts).notesOf receiver acts)
    sweep.phase = .finished → sweep.status = .blank →
      (∀ finding ∈ told, finding.isNumber = true ∨ finding.isRegion = true) ∧
        sweep.topology.batches =
          [.source, .networkNames [], .tuning [], .transportServices [], .services [], .serviceNames [],
            .providerNames [], .serviceProviders [], .regions sweep.topology.regionRows,
            .networkLcns sweep.topology.networkLcnRows] ∧
        (sweep.topology.regionRows = [] ↔ ∀ finding ∈ told, finding.isRegion = false) ∧
        (sweep.topology.networkLcnRows = [] ↔ ∀ finding ∈ told, finding.isNumber = false) ∧
        ((∀ batch ∈ sweep.topology.batches, batch ≠ .source → batch.isEmpty = true) ↔ told = []) := by
  intro sweep told finished blank
  have empty : sweep.topology.isEmpty = true :=
    blankWhenEmpty_of_run platform candidates timeouts receiver acts finished blank
  obtain ⟨made, topology, same⟩ := collects_of_run platform candidates timeouts receiver acts
  have topology : sweep.topology = Topology.empty.actAll made := topology
  have same : findings made = told := same
  have kinds : ∀ finding ∈ told, finding.isNumber = true ∨ finding.isRegion = true := by
    rw [topology, Topology.isEmpty_actAll, same] at empty
    intro finding member
    exact (Bool.or_eq_true ..).mp (List.all_eq_true.mp empty finding member)
  have regions := Topology.regionRows_actAll_eq_nil_iff made
  have numbers := Topology.networkLcnRows_actAll_eq_nil_iff made
  rw [← topology, same] at regions numbers
  refine ⟨kinds, Topology.batches_of_isEmpty empty, regions, numbers, ?_⟩
  rw [Topology.batches_isEmpty_iff empty, regions, numbers]
  constructor
  · rintro ⟨unnamed, unnumbered⟩
    refine List.eq_nil_iff_forall_not_mem.mpr fun finding member => ?_
    rcases kinds finding member with number | region
    · exact absurd number (by simp [unnumbered finding member])
    · exact absurd region (by simp [unnamed finding member])
  · intro nothing
    rw [nothing]
    exact ⟨List.forall_mem_nil _, List.forall_mem_nil _⟩

end Sweep

namespace LoneNumber

open scoped HanDecoders

def network : Bytes :=
  [0x40, 0xF0, 0x19, 0x30, 0x01, 0xC1, 0x00, 0x00, 0xF0, 0x00, 0xF0, 0x0C, 0x10, 0x04, 0x23, 0x3A, 0xF0,
    0x06, 0x83, 0x04, 0x10, 0x4B, 0xFC, 0x01, 0x00, 0x00, 0x00, 0x00]

def acts : List SweepAct :=
  [.start, .event (.lock 1 true), .event (.delivery 1 (.bytes network)), .event .detuned]

def sweep : Sweep := .new .freeview (.raster 34 34) .default

theorem outcome :
    let final := sweep.actAll .willing acts
    final.phase = .finished ∧ final.status = .blank ∧
      final.topology.networkLcnRows = [⟨12289, 4171, 0, 1, 0⟩] := by
  have ends : (Sweep.runWithin .willing 4 sweep acts).map (fun run =>
      (run.2.phase, run.2.status, run.2.topology.networkLcnRows)) =
      some (.finished, .blank, [⟨12289, 4171, 0, 1, 0⟩]) := by
    decide +kernel
  obtain ⟨⟨requests, final⟩, run, shape⟩ := Option.map_eq_some_iff.mp ends
  rw [(Sweep.run_of_within run).2]
  simp only [Prod.mk.injEq] at shape
  exact shape

/-- The sweep was told the number, and nothing of a network, a transport or a service. -/
theorem batches_of_blank_number :
    let final := sweep.actAll .willing acts
    let told := SweepNote.findings (sweep.notesOf .willing acts)
    (final.phase = .finished ∧ final.status = .blank) ∧
      (∀ finding ∈ told, finding.isNumber = true ∨ finding.isRegion = true) ∧
      ¬(∀ finding ∈ told, finding.isNumber = false) := by
  obtain ⟨finished, blank, rows⟩ := outcome
  obtain ⟨kinds, -, -, numbers, -⟩ :=
    Sweep.batches_of_blank .freeview (.raster 34 34 : Candidates) .default .willing acts finished blank
  refine ⟨⟨finished, blank⟩, kinds, fun unnumbered => ?_⟩
  have none := numbers.mpr unnumbered
  exact List.cons_ne_nil _ _ (rows.symm.trans none)

theorem number_of_blank :
    let final := sweep.actAll .willing acts
    final.phase = .finished ∧ final.status = .blank ∧
      .networkLcns [⟨12289, 4171, 0, 1, 0⟩] ∈ final.topology.batches ∧
      ¬∀ batch ∈ final.topology.batches, batch ≠ .source → batch.isEmpty = true := by
  obtain ⟨finished, blank, rows⟩ := outcome
  have written := (sweep.actAll .willing acts).topology.networkLcns_mem_batches
  rw [rows] at written
  refine ⟨finished, blank, written, fun all => ?_⟩
  exact Bool.false_ne_true (all _ written Batch.noConfusion)

end LoneNumber

end DvbScan
