import DvbScan.Proofs.SweepLifecycle
import DvbScan.Proofs.SweepPlans

/-!
# A stalled sweep ends

While nothing happens but silences, no transport is announced and every request uses up a transport that waits or a
candidate. A sweep over a source that ends therefore comes to its end, whatever the receiver answers: one silence
for each that is left, and one for the target that is tried at the time.
-/

namespace DvbScan

namespace Topology

theorem equivalence_ne_of_mem_pending {topology : Topology} {tuning : Tuning} {status : TransportStatus}
    (settled : status ≠ .pending) {entry : TransportKey × Tuning}
    (waits : entry ∈ (topology.settleEquivalent tuning status).pending) :
    entry.2.equivalence ≠ tuning.equivalence := by
  intro same
  obtain ⟨transport, present, waiting, known⟩ := mem_pending.mp waits
  rw [OrderedMap.mem_entries_iff_get?] at present
  unfold settleEquivalent settleWhere at present
  rw [OrderedMap.get?_mapValues] at present
  obtain ⟨former, -, given⟩ := Option.map_eq_some_iff.mp present
  split at given
  next =>
    rw [← given] at waiting
    exact settled waiting
  next elsewhere =>
    rw [given] at elsewhere
    have waits : transport.waiting? = some entry.2 := waiting?_eq_some_iff.mpr ⟨waiting, known⟩
    refine elsewhere ?_
    change transport.waiting?.any _ = true
    rw [waits, Option.any_some, same, beq_self_eq_true]

end Topology

namespace Sweep

open CandidateSource (EndsAfter)

variable {ι : Type} {sweep : Sweep ι}

theorem pending_settle_sublist_settleEquivalent (sweep : Sweep ι) (target : Target) {status : TransportStatus}
    (settled : status ≠ .pending) :
    (sweep.settle target status).topology.pending.Sublist
      (sweep.topology.settleEquivalent target.tuning status).pending := by
  unfold settle
  cases target.transport with
  | none => exact List.Sublist.refl _
  | some key => exact Topology.pending_settleWhere_sublist _ settled _

theorem pending_settle_sublist (sweep : Sweep ι) (target : Target) {status : TransportStatus}
    (settled : status ≠ .pending) :
    (sweep.settle target status).topology.pending.Sublist sweep.topology.pending :=
  (sweep.pending_settle_sublist_settleEquivalent target settled).trans
    (Topology.pending_settleWhere_sublist _ settled _)

theorem pending_giveUp_sublist (sweep : Sweep ι) (keys : List TransportKey) :
    (sweep.giveUp keys).topology.pending.Sublist sweep.topology.pending := by
  rw [topology_giveUp]
  exact Topology.pending_settleWhere_sublist _ (by decide) _

variable [CandidateSource ι]

theorem left_of_request {passed : Sweep ι} {target : Target} (planned : sweep.plan = (passed, .request target))
    {all : List Tuning} (ends : EndsAfter sweep.candidates all) :
    ∃ left, EndsAfter passed.candidates left ∧
      ((passed.ask target).settle target .failed).topology.pending.length + left.length <
        sweep.topology.pending.length + all.length := by
  have failed : TransportStatus.failed ≠ .pending := by decide
  have cases := sweep.planned
  rw [planned] at cases
  have fewer := (passed.ask target).pending_settle_sublist target failed
  cases cases with
  | @announced entry unsatisfied waits =>
    refine ⟨all, ends, Nat.add_lt_add_right ?_ _⟩
    replace fewer := fewer.trans (sweep.pending_giveUp_sublist _)
    refine Nat.lt_of_le_of_ne fewer.length_le fun same => ?_
    rw [← fewer.eq_of_length same] at waits
    have still := (pending_settle_sublist_settleEquivalent _ _ failed).subset waits
    exact Topology.equivalence_ne_of_mem_pending failed still rfl
  | candidate unsatisfied unannounced yields tried =>
    obtain ⟨left, rfl, rest⟩ := ends.of_yields yields
    refine ⟨left, rest, ?_⟩
    replace fewer : List.Sublist _ (sweep.giveUp sweep.announcedTarget.1).topology.pending := fewer
    rw [pending_giveUp_of_none unannounced] at fewer
    have none := fewer.length_le
    simp only [List.length_nil, List.length_append, List.length_cons] at none ⊢
    omega

/-- The sweep is finished, or it waits for a lock and has fewer than so many transports and candidates left, those
not counted that wait on the same channel. -/
def WindsDown (sweep : Sweep ι) (count : Nat) : Prop :=
  sweep.phase = .finished ∨ ∃ attempt target left, sweep.phase = .tuning attempt target ∧
    EndsAfter sweep.candidates left ∧
    (sweep.settle target .failed).topology.pending.length + left.length < count

theorem WindsDown.mono {count count' : Nat} (winds : sweep.WindsDown count) (more : count ≤ count') :
    sweep.WindsDown count' :=
  winds.imp_right fun ⟨attempt, target, left, phase, ends, fewer⟩ =>
    ⟨attempt, target, left, phase, ends, fewer.trans_le more⟩

theorem WindsDown.finished (winds : sweep.WindsDown 0) : sweep.phase = .finished :=
  winds.resolve_right fun ⟨_, _, _, _, _, fewer⟩ => absurd fewer (Nat.not_lt_zero _)

theorem windsDown_advance (sweep : Sweep ι) (receiver : Receiver) :
    ∀ all, EndsAfter sweep.candidates all →
      (∀ step, (sweep.advance receiver).2 ≠ some (.broken step)) ∧
        (sweep.advance receiver).1.WindsDown (sweep.topology.pending.length + all.length) := by
  fun_induction sweep.advance receiver with
  | case1 sweep passed planned => exact fun _ _ => ⟨fun _ broken => (by cases broken), .inl rfl⟩
  | case2 sweep passed planned => exact fun _ _ => ⟨fun _ broken => (by cases broken), .inl rfl⟩
  | case3 sweep passed step planned =>
    intro all ends
    have cases := sweep.planned
    rw [planned] at cases
    cases cases with
    | stuck unsatisfied unannounced yields tried endless => exact absurd ends (endless all)
  | case4 sweep passed target planned asked =>
    intro all ends
    obtain ⟨left, rest, fewer⟩ := left_of_request planned ends
    exact ⟨fun _ broken => (by cases broken), .inr ⟨_, target, left, rfl, rest, fewer⟩⟩
  | case5 sweep passed target planned asked error refused =>
    exact fun _ _ => ⟨fun _ broken => (by cases broken), .inl rfl⟩
  | case6 sweep passed target planned asked error refused passable _ ih =>
    intro all ends
    obtain ⟨left, rest, fewer⟩ := left_of_request planned ends
    obtain ⟨whole, winds⟩ := ih _ rest
    exact ⟨whole, winds.mono (Nat.le_of_lt fewer)⟩

theorem stall_of_tuning {attempt : AttemptId} {target : Target} (phase : sweep.phase = .tuning attempt target)
    (receiver : Receiver) : sweep.stall receiver = (sweep.passOver target).advance receiver := by
  unfold stall missing? handle react
  simp only [phase, if_true, Bool.false_eq_true, if_false]
  rfl

theorem stall_of_scanning {target : Target} (phase : sweep.phase = .scanning target) (receiver : Receiver) :
    sweep.stall receiver = (sweep.leaveChannel target sweep.channel.success).advance receiver := by
  unfold stall missing? handle react
  simp only [phase]
  rfl

theorem stall_of_finished (finished : sweep.phase = .finished) (receiver : Receiver) :
    sweep.stall receiver = (sweep, none) := by
  unfold stall missing?
  rw [finished]

theorem windsDown_stall (active : sweep.phase ≠ .idle) {all : List Tuning}
    (ends : EndsAfter sweep.candidates all) (receiver : Receiver) :
    (∀ step, (sweep.stall receiver).2 ≠ some (.broken step)) ∧
      (sweep.stall receiver).1.WindsDown (sweep.topology.pending.length + all.length) := by
  cases phase : sweep.phase with
  | idle => exact absurd phase active
  | finished =>
    rw [stall_of_finished phase]
    exact ⟨nofun, .inl phase⟩
  | tuning attempt target =>
    rw [stall_of_tuning phase]
    obtain ⟨whole, winds⟩ := (sweep.passOver target).windsDown_advance receiver _ ends
    refine ⟨whole, winds.mono (Nat.add_le_add_right ?_ _)⟩
    exact (pending_settle_sublist _ target (by decide)).length_le
  | scanning target =>
    rw [stall_of_scanning phase]
    obtain ⟨whole, winds⟩ :=
      (sweep.leaveChannel target sweep.channel.success).windsDown_advance receiver _ ends
    refine ⟨whole, winds.mono (Nat.add_le_add_right ?_ _)⟩
    refine (pending_settle_sublist _ target ?_).length_le
    split
    · decide
    · decide

theorem WindsDown.stall {count : Nat} (winds : sweep.WindsDown (count + 1)) (receiver : Receiver) :
    (∀ step, (sweep.stall receiver).2 ≠ some (.broken step)) ∧ (sweep.stall receiver).1.WindsDown count := by
  rcases winds with finished | ⟨attempt, target, left, phase, ends, fewer⟩
  · rw [stall_of_finished finished]
    exact ⟨nofun, .inl finished⟩
  · rw [stall_of_tuning phase]
    obtain ⟨whole, winds⟩ := (sweep.passOver target).windsDown_advance receiver _ ends
    exact ⟨whole, winds.mono (Nat.le_of_lt_succ fewer)⟩

theorem WindsDown.stalls {count : Nat} (winds : sweep.WindsDown count) (receiver : Receiver) (silences : Nat) :
    (∀ step, ((sweep.actAll receiver (.replicate silences .stall)).stall receiver).2 ≠ some (.broken step)) ∧
      (sweep.actAll receiver (.replicate silences .stall)).WindsDown (count - silences) := by
  induction silences generalizing sweep count with
  | zero => exact ⟨((winds.mono (Nat.le_succ count)).stall receiver).1, winds⟩
  | succ silences ih =>
    have further := ih ((winds.mono (by omega)).stall receiver : _ ∧ WindsDown _ (count - 1)).2
    rw [Nat.sub_sub, Nat.add_comm 1] at further
    exact further

/-- Every act of the run comes to an end, and none breaks down. -/
def Unbroken (sweep : Sweep ι) (receiver : Receiver) (acts : List SweepAct) : Prop :=
  ∀ earlier act later, acts = earlier ++ act :: later →
    ∀ step, ((sweep.actAll receiver earlier).act receiver act).2 ≠ some (.broken step)

theorem Unbroken.phase {receiver : Receiver} {acts : List SweepAct} (unbroken : sweep.Unbroken receiver acts)
    (started : .start ∈ acts) : (sweep.actAll receiver acts).phase ≠ .idle := by
  obtain ⟨before, after, rfl⟩ := List.append_of_mem started
  rw [actAll_append]
  refine phase_actAll (phase_act (.inl rfl) (unbroken _ _ _ rfl)) fun earlier act later shape => ?_
  have whole := unbroken (before ++ .start :: earlier) act later (by rw [shape]; simp)
  rw [actAll_append] at whole
  exact whole

theorem candidates_prepare (sweep : Sweep ι) (receiver : Receiver) {act : SweepAct} (given : act ≠ .start) :
    (sweep.prepare receiver act).sweep.candidates = sweep.candidates := by
  have unread {heard : Sweep ι} (target : Target) (outcome : ChannelOutcome)
      (same : heard.candidates = sweep.candidates) :
      (heard.hear target outcome).sweep.candidates = sweep.candidates := by
    cases outcome with
    | running => exact same
    | finished success => exact same
  have prepared := sweep.prepared receiver act
  generalize sweep.prepare receiver act = progress at prepared ⊢
  cases prepared with
  | ignored => rfl
  | started => exact absurd rfl given
  | locked phase => exact unread _ _ rfl
  | unlocked given phase => rfl
  | delivered filter delivery phase => exact unread _ _ rfl
  | left given phase => rfl
  | cancelled => rfl

theorem whole_of_ends {receiver : Receiver} {act : SweepAct} {all : List Tuning}
    (ends : EndsAfter (sweep.prepare receiver act).sweep.candidates all) (step : Breakdown) :
    (sweep.act receiver act).2 ≠ some (.broken step) := by
  rw [act_eq_complete]
  cases progress : sweep.prepare receiver act with
  | waits waiting => exact nofun
  | movesOn moving =>
    rw [progress] at ends
    exact (moving.windsDown_advance receiver _ ends).1 step

/-- Whatever the receiver answers, every call to a started sweep returns if the source has tunings left and then ends,
or, for a start, if it does after a reset. And if nothing happens but silences from there, each of them returns, and
after one more than there are transports that wait and tunings left the sweep is finished. -/
theorem finished_of_stalls (platform : Platform) (candidates : ι) (timeouts : Timeouts) (receiver : Receiver)
    {acts : List SweepAct} {remaining : List Tuning} (started : .start ∈ acts)
    (unbroken : (new platform candidates timeouts).Unbroken receiver acts)
    (ends : EndsAfter ((new platform candidates timeouts).actAll receiver acts).candidates remaining) :
    let sweep := (new platform candidates timeouts).actAll receiver acts
    (∀ act, (act = .start → ∃ all, EndsAfter (CandidateSource.reset sweep.candidates) all) →
      ∀ step, (sweep.act receiver act).2 ≠ some (.broken step)) ∧
    ∀ silences,
      (∀ step, ((sweep.actAll receiver (.replicate silences .stall)).stall receiver).2 ≠
        some (.broken step)) ∧
      (sweep.topology.pending.length + remaining.length + 1 ≤ silences →
        (sweep.actAll receiver (.replicate silences .stall)).isFinished = true) := by
  intro sweep
  constructor
  · intro act resets
    by_cases restart : act = .start
    · obtain ⟨all, rewound⟩ := resets restart
      subst restart
      exact whole_of_ends rewound
    · rw [← candidates_prepare _ receiver restart] at ends
      exact whole_of_ends ends
  · intro silences
    obtain ⟨whole, winds⟩ := windsDown_stall (unbroken.phase started) ends receiver
    cases silences with
    | zero => exact ⟨whole, nofun⟩
    | succ silences =>
      obtain ⟨whole, winds⟩ := winds.stalls receiver silences
      refine ⟨whole, fun enough => ?_⟩
      rw [Nat.sub_eq_zero_of_le (Nat.le_of_succ_le_succ enough)] at winds
      exact beq_iff_eq.mpr winds.finished

end Sweep

namespace LateRequest

open scoped HanDecoders

def heard : List SweepAct :=
  [.start, .event (.lock 1 true), .event (.delivery 1 (.bytes network))]

/-- One transport waits then and two candidates are left, so four silences end the sweep. -/
theorem finished_of_silences :
    let before := sweep.actAll .willing heard
    before.topology.pending.length = 1 ∧ before.candidates.rest.length = 2 ∧
      (before.actAll .willing (.replicate 4 .stall)).isFinished = true := by
  intro before
  have ends : (Sweep.runWithin .willing 4 sweep heard).map (fun run =>
      (run.2.topology.pending.length, run.2.candidates.rest.length)) = some (1, 2) := by
    decide +kernel
  obtain ⟨⟨requests, final⟩, run, shape⟩ := Option.map_eq_some_iff.mp ends
  have reached : sweep.actAll .willing heard = final := (Sweep.run_of_within run).2
  have counts : final.topology.pending.length = 1 ∧ final.candidates.rest.length = 2 := Prod.mk.inj shape
  have started : .start ∈ heard := by decide
  have unbroken : sweep.Unbroken .willing heard := fun _ _ _ _ step broken =>
    Candidates.not_fault rfl step (Sweep.fault_of_broken broken)
  have ending : (sweep.actAll .willing heard).candidates.ending = none :=
    Candidates.ending_of_reads (sweep.reads_actAll .willing heard)
  have silences := (Sweep.finished_of_stalls .standard (.raster 34 36 : Candidates) .default .willing
    started unbroken (Candidates.endsAfter ending)).2 4
  rw [show (Sweep.new .standard (.raster 34 36) .default).actAll .willing heard = final from reached, counts.1,
    counts.2] at silences
  rw [show before = final from reached]
  exact ⟨counts.1, counts.2, silences.2 (Nat.le_refl 4)⟩

end LateRequest

end DvbScan
