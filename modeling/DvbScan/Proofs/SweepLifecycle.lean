import DvbScan.Proofs.BoundedRun
import DvbScan.Proofs.CollectedTopology
import DvbScan.Proofs.SourceFaults

/-!
# The life of a sweep

Between two acts a started sweep waits for a lock, hears a channel or is finished. While it hears one, the
channel awaits sections and its tuning is known; otherwise nothing is left of a channel, and every filter was
closed once. An act fails for no other reason than a fatal answer to a request to tune. All this is shown for
sources of candidates that do not break down, as far as they let the sweep come to its next decision.
-/

namespace DvbScan

namespace Sweep

variable {ι : Type}

def IsScanning (sweep : Sweep ι) : Prop := ∃ target, sweep.phase = .scanning target

/-- No channel is heard, and nothing is left of one. -/
structure Resting (sweep : Sweep ι) : Prop where
  phase : ¬sweep.IsScanning
  state : sweep.channel.state ≠ .awaitingSections
  slots : sweep.channel.slots = []
  locked : sweep.topology.locked = none

structure Hearing (sweep : Sweep ι) : Prop where
  phase : sweep.IsScanning
  state : sweep.channel.state = .awaitingSections
  locked : sweep.topology.locked.isSome = true

/-- What waits rests or hears a channel, and what moves on rests. -/
def Progress.Orderly : Progress ι → Prop
  | waits sweep => sweep.Resting ∨ sweep.Hearing
  | movesOn sweep => sweep.Resting

theorem resting_new (platform : Platform) (candidates : ι) (timeouts : Timeouts) :
    (new platform candidates timeouts).Resting :=
  ⟨nofun, nofun, rfl, rfl⟩

theorem resting_leaveChannel (sweep : Sweep ι) (target : Target) (success : Bool) :
    (sweep.leaveChannel target success).Resting := by
  refine ⟨nofun, nofun, rfl, ?_⟩
  exact locked_settle _ target _

theorem orderly_hear {sweep : Sweep ι} {target : Target} {outcome : ChannelOutcome}
    (hearing : outcome = .running → sweep.Hearing) : (sweep.hear target outcome).Orderly := by
  cases outcome with
  | running => exact .inr (hearing rfl)
  | finished success => exact sweep.resting_leaveChannel target success

variable [CandidateSource ι]

theorem orderly_prepare {sweep : Sweep ι} (orderly : sweep.Resting ∨ sweep.Hearing)
    (receiver : Receiver) {act : SweepAct} (restart : act = .start → sweep.Resting) :
    (sweep.prepare receiver act).Orderly := by
  have resting_of_tuning {attempt : AttemptId} {target : Target}
      (phase : sweep.phase = .tuning attempt target) : sweep.Resting := by
    refine orderly.resolve_right fun hearing => ?_
    obtain ⟨other, scanning⟩ := hearing.phase
    cases phase.symm.trans scanning
  have hearing_of_scanning {target : Target} (phase : sweep.phase = .scanning target) :
      sweep.Hearing :=
    orderly.resolve_left fun resting => resting.phase ⟨target, phase⟩
  have prepared := sweep.prepared receiver act
  generalize sweep.prepare receiver act = progress at prepared ⊢
  cases prepared with
  | ignored => exact orderly
  | started =>
    have resting := restart rfl
    exact ⟨resting.phase, resting.state, resting.slots, resting.locked⟩
  | locked phase =>
    refine orderly_hear fun running => ⟨⟨_, rfl⟩, ?_, rfl⟩
    exact (Channel.start_of_running running).2
  | unlocked given phase =>
    have resting := resting_of_tuning phase
    refine ⟨nofun, resting.state, resting.slots, ?_⟩
    exact (locked_settle _ _ _).trans resting.locked
  | delivered filter delivery phase =>
    have hearing := hearing_of_scanning phase
    refine orderly_hear fun running => ⟨hearing.phase, ?_, ?_⟩
    · rw [Channel.outcome_eq_running_iff] at running
      have kept := (sweep.channel.state_handle filter delivery).resolve_left running
      exact kept.trans hearing.state
    · exact (congrArg Option.isSome (Topology.locked_applyAll _ _)).trans hearing.locked
  | left given phase => exact sweep.resting_leaveChannel _ _
  | cancelled => exact .inl ⟨nofun, sweep.channel.state_cancel, rfl, rfl⟩

theorem Resting.advance {sweep : Sweep ι} (resting : sweep.Resting) (receiver : Receiver) :
    (sweep.advance receiver).1.Resting := by
  have moved := sweep.movedOn_advance receiver
  obtain ⟨asked, -, -, outcome⟩ := moved.asks
  have phase : ¬(sweep.advance receiver).1.IsScanning := by
    rintro ⟨target, scanning⟩
    generalize (sweep.advance receiver).2 = failure at outcome
    cases outcome with
    | ended phase => cases phase.symm.trans scanning
    | accepted attempt other phase => cases phase.symm.trans scanning
    | rejected error phase => cases phase.symm.trans scanning
    | broken step phase => exact resting.phase ⟨target, phase.symm.trans scanning⟩
  refine ⟨phase, ?_, ?_, moved.locked.trans resting.locked⟩
  · rw [moved.channel]
    exact resting.state
  · rw [moved.channel]
    exact resting.slots

theorem orderly_act {sweep : Sweep ι} (orderly : sweep.Resting ∨ sweep.Hearing) (receiver : Receiver)
    {act : SweepAct} (restart : act = .start → sweep.Resting) :
    (sweep.act receiver act).1.Resting ∨ (sweep.act receiver act).1.Hearing := by
  rw [act_eq_complete]
  have prepared := orderly_prepare orderly receiver restart
  cases progress : sweep.prepare receiver act with
  | waits waiting =>
    rw [progress] at prepared
    exact prepared
  | movesOn moving =>
    rw [progress] at prepared
    exact .inl (Resting.advance prepared receiver)

theorem calls_prepare (sweep : Sweep ι) (receiver : Receiver) (act : SweepAct) :
    ∃ made, (sweep.prepare receiver act).sweep.calls = sweep.calls ++ made ∧
      Call.tunes made = [] := by
  have extends_hear {heard : Sweep ι} {more : List Call} (target : Target) (outcome : ChannelOutcome)
      (calls : heard.calls = sweep.calls ++ more) :
      ∃ made, (heard.hear target outcome).sweep.calls = sweep.calls ++ made := by
    cases outcome with
    | running => exact ⟨more, calls⟩
    | finished success =>
      refine ⟨more ++ heard.channel.finish.2.1, ?_⟩
      rw [← List.append_assoc, ← calls]
      rfl
  have longer : ∃ made, (sweep.prepare receiver act).sweep.calls = sweep.calls ++ made := by
    have prepared := sweep.prepared receiver act
    generalize sweep.prepare receiver act = progress at prepared ⊢
    cases prepared with
    | ignored => exact ⟨[], (List.append_nil _).symm⟩
    | started => exact ⟨[], (List.append_nil _).symm⟩
    | locked phase => exact extends_hear _ _ rfl
    | unlocked given phase => exact ⟨[], (List.append_nil _).symm⟩
    | delivered filter delivery phase => exact extends_hear _ _ rfl
    | left given phase => exact ⟨_, rfl⟩
    | cancelled => exact ⟨_, rfl⟩
  obtain ⟨made, calls⟩ := longer
  have tunes := (sweep.untuned_prepare receiver act).tunes
  rw [calls, Call.tunes_append] at tunes
  exact ⟨made, calls, List.append_right_eq_self.mp tunes⟩

/-- An act that does not break down fails exactly if a request to tune is refused with a fatal error during
it, and then the sweep is finished and has failed. -/
theorem failure_of_act (sweep : Sweep ι) (receiver : Receiver) (act : SweepAct)
    (whole : ∀ step, (sweep.act receiver act).2 ≠ some (.broken step)) :
    ∃ made, (sweep.act receiver act).1.calls = sweep.calls ++ made ∧
      (sweep.act receiver act).2 = (receiver.fatalAnswers sweep.calls made).head?.map .rejected ∧
      ((sweep.act receiver act).2 ≠ none →
        (sweep.act receiver act).1.phase = .finished ∧ (sweep.act receiver act).1.status = .failed) := by
  rw [act_eq_complete] at whole ⊢
  obtain ⟨made, calls, untuned⟩ := sweep.calls_prepare receiver act
  have silent := receiver.fatalAnswers_of_tunes sweep.calls untuned
  cases progress : sweep.prepare receiver act with
  | waits waiting =>
    rw [progress] at calls
    refine ⟨made, calls, ?_, nofun⟩
    rw [silent]
    rfl
  | movesOn moving =>
    rw [progress] at calls whole
    change ∀ step, (moving.advance receiver).2 ≠ some (.broken step) at whole
    obtain ⟨asked, later, -, outcome⟩ := (moving.movedOn_advance receiver).asks
    have answers : receiver.fatalAnswers sweep.calls (made ++ asked) =
        receiver.fatalAnswers moving.calls asked := by
      rw [Receiver.fatalAnswers_append, silent, List.nil_append, ← calls]
      rfl
    refine ⟨made ++ asked, ?_, ?_⟩
    · rw [← List.append_assoc, ← calls]
      exact later
    · rw [answers]
      change (moving.advance receiver).2 = _ ∧ ((moving.advance receiver).2 ≠ none → _)
      generalize (moving.advance receiver).2 = failure at outcome whole
      cases outcome with
      | ended phase silent => rw [silent]; exact ⟨rfl, nofun⟩
      | accepted attempt target phase asks silent => rw [silent]; exact ⟨rfl, nofun⟩
      | rejected error phase status refusal => rw [refusal]; exact ⟨rfl, fun _ => ⟨phase, status⟩⟩
      | broken step => exact absurd rfl (whole step)

def Returns (sweep : Sweep ι) (receiver : Receiver) (acts : List SweepAct) : Prop :=
  ∀ earlier act later, acts = earlier ++ act :: later →
    ((sweep.actAll receiver earlier).act receiver act).2 ≠ some (.broken .endless)

theorem actAll_append (sweep : Sweep ι) (receiver : Receiver) (first second : List SweepAct) :
    sweep.actAll receiver (first ++ second) =
      (sweep.actAll receiver first).actAll receiver second :=
  List.foldl_append

theorem whole_of_returns {sweep : Sweep ι} {receiver : Receiver} {acts earlier later : List SweepAct}
    {act : SweepAct} (steady : CandidateSource.NeverBreaks sweep.candidates)
    (returns : sweep.Returns receiver acts) (shape : acts = earlier ++ act :: later)
    (step : Breakdown) :
    ((sweep.actAll receiver earlier).act receiver act).2 ≠ some (.broken step) := by
  intro broken
  obtain ⟨source, reads, failed | ⟨endless, -⟩⟩ := fault_of_broken broken
  · exact steady source reads step failed
  · rw [endless] at broken
    exact returns earlier act later shape broken

theorem phase_advance {sweep : Sweep ι} {receiver : Receiver}
    (whole : ∀ step, (sweep.advance receiver).2 ≠ some (.broken step)) :
    (sweep.advance receiver).1.phase ≠ .idle := by
  obtain ⟨asked, -, -, outcome⟩ := (sweep.movedOn_advance receiver).asks
  generalize (sweep.advance receiver).2 = failure at outcome whole
  cases outcome with
  | ended phase => rw [phase]; nofun
  | accepted attempt target phase => rw [phase]; nofun
  | rejected error phase => rw [phase]; nofun
  | broken step => exact absurd rfl (whole step)

theorem phase_hear {sweep : Sweep ι} {receiver : Receiver} {target : Target} {outcome : ChannelOutcome}
    (phase : sweep.phase = .scanning target)
    (whole : ∀ step, ((sweep.hear target outcome).complete receiver).2 ≠ some (.broken step)) :
    ((sweep.hear target outcome).complete receiver).1.phase ≠ .idle := by
  cases outcome with
  | running =>
    change sweep.phase ≠ .idle
    rw [phase]
    nofun
  | finished success => exact phase_advance whole

theorem phase_act {sweep : Sweep ι} {receiver : Receiver} {act : SweepAct}
    (active : act = .start ∨ sweep.phase ≠ .idle)
    (whole : ∀ step, (sweep.act receiver act).2 ≠ some (.broken step)) :
    (sweep.act receiver act).1.phase ≠ .idle := by
  rw [act_eq_complete] at whole ⊢
  have prepared := sweep.prepared receiver act
  generalize sweep.prepare receiver act = progress at prepared whole ⊢
  cases prepared with
  | ignored given => exact active.resolve_left given
  | started => exact phase_advance whole
  | locked phase => exact phase_hear rfl whole
  | unlocked given phase => exact phase_advance whole
  | delivered filter delivery phase => exact phase_hear phase whole
  | left given phase => exact phase_advance whole
  | cancelled => nofun

structure Unstarted (sweep : Sweep ι) : Prop where
  resting : sweep.Resting
  phase : sweep.phase = .idle ∨ sweep.phase = .finished

theorem Unstarted.act {sweep : Sweep ι} (unstarted : sweep.Unstarted) (receiver : Receiver)
    {act : SweepAct} (given : act ≠ .start) : (sweep.act receiver act).1.Unstarted := by
  have idle {phase : Phase} (other : sweep.phase = phase) (waiting : phase ≠ .idle)
      (ended : phase ≠ .finished) : False := by
    subst other
    exact unstarted.phase.elim waiting ended
  rw [act_eq_complete]
  have prepared := sweep.prepared receiver act
  generalize sweep.prepare receiver act = progress at prepared ⊢
  cases prepared with
  | ignored => exact unstarted
  | started => exact absurd rfl given
  | locked phase => exact (idle phase nofun nofun).elim
  | unlocked given phase => exact (idle phase nofun nofun).elim
  | delivered filter delivery phase => exact (idle phase nofun nofun).elim
  | left given phase => exact (idle phase nofun nofun).elim
  | cancelled => exact ⟨⟨nofun, sweep.channel.state_cancel, rfl, rfl⟩, .inr rfl⟩

theorem Unstarted.actAll {sweep : Sweep ι} (unstarted : sweep.Unstarted) (receiver : Receiver)
    {acts : List SweepAct} (given : .start ∉ acts) : (sweep.actAll receiver acts).Unstarted := by
  apply actAll_of_act Unstarted unstarted
  intro act member sweep unstarted
  apply unstarted.act receiver
  rintro rfl
  exact given member

theorem orderly_actAll {sweep : Sweep ι} (orderly : sweep.Resting ∨ sweep.Hearing)
    (receiver : Receiver) {acts : List SweepAct} (given : .start ∉ acts) :
    (sweep.actAll receiver acts).Resting ∨ (sweep.actAll receiver acts).Hearing := by
  apply actAll_of_act (fun sweep => sweep.Resting ∨ sweep.Hearing) orderly
  intro act member sweep orderly
  apply orderly_act orderly receiver
  rintro rfl
  exact absurd member given

theorem phase_actAll {sweep : Sweep ι} (active : sweep.phase ≠ .idle) {receiver : Receiver}
    {acts : List SweepAct} (whole : ∀ earlier act later, acts = earlier ++ act :: later →
      ∀ step, ((sweep.actAll receiver earlier).act receiver act).2 ≠ some (.broken step)) :
    (sweep.actAll receiver acts).phase ≠ .idle := by
  induction acts generalizing sweep with
  | nil => exact active
  | cons act rest ih =>
    refine ih (phase_act (.inr active) (whole [] act rest rfl)) ?_
    intro earlier later_act later shape
    exact whole (act :: earlier) later_act later (congrArg (List.cons act) shape)

/-- What is always so of a sweep that was started. -/
structure Lifecycle (sweep : Sweep ι) : Prop where
  started : sweep.phase ≠ .idle
  awaiting : sweep.IsScanning ↔ sweep.channel.state = .awaitingSections
  locked : sweep.IsScanning ↔ sweep.topology.locked.isSome = true
  numbers : (Call.openedFilters sweep.calls).Nodup
  closed_once : ∀ filter ∈ Call.openedFilters sweep.calls, (Call.closed sweep.calls).count filter ≤ 1
  released : ¬sweep.IsScanning →
    ∀ filter ∈ Call.openedFilters sweep.calls, (Call.closed sweep.calls).count filter = 1

omit [CandidateSource ι] in
theorem Lifecycle.of_orderly {sweep : Sweep ι} (active : sweep.phase ≠ .idle)
    (orderly : sweep.Resting ∨ sweep.Hearing) (keeps : sweep.channel.Keeps sweep.calls) :
    sweep.Lifecycle where
  started := active
  awaiting := by
    rcases orderly with resting | hearing
    · exact iff_of_false resting.phase resting.state
    · exact iff_of_true hearing.phase hearing.state
  locked := by
    rcases orderly with resting | hearing
    · refine iff_of_false resting.phase ?_
      rw [resting.locked]
      nofun
    · exact iff_of_true hearing.phase hearing.locked
  numbers := keeps.ordered.imp Nat.ne_of_lt
  closed_once filter _ := keeps.count_closed_le filter
  released silent filter opened := by
    have resting := orderly.resolve_right fun hearing => silent hearing.phase
    refine keeps.count_closed_eq ?_ opened
    unfold Channel.held
    rw [resting.slots]
    rfl

/-- Over a run with one start, whatever the receiver answers, a sweep waits for a lock, hears a channel or
is finished; it hears one exactly while the channel awaits sections and exactly while a tuning is locked;
no filter is closed twice, and while no channel is heard every filter was closed. Every act of the run fails
exactly if a request to tune is refused with a fatal error during it, with that error, and leaves a sweep
that has failed. -/
theorem lifecycle_of_one_start (platform : Platform) (candidates : ι) (timeouts : Timeouts)
    (receiver : Receiver) (acts : List SweepAct) (steady : CandidateSource.NeverBreaks candidates)
    (once : acts.count .start = 1)
    (returns : (new platform candidates timeouts).Returns receiver acts) :
    ((new platform candidates timeouts).actAll receiver acts).Lifecycle ∧
      ∀ earlier act later, acts = earlier ++ act :: later →
        let before := (new platform candidates timeouts).actAll receiver earlier
        let after := before.act receiver act
        ∃ made, after.1.calls = before.calls ++ made ∧
          after.2 = (receiver.fatalAnswers before.calls made).head?.map .rejected ∧
          (after.2 ≠ none → after.1.phase = .finished ∧ after.1.status = .failed) := by
  have whole (earlier act later) (shape : acts = earlier ++ act :: later) (step : Breakdown) :
      (((new platform candidates timeouts).actAll receiver earlier).act receiver act).2 ≠
        some (.broken step) :=
    whole_of_returns steady returns shape step
  refine ⟨?_, fun earlier act later shape => failure_of_act _ receiver act (whole _ _ _ shape)⟩
  -- up to its start the sweep does nothing, so the start finds it at rest and leaves it in order
  obtain ⟨before, after, rfl⟩ :=
    List.append_of_mem (List.count_pos_iff.mp (Nat.lt_of_lt_of_eq Nat.one_pos once.symm))
  rw [List.count_append, List.count_cons_self] at once
  have early : .start ∉ before := List.count_eq_zero.mp (by omega)
  have late : .start ∉ after := List.count_eq_zero.mp (by omega)
  have unstarted : ((new platform candidates timeouts).actAll receiver before).Unstarted :=
    Unstarted.actAll ⟨resting_new platform candidates timeouts, .inl rfl⟩ receiver early
  apply Lifecycle.of_orderly
  · rw [actAll_append]
    refine phase_actAll (phase_act (.inl rfl) (whole _ _ _ rfl)) ?_
    intro earlier act later shape
    have broken := whole (before ++ .start :: earlier) act later (by rw [shape]; simp)
    rw [actAll_append] at broken
    exact broken
  · rw [actAll_append]
    exact orderly_actAll (orderly_act (.inl unstarted.resting) receiver fun _ => unstarted.resting)
      receiver late
  · exact keeps_actAll (Channel.Keeps.of_new platform timeouts.filter) receiver _

open scoped HanDecoders

theorem lifecycle_of_raster :
    let sweep : Sweep := new .standard (.raster 34 36) .default
    let acts : List SweepAct :=
      [.start, .event (.lock 1 true), .event (.delivery 2 .stopped), .stall, .cancel]
    (CandidateSource.NeverBreaks sweep.candidates ∧ acts.count .start = 1 ∧
      sweep.Returns .willing acts) ∧ (sweep.actAll .willing acts).Lifecycle := by
  intro sweep acts
  have ends : sweep.candidates.ending = none := rfl
  have steady : CandidateSource.NeverBreaks sweep.candidates := fun later reads step failed =>
    Candidates.not_fault ends step ⟨later, reads, .inl failed⟩
  have returns : sweep.Returns .willing acts := fun earlier act later _ broken =>
    Candidates.not_fault ends _ (fault_of_broken broken)
  have once : acts.count .start = 1 := by decide
  have alive := lifecycle_of_one_start .standard (.raster 34 36 : Candidates) .default .willing acts
    steady once returns
  exact ⟨⟨steady, once, returns⟩, alive.1⟩

end Sweep

end DvbScan
