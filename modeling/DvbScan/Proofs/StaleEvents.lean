import DvbScan.Proofs.BoundedRun
import DvbScan.Proofs.SweepSteps
import Mathlib.Data.List.TakeWhile

/-!
# Events that come too late

An event may be under way while the sweep goes on without it. The outcome of a request that is no longer
waited for, a delivery of a filter of an earlier channel, and whatever comes after the end find the sweep in a
state in which they change nothing.
-/

namespace DvbScan

namespace Call

/-- The filters that were opened last, one right behind the other: a channel opens its filters in one go, and
until the next one begins there are only closings. -/
def openedLast (calls : List Call) : List (FilterId × FilterRequest) :=
  opened ((calls.reverse.dropWhile (!·.isOpening)).takeWhile (·.isOpening)).reverse

def EndsOtherwise (calls : List Call) : Prop := ∀ call ∈ calls.getLast?, call.isOpening = false

theorem openedLast_append_of_opened (calls : List Call) {more : List Call} (none : opened more = []) :
    openedLast (calls ++ more) = openedLast calls := by
  unfold openedLast
  rw [List.reverse_append, List.dropWhile_append_of_pos]
  intro call member
  simp [not_isOpening_of_opened none call (List.mem_reverse.mp member)]

theorem endsOtherwise_append {calls more : List Call} (none : opened more = [])
    (ends : more = [] → EndsOtherwise calls) : EndsOtherwise (calls ++ more) := by
  intro call last
  rw [List.getLast?_append] at last
  cases shape : more.getLast? with
  | none =>
    rw [shape] at last
    exact ends (List.getLast?_eq_none_iff.mp shape) call last
  | some other =>
    rw [shape] at last
    cases last
    exact not_isOpening_of_opened none call (List.mem_of_getLast? shape)

theorem openedLast_append_of_openings {calls opening : List Call} (ends : EndsOtherwise calls)
    (openings : ∀ call ∈ opening, call.isOpening = true) (some_opened : opening ≠ []) :
    openedLast (calls ++ opening) = opened opening := by
  have head : (opening.reverse ++ calls.reverse).dropWhile (!·.isOpening) =
      opening.reverse ++ calls.reverse := by
    obtain ⟨call, rest, shape⟩ := List.exists_cons_of_ne_nil (List.reverse_ne_nil_iff.mpr some_opened)
    have present : call ∈ opening := List.mem_reverse.mp (shape ▸ List.mem_cons_self)
    rw [shape, List.cons_append, List.dropWhile_cons_of_neg]
    simp [openings call present]
  have boundary : calls.reverse.takeWhile (·.isOpening) = [] := by
    cases shape : calls.reverse with
    | nil => rfl
    | cons call rest =>
      have last : calls.getLast? = some call := by rw [← List.head?_reverse, shape]; rfl
      rw [List.takeWhile_cons_of_neg]
      simp [ends call last]
  unfold openedLast
  rw [List.reverse_append, head, List.takeWhile_append_of_pos, boundary, List.append_nil,
    List.reverse_reverse]
  exact fun call member => openings call (List.mem_reverse.mp member)

end Call

namespace Sweep

variable {ι : Type}

/-- What an event needs to know of the calls: a sweep that waits for a lock opened no filter since it asked to
tune, and a channel that is heard takes what comes from the filters opened last. -/
structure Attentive (sweep : Sweep ι) : Prop where
  tuned : ∀ attempt target, sweep.phase = .tuning attempt target → Call.EndsOtherwise sweep.calls
  state : ∀ target, sweep.phase = .scanning target → sweep.channel.state = .awaitingSections
  filters : ∀ target, sweep.phase = .scanning target →
    sweep.channel.slots.map (·.id) = (Call.openedLast sweep.calls).map (·.1)

namespace Attentive

theorem of_new (platform : Platform) (candidates : ι) (timeouts : Timeouts) :
    (new platform candidates timeouts).Attentive :=
  ⟨nofun, nofun, nofun⟩

theorem of_idle {sweep : Sweep ι} (tuning : ∀ attempt target, sweep.phase ≠ .tuning attempt target)
    (scanning : ∀ target, sweep.phase ≠ .scanning target) : sweep.Attentive where
  tuned attempt target phase := absurd phase (tuning attempt target)
  state target phase := absurd phase (scanning target)
  filters target phase := absurd phase (scanning target)

theorem hear {sweep : Sweep ι} {target : Target} {outcome : ChannelOutcome}
    (hearing : outcome = .running → sweep.Attentive) :
    (sweep.hear target outcome).sweep.Attentive := by
  cases outcome with
  | running => exact hearing rfl
  | finished success => exact of_idle nofun nofun

theorem begun {sweep : Sweep ι} (attentive : sweep.Attentive) {attempt : AttemptId} {target : Target}
    (phase : sweep.phase = .tuning attempt target) {receiver : Receiver}
    (running : (sweep.channel.start receiver sweep.calls).2.2 = .running) :
    (sweep.channel.start receiver sweep.calls).1.slots.map (·.id) =
      (Call.openedLast (sweep.calls ++ (sweep.channel.start receiver sweep.calls).2.1)).map (·.1) := by
  have ends : Call.EndsOtherwise (sweep.calls ++ sweep.channel.cancel.2) :=
    Call.endsOtherwise_append sweep.channel.opened_cancel fun _ =>
      attentive.tuned attempt target phase
  obtain ⟨opening, made, opened⟩ := sweep.channel.start_spec receiver sweep.calls
  have some_opened : opening ≠ [] := by
    rintro rfl
    have slots := List.map_eq_nil_iff.mp opened.filters.symm
    exact (Channel.start_of_running running).1 slots
  rw [made, ← List.append_assoc, Call.openedLast_append_of_openings ends opened.openings some_opened]
  exact opened.filters.symm

variable [CandidateSource ι]

theorem prepare {sweep : Sweep ι} (attentive : sweep.Attentive) (receiver : Receiver)
    (act : SweepAct) : (sweep.prepare receiver act).sweep.Attentive := by
  have prepared := sweep.prepared receiver act
  generalize sweep.prepare receiver act = progress at prepared ⊢
  cases prepared with
  | ignored => exact attentive
  | started => exact ⟨attentive.tuned, attentive.state, attentive.filters⟩
  | locked phase =>
    -- a channel that is done at once is left, and is never heard
    refine hear fun running => ⟨nofun, fun _ _ => ?_, fun _ _ => ?_⟩
    · exact (Channel.start_of_running running).2
    · exact attentive.begun phase running
  | unlocked given phase => exact of_idle nofun nofun
  | delivered filter delivery phase =>
    refine hear fun running => ⟨?_, fun _ _ => ?_, fun _ _ => ?_⟩
    · intro attempt target tuning
      cases phase.symm.trans tuning
    · rw [Channel.outcome_eq_running_iff] at running
      have kept := (sweep.channel.state_handle filter delivery).resolve_left running
      exact kept.trans (attentive.state _ phase)
    · change (sweep.channel.handle filter delivery).1.slots.map (·.id) =
        (Call.openedLast (sweep.calls ++ (sweep.channel.handle filter delivery).2.1)).map (·.1)
      rw [Channel.ids_handle, Call.openedLast_append_of_opened _ (Channel.opened_handle _ _ _)]
      exact attentive.filters _ phase
  | left given phase => exact of_idle nofun nofun
  | cancelled => exact of_idle nofun nofun

theorem advance {sweep : Sweep ι} (attentive : sweep.Attentive) (receiver : Receiver) :
    (sweep.advance receiver).1.Attentive := by
  have moved := sweep.movedOn_advance receiver
  obtain ⟨asked, calls, tunes, outcome⟩ := moved.asks
  have unopened := Call.opened_of_tunes tunes
  generalize (sweep.advance receiver).2 = failure at outcome
  cases outcome with
  | ended phase => exact of_idle (by rw [phase]; nofun) (by rw [phase]; nofun)
  | accepted attempt target phase asks =>
    refine ⟨fun _ _ _ => ?_, ?_, ?_⟩
    · rw [calls]
      exact Call.endsOtherwise_append unopened fun none => absurd none asks
    · rw [phase]
      nofun
    · rw [phase]
      nofun
  | rejected error phase => exact of_idle (by rw [phase]; nofun) (by rw [phase]; nofun)
  | broken step phase =>
    refine ⟨?_, ?_, ?_⟩
    · rw [phase, calls]
      exact fun attempt target tuning => Call.endsOtherwise_append unopened fun _ =>
        attentive.tuned attempt target tuning
    · rw [phase, moved.channel]
      exact attentive.state
    · rw [phase, moved.channel, calls, Call.openedLast_append_of_opened _ unopened]
      exact attentive.filters

theorem actAll {sweep : Sweep ι} (attentive : sweep.Attentive) (receiver : Receiver)
    (acts : List SweepAct) : (sweep.actAll receiver acts).Attentive := by
  apply actAll_of_act Attentive attentive
  intro act _ sweep attentive
  apply act_of_prepare Attentive
  · exact attentive.prepare receiver act
  · exact fun moving attentive => attentive.advance receiver

end Attentive

/-- The acts that do not belong to the present state of a sweep. -/
inductive Stale (sweep : Sweep ι) : SweepAct → Prop
  /-- The outcome of a request that is not the one waited for. -/
  | lock {attempt : AttemptId} (locked : Bool)
      (other : ∀ target, sweep.phase ≠ .tuning attempt target) :
      Stale sweep (.event (.lock attempt locked))
  /-- From a filter that was not opened for the channel that was begun last. -/
  | unopened {filter : FilterId} (delivery : Delivery)
      (unknown : filter ∉ (Call.openedLast sweep.calls).map (·.1)) :
      Stale sweep (.event (.delivery filter delivery))
  /-- From a filter of an earlier channel. -/
  | outlived {filter : FilterId} (delivery : Delivery) {earlier : List (FilterId × FilterRequest)}
      (split : Call.opened sweep.calls = earlier ++ Call.openedLast sweep.calls)
      (issued : filter ∈ earlier.map (·.1)) : Stale sweep (.event (.delivery filter delivery))
  | unheard (filter : FilterId) (delivery : Delivery)
      (silent : ∀ target, sweep.phase ≠ .scanning target) :
      Stale sweep (.event (.delivery filter delivery))
  | detuned (silent : ∀ target, sweep.phase ≠ .scanning target) : Stale sweep (.event .detuned)
  | finished {act : SweepAct} (finished : sweep.phase = .finished) (other : act ≠ .start) :
      Stale sweep act

theorem unknown_of_issued {sweep : Sweep ι} (keeps : sweep.channel.Keeps sweep.calls)
    {earlier : List (FilterId × FilterRequest)} {filter : FilterId}
    (split : Call.opened sweep.calls = earlier ++ Call.openedLast sweep.calls)
    (issued : filter ∈ earlier.map (·.1)) : filter ∉ (Call.openedLast sweep.calls).map (·.1) := by
  have ordered := keeps.ordered
  unfold Call.openedFilters at ordered
  rw [split, List.map_append, List.pairwise_append] at ordered
  intro again
  exact Nat.lt_irrefl _ (ordered.2.2 filter issued filter again)

theorem react_of_silent {sweep : Sweep ι} (silent : ∀ target, sweep.phase ≠ .scanning target)
    (receiver : Receiver) (filter : FilterId) (delivery : Delivery) :
    sweep.react receiver (.delivery filter delivery) = .waits sweep ∧
      sweep.react receiver .detuned = .waits sweep := by
  unfold react
  cases phase : sweep.phase with
  | idle => exact ⟨rfl, rfl⟩
  | tuning attempt target => exact ⟨rfl, rfl⟩
  | scanning target => exact absurd phase (silent target)
  | finished => exact ⟨rfl, rfl⟩

theorem react_lock_of_other {sweep : Sweep ι} {attempt : AttemptId}
    (other : ∀ target, sweep.phase ≠ .tuning attempt target) (receiver : Receiver) (locked : Bool) :
    sweep.react receiver (.lock attempt locked) = .waits sweep := by
  unfold react
  cases phase : sweep.phase with
  | idle => rfl
  | tuning current target =>
    have different : attempt ≠ current := by
      rintro rfl
      exact other target phase
    exact if_neg different
  | scanning target => rfl
  | finished => rfl

theorem react_of_unopened {sweep : Sweep ι} (attentive : sweep.Attentive) {filter : FilterId}
    (unknown : filter ∉ (Call.openedLast sweep.calls).map (·.1)) (receiver : Receiver)
    (delivery : Delivery) : sweep.react receiver (.delivery filter delivery) = .waits sweep := by
  cases phase : sweep.phase with
  | scanning target =>
    rw [← attentive.filters target phase] at unknown
    have running : sweep.channel.outcome = .running := by
      rw [Channel.outcome_eq_running_iff, attentive.state target phase]
      nofun
    unfold react
    rw [phase]
    change sweep.deliver target filter delivery = _
    unfold deliver
    rw [Channel.handle_of_unknown unknown]
    simp only [running, List.append_nil]
    rfl
  | idle => exact (react_of_silent (by rw [phase]; nofun) receiver filter delivery).1
  | tuning attempt target => exact (react_of_silent (by rw [phase]; nofun) receiver filter delivery).1
  | finished => exact (react_of_silent (by rw [phase]; nofun) receiver filter delivery).1

variable [CandidateSource ι]

theorem prepare_of_finished {sweep : Sweep ι} (finished : sweep.phase = .finished) (receiver : Receiver)
    {act : SweepAct} (other : act ≠ .start) : sweep.prepare receiver act = .waits sweep := by
  have react (event : ScanEvent) : sweep.react receiver event = .waits sweep := by
    unfold Sweep.react
    rw [finished]
    cases event <;> rfl
  cases act with
  | start => exact absurd rfl other
  | event event => exact react event
  | stall =>
    have missing : sweep.missing? = none := by
      unfold missing?
      rw [finished]
    unfold prepare
    rw [missing]
  | cancel =>
    have ended : sweep.isFinished = true := by simp [isFinished, finished]
    unfold prepare cancel
    rw [if_pos ended]

/-- In every state that a run of a sweep reaches, whatever the receiver answers, an act that does not belong
to it changes nothing at all and asks nothing of the receiver. -/
theorem act_of_stale (platform : Platform) (candidates : ι) (timeouts : Timeouts)
    (receiver : Receiver) (acts : List SweepAct) {act : SweepAct} :
    let sweep := (new platform candidates timeouts).actAll receiver acts
    sweep.Stale act → sweep.act receiver act = (sweep, none) := by
  intro sweep stale
  have attentive : sweep.Attentive :=
    (Attentive.of_new platform candidates timeouts).actAll receiver acts
  have keeps : sweep.channel.Keeps sweep.calls :=
    keeps_actAll (Channel.Keeps.of_new platform timeouts.filter) receiver acts
  have waits : sweep.prepare receiver act = .waits sweep := by
    cases stale with
    | lock locked other => exact react_lock_of_other other receiver locked
    | unopened delivery unknown => exact react_of_unopened attentive unknown receiver delivery
    | outlived delivery split issued =>
      exact react_of_unopened attentive (unknown_of_issued keeps split issued) receiver delivery
    | unheard filter delivery silent => exact (react_of_silent silent receiver filter delivery).1
    | detuned silent => exact (react_of_silent silent receiver 0 .stopped).2
    | finished finished other => exact prepare_of_finished finished receiver other
  rw [act_eq_complete, waits]
  rfl

open scoped HanDecoders

theorem act_of_stale_section :
    let acts : List SweepAct :=
      [.start, .event (.lock 1 true), .event .detuned, .event (.lock 2 true)]
    let sweep : Sweep := (new .standard (.raster 34 36 : Candidates) .default).actAll .willing acts
    let late : SweepAct := .event (.delivery 1 .stopped)
    sweep.Stale late ∧ sweep.act .willing late = (sweep, none) := by
  intro acts sweep late
  have answers : (runWithin .willing 4 (new .standard (.raster 34 36 : Candidates) .default) acts).map
      (fun run => (Call.opened run.2.calls).take 3 ++ Call.openedLast run.2.calls ==
        Call.opened run.2.calls && ((Call.opened run.2.calls).take 3).any (·.1 == 1)) = some true := by
    decide +kernel
  obtain ⟨⟨requests, final⟩, run, shape⟩ := Option.map_eq_some_iff.mp answers
  have reached : sweep = final := (run_of_within run).2
  rw [← reached, Bool.and_eq_true, beq_iff_eq, List.any_eq_true] at shape
  obtain ⟨split, filter, issued, number⟩ := shape
  have outlived : sweep.Stale late :=
    .outlived .stopped split.symm (List.mem_map.mpr ⟨filter, issued, beq_iff_eq.mp number⟩)
  exact ⟨outlived, act_of_stale .standard (.raster 34 36 : Candidates) .default .willing acts outlived⟩

end Sweep

end DvbScan
