import DvbScan.Proofs.FilterCustody
import DvbScan.Proofs.SweepRun

/-!
# One act of a sweep

An act leads to the next decision in one of a few ways, and what the decision comes to depends on the answers
of the receiver alone: the sweep waits for a lock, or it is finished, or no decision can be had. Both are
listed here, with what they leave as it was. Nothing else has to be known of an act to show what holds
throughout a run.
-/

namespace DvbScan

namespace Call

def IsTune (call : Call) : Prop :=
  ∃ attempt tuning timeout, call = tune attempt tuning timeout

theorem opened_of_tunes {calls : List Call} (tunes : ∀ call ∈ calls, call.IsTune) :
    opened calls = [] := by
  refine List.filterMap_eq_nil_iff.mpr fun call member => ?_
  obtain ⟨attempt, tuning, timeout, rfl⟩ := tunes call member
  rfl

theorem closed_of_tunes {calls : List Call} (tunes : ∀ call ∈ calls, call.IsTune) :
    closed calls = [] := by
  refine List.filterMap_eq_nil_iff.mpr fun call member => ?_
  obtain ⟨attempt, tuning, timeout, rfl⟩ := tunes call member
  rfl

end Call

namespace Receiver

/-- The answer to a call, if it is a request to tune that is refused with a fatal error. -/
def fatalAnswer? (receiver : Receiver) (history : List Call) : Call → Option ScanError
  | .tune attempt tuning _ => (receiver.tune history attempt tuning).filter (·.isFatal)
  | .openFilter _ _ | .closeFilter _ => none

def fatalAnswers (receiver : Receiver) : List Call → List Call → List ScanError
  | _, [] => []
  | history, call :: rest =>
    (receiver.fatalAnswer? history call).toList ++ receiver.fatalAnswers (history ++ [call]) rest

theorem fatalAnswers_append (receiver : Receiver) (history first second : List Call) :
    receiver.fatalAnswers history (first ++ second) =
      receiver.fatalAnswers history first ++ receiver.fatalAnswers (history ++ first) second := by
  induction first generalizing history with
  | nil => rw [List.append_nil]; rfl
  | cons call rest ih =>
    rw [List.cons_append, fatalAnswers, fatalAnswers, ih, List.append_assoc, List.append_assoc]
    rfl

theorem fatalAnswers_of_tunes (receiver : Receiver) {calls : List Call} (history : List Call)
    (tunes : Call.tunes calls = []) : receiver.fatalAnswers history calls = [] := by
  induction calls generalizing history with
  | nil => rfl
  | cons call rest ih =>
    cases call with
    | tune => cases tunes
    | openFilter => exact ih _ tunes
    | closeFilter => exact ih _ tunes

end Receiver

namespace Sweep

variable {ι : Type}

/-- What a sweep comes to when it moves on, given what it asks for on the way. -/
inductive Outcome (receiver : Receiver) (before after : Sweep ι) (asked : List Call) :
    Option (Failure ScanError) → Prop
  /-- The policy is satisfied, or nothing is left to try. -/
  | ended (phase : after.phase = .finished) (answers : receiver.fatalAnswers before.calls asked = []) :
      Outcome receiver before after asked none
  | accepted (attempt : AttemptId) (target : Target) (phase : after.phase = .tuning attempt target)
      (asks : asked ≠ []) (answers : receiver.fatalAnswers before.calls asked = []) :
      Outcome receiver before after asked none
  | rejected (error : ScanError) (phase : after.phase = .finished) (status : after.status = .failed)
      (answers : receiver.fatalAnswers before.calls asked = [error]) :
      Outcome receiver before after asked (some (.rejected error))
  /-- The next candidate cannot be had. -/
  | broken (step : Breakdown) (phase : after.phase = before.phase)
      (answers : receiver.fatalAnswers before.calls asked = []) :
      Outcome receiver before after asked (some (.broken step))

/-- A sweep moved on: it asked to tune and nothing else, and the channel is as it was. -/
structure MovedOn (receiver : Receiver) (before after : Sweep ι) (failure : Option (Failure ScanError)) :
    Prop where
  channel : after.channel = before.channel
  locked : after.topology.locked = before.topology.locked
  asks : ∃ asked, after.calls = before.calls ++ asked ∧ (∀ call ∈ asked, call.IsTune) ∧
    Outcome receiver before after asked failure

theorem Outcome.after_refusal {receiver : Receiver} {before asked after : Sweep ι} {call : Call}
    {more : List Call} {failure : Option (Failure ScanError)} (calls : asked.calls = before.calls ++ [call])
    (phase : asked.phase = before.phase) (passable : receiver.fatalAnswers before.calls [call] = [])
    (rest : Outcome receiver asked after more failure) :
    Outcome receiver before after (call :: more) failure := by
  have answers : receiver.fatalAnswers before.calls (call :: more) =
      receiver.fatalAnswers asked.calls more := by
    rw [← List.singleton_append, Receiver.fatalAnswers_append, passable, calls, List.nil_append]
  cases rest with
  | ended phase' answers' => exact .ended phase' (answers.trans answers')
  | accepted attempt target phase' asks answers' =>
    exact .accepted attempt target phase' (List.cons_ne_nil _ _) (answers.trans answers')
  | rejected error phase' status answers' => exact .rejected error phase' status (answers.trans answers')
  | broken step phase' answers' => exact .broken step (phase'.trans phase) (answers.trans answers')

@[simp]
theorem locked_settle (sweep : Sweep ι) (target : Target) (status : TransportStatus) :
    (sweep.settle target status).topology.locked = sweep.topology.locked := by
  unfold settle
  simp only
  split <;> rfl

variable [CandidateSource ι]

theorem fields_of_plan {sweep passed : Sweep ι} {next : Plan} (planned : sweep.plan = (passed, next)) :
    passed.channel = sweep.channel ∧ passed.topology.locked = sweep.topology.locked ∧
      passed.calls = sweep.calls ∧ passed.phase = sweep.phase := by
  obtain ⟨keys, candidates, given⟩ := sweep.plan_fst
  rw [planned] at given
  rw [show passed = _ from given]
  obtain ⟨transports, kept⟩ := Topology.foldl_setStatus_eq keys sweep.topology
  have locked : (sweep.giveUp keys).topology.locked = sweep.topology.locked := by
    unfold giveUp
    simp only
    rw [kept]
  exact ⟨rfl, locked, rfl, rfl⟩

theorem request_of_plan {sweep passed : Sweep ι} {target : Target} (receiver : Receiver)
    (planned : sweep.plan = (passed, .request target)) :
    let request := Call.tune (passed.ask target).attempts target.tuning passed.timeouts.tune
    (passed.ask target).calls = sweep.calls ++ [request] ∧
      receiver.fatalAnswers sweep.calls [request] =
        ((receiver.tune passed.calls (passed.ask target).attempts target.tuning).filter
          (·.isFatal)).toList := by
  obtain ⟨-, -, calls, -⟩ := fields_of_plan planned
  rw [← calls]
  exact ⟨rfl, List.append_nil _⟩

theorem movedOn_advance (sweep : Sweep ι) (receiver : Receiver) :
    MovedOn receiver sweep (sweep.advance receiver).1 (sweep.advance receiver).2 := by
  -- enough, nothing left, no candidate to be had; then a request accepted, refused for good, passed over
  fun_induction sweep.advance receiver with
  | case1 sweep passed planned =>
    obtain ⟨channel, locked, calls, -⟩ := fields_of_plan planned
    exact ⟨channel, locked, [], calls.trans (List.append_nil _).symm, List.forall_mem_nil _,
      .ended rfl rfl⟩
  | case2 sweep passed planned =>
    obtain ⟨channel, locked, calls, -⟩ := fields_of_plan planned
    exact ⟨channel, locked, [], calls.trans (List.append_nil _).symm, List.forall_mem_nil _,
      .ended rfl rfl⟩
  | case3 sweep passed step planned =>
    obtain ⟨channel, locked, calls, phase⟩ := fields_of_plan planned
    exact ⟨channel, locked, [], calls.trans (List.append_nil _).symm, List.forall_mem_nil _,
      .broken step phase rfl⟩
  | case4 sweep passed target planned asked accepted =>
    obtain ⟨channel, locked, -, -⟩ := fields_of_plan planned
    obtain ⟨noted, answers⟩ := request_of_plan receiver planned
    rw [show receiver.tune _ _ _ = none from accepted] at answers
    refine ⟨channel, locked, [_], noted, ?_, .accepted _ _ rfl (List.cons_ne_nil _ _) answers⟩
    exact List.forall_mem_singleton.mpr ⟨_, _, _, rfl⟩
  | case5 sweep passed target planned asked error refused fatal =>
    obtain ⟨channel, locked, -, -⟩ := fields_of_plan planned
    obtain ⟨noted, answers⟩ := request_of_plan receiver planned
    rw [show receiver.tune _ _ _ = some error from refused, Option.filter_some, if_pos fatal] at answers
    refine ⟨channel, locked, [_], noted, ?_, .rejected error rfl rfl answers⟩
    exact List.forall_mem_singleton.mpr ⟨_, _, _, rfl⟩
  | case6 sweep passed target planned asked error refused passable _ ih =>
    obtain ⟨channel, locked, -, phase⟩ := fields_of_plan planned
    obtain ⟨noted, answers⟩ := request_of_plan receiver planned
    rw [show receiver.tune _ _ _ = some error from refused, Option.filter_some, if_neg passable] at answers
    replace noted : (asked.settle target .failed).calls = sweep.calls ++ [_] := noted
    obtain ⟨more, later, tunes, outcome⟩ := ih.asks
    refine ⟨ih.channel.trans channel, ?_, _ :: more, ?_, ?_, outcome.after_refusal noted phase answers⟩
    · rw [ih.locked, locked_settle]
      exact locked
    · rw [later, noted, List.append_assoc]
      rfl
    · exact List.forall_mem_cons.mpr ⟨⟨_, _, _, rfl⟩, tunes⟩

/-- How an act leads to the next decision. -/
inductive Prepared (sweep : Sweep ι) (receiver : Receiver) : SweepAct → Progress ι → Prop
  | ignored {act : SweepAct} (given : act ≠ .start) : Prepared sweep receiver act (.waits sweep)
  | started : Prepared sweep receiver .start
      (.movesOn { sweep with candidates := CandidateSource.reset sweep.candidates })
  | locked {attempt : AttemptId} {target : Target} (phase : sweep.phase = .tuning attempt target) :
      Prepared sweep receiver (.event (.lock attempt true)) (sweep.beginChannel receiver target)
  | unlocked {act : SweepAct} {attempt : AttemptId} {target : Target} (given : act ≠ .start)
      (phase : sweep.phase = .tuning attempt target) :
      Prepared sweep receiver act (.movesOn (sweep.passOver target))
  | delivered {target : Target} (filter : FilterId) (delivery : Delivery)
      (phase : sweep.phase = .scanning target) :
      Prepared sweep receiver (.event (.delivery filter delivery))
        (sweep.deliver target filter delivery)
  | left {act : SweepAct} {target : Target} (given : act ≠ .start)
      (phase : sweep.phase = .scanning target) :
      Prepared sweep receiver act (.movesOn (sweep.leaveChannel target sweep.channel.success))
  | cancelled : Prepared sweep receiver .cancel (.waits
      { sweep with
        channel := sweep.channel.cancel.1
        topology := sweep.topology.endChannel
        calls := sweep.calls ++ sweep.channel.cancel.2
        phase := .finished
        status := .cancelled })

theorem prepared_react (sweep : Sweep ι) (receiver : Receiver) {act : SweepAct} {event : ScanEvent}
    (cause : act = .event event ∨ act = .stall ∧ sweep.missing? = some event) :
    Prepared sweep receiver act (sweep.react receiver event) := by
  have given : act ≠ .start := by
    rintro rfl
    rcases cause with same | ⟨same, -⟩
    · cases same
    · cases same
  unfold react
  split
  next attempt locked current target phase =>
    split
    next same =>
      subst same
      cases locked with
      | true =>
        -- a silence never stands for a lock
        rcases cause with rfl | ⟨-, missing⟩
        · exact .locked phase
        · simp [missing?, phase] at missing
      | false => exact .unlocked given phase
    next => exact .ignored given
  next filter delivery target phase =>
    rcases cause with rfl | ⟨-, missing⟩
    · exact .delivered filter delivery phase
    · simp [missing?, phase] at missing
  next target phase => exact .left given phase
  next => exact .ignored given

theorem prepared (sweep : Sweep ι) (receiver : Receiver) (act : SweepAct) :
    Prepared sweep receiver act (sweep.prepare receiver act) := by
  cases act with
  | start => exact .started
  | event event => exact sweep.prepared_react receiver (.inl rfl)
  | stall =>
    unfold prepare
    simp only
    split
    next event missing => exact sweep.prepared_react receiver (.inr ⟨rfl, missing⟩)
    next => exact .ignored nofun
  | cancel =>
    unfold prepare cancel
    simp only
    split
    next => exact .ignored nofun
    next => exact .cancelled

theorem act_of_prepare (Holds : Sweep ι → Prop) {sweep : Sweep ι} {receiver : Receiver} {act : SweepAct}
    (prepared : Holds (sweep.prepare receiver act).sweep)
    (moves : ∀ moving, Holds moving → Holds (moving.advance receiver).1) :
    Holds (sweep.act receiver act).1 := by
  rw [act_eq_complete]
  cases progress : sweep.prepare receiver act with
  | waits waiting =>
    rw [progress] at prepared
    exact prepared
  | movesOn moving =>
    rw [progress] at prepared
    exact moves moving prepared

theorem actAll_of_act (Holds : Sweep ι → Prop) {sweep : Sweep ι} {receiver : Receiver}
    {acts : List SweepAct} (holds : Holds sweep)
    (step : ∀ act ∈ acts, ∀ sweep, Holds sweep → Holds (sweep.act receiver act).1) :
    Holds (sweep.actAll receiver acts) := by
  induction acts generalizing sweep with
  | nil => exact holds
  | cons act rest ih =>
    have first := step act List.mem_cons_self sweep holds
    exact ih first fun act member => step act (List.mem_cons_of_mem _ member)

omit [CandidateSource ι] in
theorem keeps_leaveChannel {sweep : Sweep ι} (keeps : sweep.channel.Keeps sweep.calls) (target : Target)
    (success : Bool) :
    (sweep.leaveChannel target success).channel.Keeps (sweep.leaveChannel target success).calls :=
  keeps.finish

omit [CandidateSource ι] in
theorem keeps_hear {sweep : Sweep ι} (keeps : sweep.channel.Keeps sweep.calls) (target : Target)
    (outcome : ChannelOutcome) :
    (sweep.hear target outcome).sweep.channel.Keeps (sweep.hear target outcome).sweep.calls := by
  cases outcome with
  | running => exact keeps
  | finished success => exact keeps_leaveChannel keeps target success

theorem keeps_prepare {sweep : Sweep ι} (keeps : sweep.channel.Keeps sweep.calls) (receiver : Receiver)
    (act : SweepAct) :
    (sweep.prepare receiver act).sweep.channel.Keeps (sweep.prepare receiver act).sweep.calls := by
  have prepared := sweep.prepared receiver act
  generalize sweep.prepare receiver act = progress at prepared ⊢
  cases prepared with
  | ignored => exact keeps
  | started => exact keeps
  | locked phase => exact keeps_hear (keeps.start receiver) _ _
  | unlocked given phase => exact keeps
  | delivered filter delivery phase => exact keeps_hear (keeps.handle filter delivery) _ _
  | left given phase => exact keeps_leaveChannel keeps _ _
  | cancelled => exact keeps.cancel

theorem keeps_advance {sweep : Sweep ι} (keeps : sweep.channel.Keeps sweep.calls)
    (receiver : Receiver) :
    (sweep.advance receiver).1.channel.Keeps (sweep.advance receiver).1.calls := by
  have moved := sweep.movedOn_advance receiver
  obtain ⟨asked, later, tunes, -⟩ := moved.asks
  rw [later, moved.channel]
  refine keeps.release rfl (Call.opened_of_tunes tunes) ?_
  rw [Call.closed_of_tunes tunes]
  exact .refl _

/-- Throughout a run the channel holds the filters that were opened and not closed. -/
theorem keeps_actAll {sweep : Sweep ι} (keeps : sweep.channel.Keeps sweep.calls) (receiver : Receiver)
    (acts : List SweepAct) :
    (sweep.actAll receiver acts).channel.Keeps (sweep.actAll receiver acts).calls := by
  apply actAll_of_act (fun sweep => sweep.channel.Keeps sweep.calls) keeps
  intro act _ sweep keeps
  apply act_of_prepare (fun sweep => sweep.channel.Keeps sweep.calls)
  · exact keeps_prepare keeps receiver act
  · exact fun moving held => keeps_advance held receiver

end Sweep

end DvbScan
