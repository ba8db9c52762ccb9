import DvbScan.Scan.Sweep

/-!
# Runs of a sweep

A sweep is started, gets events, is told of silences and is cancelled, in any order and any number of times.
Every such act changes the sweep without a request to tune up to the next decision, and only from there may
it ask the receiver to tune. The requests of a run are listed here with the states in which they are made.
-/

namespace DvbScan

namespace Call

@[simp]
theorem tunes_append (first second : List Call) :
    tunes (first ++ second) = tunes first ++ tunes second :=
  List.filterMap_append

end Call

namespace Topology

theorem foldl_setStatus_eq (keys : List TransportKey) (topology : Topology) :
    ∃ transports,
      keys.foldl (fun topology key => topology.setStatus key .failed) topology =
        { topology with transports } := by
  induction keys generalizing topology with
  | nil => exact ⟨topology.transports, rfl⟩
  | cons key rest ih => exact ih (topology.setStatus key .failed)

end Topology

namespace FilterSlot

@[simp]
theorem tunes_close (slot : FilterSlot) : Call.tunes slot.close.2 = [] := by
  unfold close
  split <;> rfl

theorem tunes_enter (slot : FilterSlot) (status : FilterStatus) :
    Call.tunes (slot.enter status).2 = [] := by
  unfold enter
  simp only
  split
  · exact tunes_close _
  · rfl

theorem tunes_update (slot : FilterSlot) (status : FilterStatus) :
    Call.tunes (slot.update status).2 = [] := by
  unfold update
  split
  · rfl
  · split
    · exact tunes_enter _ _
    · exact tunes_enter _ _
    · exact tunes_enter _ _
    · exact tunes_enter _ _
    · exact tunes_close _
    · exact tunes_close _
    · rfl

end FilterSlot

namespace Channel

theorem tunes_flatMap {α : Type} {calls : α → List Call} (values : List α)
    (none : ∀ value ∈ values, Call.tunes (calls value) = []) :
    Call.tunes (values.flatMap calls) = [] := by
  induction values with
  | nil => rfl
  | cons value rest ih =>
    rw [List.flatMap_cons, Call.tunes_append, none value List.mem_cons_self,
      ih (fun other member => none other (List.mem_cons_of_mem _ member)), List.nil_append]

theorem tunes_cancel (channel : Channel) : Call.tunes channel.cancel.2 = [] :=
  tunes_flatMap _ fun slot _ => slot.tunes_close

theorem tunes_openFilters (receiver : Receiver) (timeout asked : Nat) (specs : List FilterSpec)
    (history : List Call) : Call.tunes (openFilters receiver timeout asked specs history).2 = [] := by
  induction specs generalizing asked history with
  | nil => rfl
  | cons spec rest ih =>
    unfold openFilters
    simp only
    split
    · exact ih _ _
    · exact ih _ _

theorem tunes_start (channel : Channel) (receiver : Receiver) (history : List Call) :
    Call.tunes (channel.start receiver history).2.1 = [] := by
  change Call.tunes (channel.cancel.2 ++ (openFilters _ _ _ _ _).2) = []
  rw [Call.tunes_append, tunes_cancel, tunes_openFilters, List.nil_append]

theorem tunes_settle (channel : Channel) (filter : FilterId) (status : FilterStatus) :
    Call.tunes (channel.settle filter status).2 = [] := by
  refine tunes_flatMap _ (fun updated member => ?_)
  obtain ⟨slot, -, rfl⟩ := List.mem_map.mp member
  split
  · exact slot.tunes_update status
  · rfl

theorem tunes_handle (channel : Channel) (filter : FilterId) (delivery : Delivery) :
    Call.tunes (channel.handle filter delivery).2.1 = [] := by
  unfold handle
  split
  · rfl
  · split
    · rfl
    · exact tunes_settle _ _ _

end Channel

namespace Sweep

variable {ι : Type}

/-- From one state to the other nothing was asked of the tuner, and nothing was forgotten of what was. -/
structure Untuned (before after : Sweep ι) : Prop where
  platform : after.platform = before.platform
  attempted : after.attempted = before.attempted
  attempts : after.attempts = before.attempts
  tunes : Call.tunes after.calls = Call.tunes before.calls

theorem Untuned.refl (sweep : Sweep ι) : Untuned sweep sweep := ⟨rfl, rfl, rfl, rfl⟩

theorem Untuned.trans {first second third : Sweep ι} (former : Untuned first second)
    (latter : Untuned second third) : Untuned first third where
  platform := latter.platform.trans former.platform
  attempted := latter.attempted.trans former.attempted
  attempts := latter.attempts.trans former.attempts
  tunes := latter.tunes.trans former.tunes

def Progress.sweep : Progress ι → Sweep ι
  | waits sweep | movesOn sweep => sweep

theorem untuned_settle (sweep : Sweep ι) (target : Target) (status : TransportStatus) :
    Untuned sweep (sweep.settle target status) := ⟨rfl, rfl, rfl, rfl⟩

theorem untuned_leaveChannel (sweep : Sweep ι) (target : Target) (success : Bool) :
    Untuned sweep (sweep.leaveChannel target success) := by
  refine ⟨rfl, rfl, rfl, ?_⟩
  change Call.tunes (sweep.calls ++ sweep.channel.cancel.2) = _
  rw [Call.tunes_append, Channel.tunes_cancel, List.append_nil]

theorem untuned_hear (sweep : Sweep ι) (target : Target) (outcome : ChannelOutcome) :
    Untuned sweep (sweep.hear target outcome).sweep := by
  cases outcome with
  | running => exact .refl sweep
  | finished success => exact sweep.untuned_leaveChannel target success

theorem untuned_beginChannel (sweep : Sweep ι) (receiver : Receiver) (target : Target) :
    Untuned sweep (sweep.beginChannel receiver target).sweep := by
  unfold beginChannel
  apply Untuned.trans _ (untuned_hear _ _ _)
  refine ⟨rfl, rfl, rfl, ?_⟩
  change Call.tunes (sweep.calls ++ (sweep.channel.start receiver sweep.calls).2.1) = _
  rw [Call.tunes_append, Channel.tunes_start, List.append_nil]

theorem untuned_deliver (sweep : Sweep ι) (target : Target) (filter : FilterId)
    (delivery : Delivery) : Untuned sweep (sweep.deliver target filter delivery).sweep := by
  unfold deliver
  apply Untuned.trans _ (untuned_hear _ _ _)
  refine ⟨rfl, rfl, rfl, ?_⟩
  change Call.tunes (sweep.calls ++ (sweep.channel.handle filter delivery).2.1) = _
  rw [Call.tunes_append, Channel.tunes_handle, List.append_nil]

theorem untuned_react (sweep : Sweep ι) (receiver : Receiver) (event : ScanEvent) :
    Untuned sweep (sweep.react receiver event).sweep := by
  unfold react
  split
  next attempt locked current target _ =>
    split
    · split
      · exact sweep.untuned_beginChannel receiver target
      · exact ⟨rfl, rfl, rfl, rfl⟩
    · exact .refl sweep
  next filter delivery target _ => exact sweep.untuned_deliver target filter delivery
  next target _ => exact sweep.untuned_leaveChannel target _
  next => exact .refl sweep

theorem untuned_cancel (sweep : Sweep ι) : Untuned sweep sweep.cancel := by
  unfold cancel
  split
  · exact .refl sweep
  · refine ⟨rfl, rfl, rfl, ?_⟩
    change Call.tunes (sweep.calls ++ sweep.channel.cancel.2) = _
    rw [Call.tunes_append, Channel.tunes_cancel, List.append_nil]

end Sweep

inductive SweepAct where
  | start
  | event (event : ScanEvent)
  | stall
  | cancel
  deriving DecidableEq, Repr

namespace Sweep

variable {ι : Type} [CandidateSource ι]

def act (sweep : Sweep ι) (receiver : Receiver) : SweepAct → Sweep ι × Option (Failure ScanError)
  | .start => sweep.start receiver
  | .event event => sweep.handle receiver event
  | .stall => sweep.stall receiver
  | .cancel => (sweep.cancel, none)

/-- The sweep after some acts. A failure is told and does not prevent further acts. -/
def actAll (sweep : Sweep ι) (receiver : Receiver) (acts : List SweepAct) : Sweep ι :=
  acts.foldl (fun sweep act => (sweep.act receiver act).1) sweep

/-- An act up to the next decision. -/
def prepare (sweep : Sweep ι) (receiver : Receiver) : SweepAct → Progress ι
  | .start => .movesOn { sweep with candidates := CandidateSource.reset sweep.candidates }
  | .event event => sweep.react receiver event
  | .stall => match sweep.missing? with
    | some event => sweep.react receiver event
    | none => .waits sweep
  | .cancel => .waits sweep.cancel

theorem act_eq_complete (sweep : Sweep ι) (receiver : Receiver) (act : SweepAct) :
    sweep.act receiver act = (sweep.prepare receiver act).complete receiver := by
  cases act with
  | start => rfl
  | event event => rfl
  | stall =>
    show sweep.stall receiver = Progress.complete receiver (match sweep.missing? with
      | some event => sweep.react receiver event
      | none => .waits sweep)
    unfold stall
    cases sweep.missing? <;> rfl
  | cancel => rfl

theorem untuned_prepare (sweep : Sweep ι) (receiver : Receiver) (act : SweepAct) :
    Untuned sweep (sweep.prepare receiver act).sweep := by
  cases act with
  | start => exact ⟨rfl, rfl, rfl, rfl⟩
  | event event => exact sweep.untuned_react receiver event
  | stall =>
    unfold prepare
    simp only
    split
    next event _ => exact sweep.untuned_react receiver event
    next => exact .refl sweep
  | cancel => exact sweep.untuned_cancel

theorem untuned_of_plan {sweep passed : Sweep ι} {next : Plan} (planned : sweep.plan = (passed, next)) :
    Untuned sweep passed := by
  obtain ⟨keys, candidates, given⟩ := sweep.plan_fst
  rw [planned] at given
  rw [show passed = _ from given]
  exact ⟨rfl, rfl, rfl, rfl⟩

end Sweep

/-- A request to tune: the sweep that planned it, the sweep after it passed over what was tried, and what it
asks for. -/
structure TuneRequest (ι : Type) where
  before : Sweep ι
  passed : Sweep ι
  target : Target

namespace TuneRequest

variable {ι : Type}

def asked (request : TuneRequest ι) : Sweep ι := request.passed.ask request.target

def noted (request : TuneRequest ι) : AttemptId × Tuning × Nat :=
  (request.asked.attempts, request.target.tuning, request.passed.timeouts.tune)

end TuneRequest

namespace Sweep

variable {ι : Type} [CandidateSource ι]

/-- The requests that a sweep makes when it moves on: each refused one is followed by the next, unless the
refusal is fatal. -/
def requests (sweep : Sweep ι) (receiver : Receiver) : List (TuneRequest ι) :=
  match planned : sweep.plan with
  | (passed, .request target) =>
    let request : TuneRequest ι := { before := sweep, passed, target }
    match receiver.tune passed.calls request.asked.attempts target.tuning with
    | none => [request]
    | some error =>
      if error.isFatal then [request]
      else
        have := untriedKeys_lt planned
        request :: (request.asked.settle target .failed).requests receiver
  | _ => []
termination_by sweep.untriedKeys

def Progress.requests (receiver : Receiver) : Progress ι → List (TuneRequest ι)
  | waits _ => []
  | movesOn sweep => sweep.requests receiver

def requestsOf (sweep : Sweep ι) (receiver : Receiver) : List SweepAct → List (TuneRequest ι)
  | [] => []
  | act :: rest =>
    (sweep.prepare receiver act).requests receiver ++
      (sweep.act receiver act).1.requestsOf receiver rest

theorem requests_of_request {sweep passed : Sweep ι} {target : Target} (receiver : Receiver)
    (planned : sweep.plan = (passed, .request target)) :
    sweep.requests receiver =
      { before := sweep, passed, target } ::
        match receiver.tune passed.calls (passed.ask target).attempts target.tuning with
        | none => []
        | some error =>
          if error.isFatal then []
          else ((passed.ask target).settle target .failed).requests receiver := by
  rw [requests]
  split
  next other chosen shape =>
    cases planned.symm.trans shape
    simp only [TuneRequest.asked]
    split
    · rfl
    · split
      · rfl
      · rfl
  next unplanned => exact absurd planned (unplanned passed target)

theorem requests_of_ending {sweep : Sweep ι} (receiver : Receiver)
    (ending : ∀ target, sweep.plan.2 ≠ .request target) : sweep.requests receiver = [] := by
  rw [requests]
  split
  next passed target planned => exact absurd (congrArg Prod.snd planned) (ending target)
  next => rfl

theorem tunes_ask_planned {sweep passed : Sweep ι} {target : Target}
    (planned : sweep.plan = (passed, .request target)) :
    Call.tunes (passed.ask target).calls =
      Call.tunes sweep.calls ++ [TuneRequest.noted { before := sweep, passed, target }] := by
  rw [← (untuned_of_plan planned).tunes]
  exact Call.tunes_append _ _

theorem tunes_of_ending {sweep passed : Sweep ι} {next : Plan} (receiver : Receiver)
    (planned : sweep.plan = (passed, next)) (ending : ∀ target, next ≠ .request target) :
    Call.tunes passed.calls =
      Call.tunes sweep.calls ++ (sweep.requests receiver).map (·.noted) := by
  rw [requests_of_ending receiver (by rw [planned]; exact ending), (untuned_of_plan planned).tunes,
    List.map_nil, List.append_nil]

theorem tunes_advance (sweep : Sweep ι) (receiver : Receiver) :
    Call.tunes (sweep.advance receiver).1.calls =
      Call.tunes sweep.calls ++ (sweep.requests receiver).map (·.noted) := by
  fun_induction sweep.advance receiver with
  | case1 sweep passed planned =>
    change Call.tunes passed.calls = _
    exact tunes_of_ending receiver planned nofun
  | case2 sweep passed planned =>
    change Call.tunes passed.calls = _
    exact tunes_of_ending receiver planned nofun
  | case3 sweep passed step planned => exact tunes_of_ending receiver planned nofun
  | case4 sweep passed target planned asked accepted =>
    rw [requests_of_request receiver planned, show receiver.tune _ _ _ = none from accepted]
    exact tunes_ask_planned planned
  | case5 sweep passed target planned asked error refused fatal =>
    rw [requests_of_request receiver planned, show receiver.tune _ _ _ = some error from refused]
    simp only [fatal, if_true, List.map_cons, List.map_nil]
    exact tunes_ask_planned planned
  | case6 sweep passed target planned asked error refused passable _ ih =>
    rw [requests_of_request receiver planned, show receiver.tune _ _ _ = some error from refused, ih]
    change Call.tunes (passed.ask target).calls ++ _ = _
    rw [tunes_ask_planned planned, List.append_assoc]
    simp only [passable, Bool.false_eq_true, if_false, List.map_cons, List.singleton_append, asked]

theorem tunes_act (sweep : Sweep ι) (receiver : Receiver) (act : SweepAct) :
    Call.tunes (sweep.act receiver act).1.calls = Call.tunes sweep.calls ++
      ((sweep.prepare receiver act).requests receiver).map (·.noted) := by
  rw [act_eq_complete, ← (sweep.untuned_prepare receiver act).tunes]
  cases sweep.prepare receiver act with
  | waits waiting => exact (List.append_nil _).symm
  | movesOn moving => exact moving.tunes_advance receiver

/-- A run notes the requests that it makes, and no others. -/
theorem tunes_actAll (sweep : Sweep ι) (receiver : Receiver) (acts : List SweepAct) :
    Call.tunes (sweep.actAll receiver acts).calls =
      Call.tunes sweep.calls ++ (sweep.requestsOf receiver acts).map (·.noted) := by
  induction acts generalizing sweep with
  | nil => exact (List.append_nil _).symm
  | cons act rest ih =>
    change Call.tunes ((sweep.act receiver act).1.actAll receiver rest).calls = _
    rw [ih, tunes_act, requestsOf, List.map_append, List.append_assoc]

theorem plan_of_mem_requests {sweep : Sweep ι} {receiver : Receiver} {request : TuneRequest ι}
    (made : request ∈ sweep.requests receiver) :
    request.before.plan = (request.passed, .request request.target) := by
  fun_induction sweep.requests receiver with
  | case1 sweep passed target planned new accepted =>
    rw [List.mem_singleton.mp made]
    exact planned
  | case2 sweep passed target planned new error refused fatal =>
    rw [List.mem_singleton.mp made]
    exact planned
  | case3 sweep passed target planned new error refused passable _ ih =>
    rcases List.mem_cons.mp made with rfl | later
    · exact planned
    · exact ih later
  | case4 => cases made

theorem plan_of_mem_requestsOf {sweep : Sweep ι} {receiver : Receiver} {acts : List SweepAct}
    {request : TuneRequest ι} (made : request ∈ sweep.requestsOf receiver acts) :
    request.before.plan = (request.passed, .request request.target) := by
  induction acts generalizing sweep with
  | nil => cases made
  | cons act rest ih =>
    rcases List.mem_append.mp made with now | later
    · cases progress : sweep.prepare receiver act with
      | waits waiting =>
        rw [progress] at now
        cases now
      | movesOn moving =>
        rw [progress] at now
        exact plan_of_mem_requests now
    · exact ih later

end Sweep

end DvbScan
