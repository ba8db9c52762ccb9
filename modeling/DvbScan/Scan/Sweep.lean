import DvbScan.Breakdown
import DvbScan.Scan.Candidates
import DvbScan.Scan.Channel
import DvbScan.Scan.Topology

/-!
# Sweeps

A sweep walks over tunings and hears every channel that locks. Transports that network tables announce
come before the candidates of the platform, no channel is tried twice, and before every request to tune
the sweep checks whether it has heard enough.
-/

namespace DvbScan

inductive SweepStatus where
  /-- Nothing was found. -/
  | blank
  /-- Something was found, and nothing confirms that it is all. -/
  | partly
  /-- The policy is satisfied, and some table was complete. -/
  | complete
  | cancelled
  /-- The device cannot be used. -/
  | failed
  deriving DecidableEq, Repr

/-- Milliseconds to wait for a lock and for a section. -/
structure Timeouts where
  tune : Nat
  filter : Nat
  deriving DecidableEq, Repr

namespace Timeouts

def default : Timeouts := ⟨5000, 5000⟩

/-- The silence in milliseconds after which a sweep moves on by itself. -/
def stall (timeouts : Timeouts) : Nat :=
  max timeouts.tune timeouts.filter + 1000

end Timeouts

/-- A tuning to try, and the transport that is expected there, if it is an announced one. -/
structure Target where
  tuning : Tuning
  transport : Option TransportKey
  deriving DecidableEq, Repr

inductive Phase where
  /-- Before the start, or after a breakdown. -/
  | idle
  | tuning (attempt : AttemptId) (target : Target)
  | scanning (target : Target)
  | finished
  deriving DecidableEq, Repr

structure SweepCounts where
  networks : Nat
  pending : Nat
  scanned : Nat
  failed : Nat
  services : Nat
  channels : Nat
  deriving DecidableEq, Repr

structure Sweep (ι : Type := Candidates) where
  platform : Platform
  candidates : ι
  timeouts : Timeouts
  channel : Channel
  topology : Topology
  /-- The keys of the tunings that were tried. -/
  attempted : List EquivalenceKey
  phase : Phase
  status : SweepStatus
  /-- The number of requests to tune. -/
  attempts : Nat
  /-- The number of channels that were heard to their end. -/
  channelsScanned : Nat
  /-- Whether some channel ended with a complete table. -/
  anyComplete : Bool
  /-- What the receiver has been asked, in order. -/
  calls : List Call

namespace Sweep

variable {ι : Type}

def new (platform : Platform) (candidates : ι) (timeouts : Timeouts) : Sweep ι where
  platform := platform
  candidates := candidates
  timeouts := timeouts
  channel := .new platform timeouts.filter
  topology := .empty
  attempted := []
  phase := .idle
  status := .blank
  attempts := 0
  channelsScanned := 0
  anyComplete := false
  calls := []

def isFinished (sweep : Sweep ι) : Bool :=
  sweep.phase == .finished

def counts (sweep : Sweep ι) : SweepCounts where
  networks := sweep.topology.networks.size + sweep.topology.bouquets.size
  pending := sweep.topology.countTransports .pending
  scanned := sweep.topology.countTransports .scanned
  failed := sweep.topology.countTransports .failed
  services := sweep.topology.services.size
  channels := sweep.channelsScanned

/-! ## The next target -/

/-- Whether every condition of the policy holds; an empty policy is never satisfied. -/
def isHarvested (sweep : Sweep ι) : Bool :=
  let policy := sweep.platform.policy
  !policy.isEmpty &&
    (!policy.atLeastTwo || (decide (2 ≤ sweep.channelsScanned) && sweep.anyComplete)) &&
    (!policy.allDiscovered || sweep.topology.allDiscoveredScanned) &&
    (!policy.allServices || sweep.topology.allServicesFound)

def isAttempted (sweep : Sweep ι) (tuning : Tuning) : Bool :=
  sweep.attempted.contains tuning.equivalence

/-- Of the waiting transports, those before the first whose channel was not tried, and that one. The
channels of the former were heard without them. -/
def announcedTarget (sweep : Sweep ι) : List TransportKey × Option Target :=
  let tried := sweep.topology.pending.takeWhile fun entry => sweep.isAttempted entry.2
  let untried := sweep.topology.pending.dropWhile fun entry => sweep.isAttempted entry.2
  (tried.map (·.1), untried.head?.map fun entry => ⟨entry.2, some entry.1⟩)

def candidateTarget [CandidateSource ι] (sweep : Sweep ι) : ι × Except Breakdown (Option Target) :=
  match (CandidateSource.next sweep.candidates).firstUntried sweep.isAttempted with
  | some ⟨found, rest⟩ => (rest, found.map fun tuning? => tuning?.map fun tuning => ⟨tuning, none⟩)
  | none => (sweep.candidates, .error .endless)

def giveUp (sweep : Sweep ι) (keys : List TransportKey) : Sweep ι :=
  { sweep with
    topology := keys.foldl (fun topology key => topology.setStatus key .failed) sweep.topology }

def nextTarget [CandidateSource ι] (sweep : Sweep ι) : Sweep ι × Except Breakdown (Option Target) :=
  let (tried, announced) := sweep.announcedTarget
  let passed := sweep.giveUp tried
  match announced with
  | some target => (passed, .ok (some target))
  | none =>
    let (candidates, result) := sweep.candidateTarget
    ({ passed with candidates }, result)

def settle (sweep : Sweep ι) (target : Target) (status : TransportStatus) : Sweep ι :=
  let settled := sweep.topology.settleEquivalent target.tuning status
  { sweep with
    topology := match target.transport with
      | some key =>
        settled.settleWhere status fun other transport => other == key && transport.status == .pending
      | none => settled }

def harvestedStatus (sweep : Sweep ι) : SweepStatus :=
  if sweep.anyComplete then .complete else .partly

def exhaustedStatus (sweep : Sweep ι) : SweepStatus :=
  if sweep.topology.isEmpty then .blank else .partly

def ask (sweep : Sweep ι) (target : Target) : Sweep ι :=
  let attempt := sweep.attempts + 1
  { sweep with
    attempted := target.tuning.equivalence :: sweep.attempted
    attempts := attempt
    calls := sweep.calls ++ [.tune attempt target.tuning sweep.timeouts.tune] }

/-! ## Moving on -/

inductive Plan where
  /-- The policy is satisfied. -/
  | enough
  /-- Nothing is left to try. -/
  | exhausted
  /-- No candidate can be had. -/
  | stuck (step : Breakdown)
  | request (target : Target)
  deriving DecidableEq, Repr

def plan [CandidateSource ι] (sweep : Sweep ι) : Sweep ι × Plan :=
  if sweep.isHarvested then (sweep, .enough)
  else
    let (passed, result) := sweep.nextTarget
    (passed, match result with
      | .error step => .stuck step
      | .ok none => .exhausted
      | .ok (some target) => .request target)

/-- The number of keys of channels that were not tried. It bounds the requests that are still to come. -/
def untriedKeys (sweep : Sweep ι) : Nat :=
  (List.range EquivalenceKey.bound).countP fun value => !sweep.attempted.contains ⟨value⟩

theorem countP_lt_countP {α : Type} {fewer more : α → Bool} {values : List α}
    (weaker : ∀ value ∈ values, fewer value → more value) {value : α} (member : value ∈ values)
    (holds : more value = true) (fails : fewer value = false) :
    values.countP fewer < values.countP more := by
  induction values with
  | nil => cases member
  | cons first rest ih =>
    have tail : rest.countP fewer ≤ rest.countP more :=
      List.countP_mono_left fun other present => weaker other (List.mem_cons_of_mem _ present)
    rw [List.countP_cons, List.countP_cons]
    rcases List.mem_cons.mp member with rfl | present
    · simp only [holds, fails]
      simp only [Bool.false_eq_true, if_false, if_true]
      omega
    · have strict := ih (fun other there => weaker other (List.mem_cons_of_mem _ there)) present
      have head := weaker first List.mem_cons_self
      by_cases taken : fewer first
      · simp only [taken, head taken, if_true]
        omega
      · simp only [taken]
        simp only [Bool.false_eq_true, if_false]
        omega

theorem fresh_of_firstUntried [CandidateSource ι] {isTried : Tuning → Bool} {offer : Offer ι} {rest : ι}
    {tuning : Tuning} (found : offer.firstUntried isTried = some ⟨.ok (some tuning), rest⟩) :
    isTried tuning = false := by
  refine Offer.firstUntried.partial_correctness isTried
    (fun _ last => ∀ tuning, last.result = .ok (some tuning) → isTried tuning = false)
    ?_ offer _ found tuning rfl
  intro search ih offer last reached tuning chosen
  split at reached
  next first given =>
    split at reached
    next => exact ih _ last reached tuning chosen
    next fresh =>
      cases reached
      cases given.symm.trans chosen
      simpa using fresh
  next more =>
    cases reached
    exact (more tuning chosen).elim

theorem mem_and_fresh_of_dropWhile {α : Type} {tried : α → Bool} {values rest : List α} {value : α}
    (found : values.dropWhile tried = value :: rest) : value ∈ values ∧ tried value = false := by
  constructor
  · exact (List.dropWhile_sublist tried).subset (by rw [found]; exact List.mem_cons_self)
  · have head := List.head?_dropWhile_not tried values
    rw [found] at head
    simpa using head

theorem announcedTarget_eq_some {sweep : Sweep ι} {target : Target}
    (chosen : sweep.announcedTarget.2 = some target) :
    ∃ entry ∈ sweep.topology.pending, sweep.isAttempted entry.2 = false ∧
      target = ⟨entry.2, some entry.1⟩ := by
  obtain ⟨entry, head, rfl⟩ := Option.map_eq_some_iff.mp chosen
  obtain ⟨rest, shape⟩ := List.head?_eq_some_iff.mp head
  obtain ⟨member, fresh⟩ := mem_and_fresh_of_dropWhile shape
  exact ⟨entry, member, fresh, rfl⟩

theorem candidateTarget_eq_some [CandidateSource ι] {sweep : Sweep ι} {target : Target}
    (chosen : sweep.candidateTarget.2 = .ok (some target)) :
    target.transport = none ∧ sweep.isAttempted target.tuning = false := by
  unfold candidateTarget at chosen
  split at chosen
  next found rest search =>
    cases found with
    | error step => cases chosen
    | ok tuning? =>
      simp only [Except.map, Except.ok.injEq] at chosen
      obtain ⟨tuning, rfl, rfl⟩ := Option.map_eq_some_iff.mp chosen
      exact ⟨rfl, fresh_of_firstUntried search⟩
  next => cases chosen

theorem nextTarget_fst [CandidateSource ι] (sweep : Sweep ι) :
    ∃ candidates, sweep.nextTarget.1 = { sweep.giveUp sweep.announcedTarget.1 with candidates } := by
  unfold nextTarget
  simp only
  split
  next => exact ⟨sweep.candidates, rfl⟩
  next => exact ⟨sweep.candidateTarget.1, rfl⟩

theorem nextTarget_snd [CandidateSource ι] (sweep : Sweep ι) :
    sweep.nextTarget.2 = match sweep.announcedTarget.2 with
      | some target => .ok (some target)
      | none => sweep.candidateTarget.2 := by
  unfold nextTarget
  simp only
  split
  next => rfl
  next => rfl

theorem plan_fst [CandidateSource ι] (sweep : Sweep ι) :
    ∃ keys candidates, sweep.plan.1 = { sweep.giveUp keys with candidates } := by
  unfold plan
  split
  next => exact ⟨[], sweep.candidates, rfl⟩
  next =>
    obtain ⟨candidates, passed⟩ := sweep.nextTarget_fst
    exact ⟨_, candidates, passed⟩

/-- A request is made only with the policy unsatisfied, and for the next target. -/
theorem plan_eq_request [CandidateSource ι] {sweep passed : Sweep ι} {target : Target}
    (planned : sweep.plan = (passed, .request target)) :
    sweep.isHarvested = false ∧ sweep.nextTarget = (passed, .ok (some target)) := by
  unfold plan at planned
  split at planned
  next => cases planned
  next unsatisfied =>
    simp only [Prod.mk.injEq] at planned
    obtain ⟨rfl, planned⟩ := planned
    refine ⟨by simpa using unsatisfied, Prod.ext rfl ?_⟩
    split at planned
    next => cases planned
    next => cases planned
    next chosen =>
      cases planned
      exact chosen

theorem fresh_of_plan [CandidateSource ι] {sweep passed : Sweep ι} {target : Target}
    (planned : sweep.plan = (passed, .request target)) :
    sweep.isAttempted target.tuning = false := by
  have chosen : sweep.nextTarget.2 = .ok (some target) := by rw [(plan_eq_request planned).2]
  rw [nextTarget_snd] at chosen
  split at chosen
  next other announced =>
    cases chosen
    obtain ⟨entry, -, fresh, rfl⟩ := announcedTarget_eq_some announced
    exact fresh
  next => exact (candidateTarget_eq_some chosen).2

/-- A refused request leaves less to try, which is why a sweep comes to an end. -/
theorem untriedKeys_lt [CandidateSource ι] {sweep passed : Sweep ι} {target : Target}
    (planned : sweep.plan = (passed, .request target)) :
    ((passed.ask target).settle target .failed).untriedKeys < sweep.untriedKeys := by
  obtain ⟨keys, candidates, rest⟩ := sweep.plan_fst
  rw [planned] at rest
  have attempted : ((passed.ask target).settle target .failed).attempted =
      target.tuning.equivalence :: sweep.attempted := by
    show target.tuning.equivalence :: passed.attempted = _
    rw [show passed = _ from rest]
    rfl
  have fresh : sweep.attempted.contains target.tuning.equivalence = false := fresh_of_plan planned
  unfold untriedKeys
  rw [attempted]
  refine countP_lt_countP (fun value _ => ?_)
    (List.mem_range.mpr target.tuning.equivalence_lt) (by simpa using fresh) (by simp)
  rw [List.contains_cons]
  cases sweep.attempted.contains ⟨value⟩ <;> simp

/-- Ends with success if the policy is satisfied, or else tries the targets in turn until the receiver
accepts one or none is left. -/
def advance [CandidateSource ι] (sweep : Sweep ι) (receiver : Receiver) :
    Sweep ι × Option (Failure ScanError) :=
  match planned : sweep.plan with
  | (passed, .enough) => ({ passed with phase := .finished, status := passed.harvestedStatus }, none)
  | (passed, .exhausted) =>
    ({ passed with phase := .finished, status := passed.exhaustedStatus }, none)
  | (passed, .stuck step) => (passed, some (.broken step))
  | (passed, .request target) =>
    let asked := passed.ask target
    match receiver.tune passed.calls asked.attempts target.tuning with
    | none => ({ asked with phase := .tuning asked.attempts target }, none)
    | some error =>
      if error.isFatal then
        ({ asked with phase := .finished, status := .failed }, some (.rejected error))
      else
        have := untriedKeys_lt planned
        (asked.settle target .failed).advance receiver
termination_by sweep.untriedKeys

/-- What an event leads to: the sweep waits for the next event, or it moves on first. -/
inductive Progress (ι : Type) where
  | waits (sweep : Sweep ι)
  | movesOn (sweep : Sweep ι)

def Progress.complete [CandidateSource ι] (receiver : Receiver) :
    Progress ι → Sweep ι × Option (Failure ScanError)
  | waits sweep => (sweep, none)
  | movesOn sweep => sweep.advance receiver

def start [CandidateSource ι] (sweep : Sweep ι) (receiver : Receiver) :
    Sweep ι × Option (Failure ScanError) :=
  { sweep with candidates := CandidateSource.reset sweep.candidates }.advance receiver

/-! ## Events -/

def noteFinds (sweep : Sweep ι) : Sweep ι :=
  { sweep with
    status := if sweep.status = .blank ∧ !sweep.topology.isEmpty then .partly else sweep.status }

def leaveChannel (sweep : Sweep ι) (target : Target) (success : Bool) : Sweep ι :=
  let (channel, closing, _) := sweep.channel.finish
  let left : Sweep ι :=
    { sweep with
      channel
      topology := sweep.topology.endChannel
      calls := sweep.calls ++ closing
      phase := .idle
      channelsScanned := sweep.channelsScanned + 1
      anyComplete := sweep.anyComplete || success }
  (left.settle target (if success then .scanned else .failed)).noteFinds

def hear (sweep : Sweep ι) (target : Target) : ChannelOutcome → Progress ι
  | .running => .waits sweep
  | .finished success => .movesOn (sweep.leaveChannel target success)

def beginChannel (sweep : Sweep ι) (receiver : Receiver) (target : Target) : Progress ι :=
  let tuning := (receiver.currentTuning sweep.calls).getD target.tuning
  let (channel, calls, outcome) := sweep.channel.start receiver sweep.calls
  let begun : Sweep ι :=
    { sweep with
      channel
      topology := sweep.topology.beginChannel tuning
      calls := sweep.calls ++ calls
      phase := .scanning target }
  begun.hear target outcome

def passOver (sweep : Sweep ι) (target : Target) : Sweep ι :=
  { sweep with phase := .idle }.settle target .failed

def deliver (sweep : Sweep ι) (target : Target) (filter : FilterId) (delivery : Delivery) :
    Progress ι :=
  let (channel, calls, found) := sweep.channel.handle filter delivery
  let heard : Sweep ι :=
    { sweep with
      channel
      topology := sweep.topology.applyAll found
      calls := sweep.calls ++ calls }
  heard.hear target channel.outcome

/-- Takes an event up to the next decision. One that does not belong to the present phase changes
nothing. -/
def react (sweep : Sweep ι) (receiver : Receiver) (event : ScanEvent) : Progress ι :=
  match event, sweep.phase with
  | .lock attempt locked, .tuning current target =>
    if attempt = current then
      if locked then sweep.beginChannel receiver target else .movesOn (sweep.passOver target)
    else .waits sweep
  | .delivery filter delivery, .scanning target => sweep.deliver target filter delivery
  | .detuned, .scanning target => .movesOn (sweep.leaveChannel target sweep.channel.success)
  | _, _ => .waits sweep

def handle [CandidateSource ι] (sweep : Sweep ι) (receiver : Receiver) (event : ScanEvent) :
    Sweep ι × Option (Failure ScanError) :=
  (sweep.react receiver event).complete receiver

/-- What a silence is taken for: a missing lock or a lost channel. -/
def missing? (sweep : Sweep ι) : Option ScanEvent :=
  match sweep.phase with
  | .tuning attempt _ => some (.lock attempt false)
  | .scanning _ => some .detuned
  | .idle | .finished => none

def stall [CandidateSource ι] (sweep : Sweep ι) (receiver : Receiver) :
    Sweep ι × Option (Failure ScanError) :=
  match sweep.missing? with
  | some event => sweep.handle receiver event
  | none => (sweep, none)

def cancel (sweep : Sweep ι) : Sweep ι :=
  if sweep.isFinished then sweep
  else
    let (channel, closing) := sweep.channel.cancel
    { sweep with
      channel
      topology := sweep.topology.endChannel
      calls := sweep.calls ++ closing
      phase := .finished
      status := .cancelled }

end Sweep

end DvbScan
