import DvbScan.Proofs.SweepSteps

/-!
# What happens to the channels of a run

A target locks, its channel tells what it carries, and it is left, with success or without. These notes are taken
of the events as they arrive, beside the state that the sweep keeps; the figures of a sweep are those of its notes.
-/

namespace DvbScan

inductive SweepNote where
  /-- The channel of a target has locked. -/
  | locked (target : Target)
  /-- A section on the channel that is heard has told something. -/
  | told (finding : Finding)
  /-- The channel of a target was left, with success or without. -/
  | left (target : Target) (success : Bool)
  deriving DecidableEq, Repr

namespace SweepNote

def endings (notes : List SweepNote) : List Bool :=
  notes.filterMap fun
    | left _ success => some success
    | locked _ | told _ => none

@[simp]
theorem endings_append (first second : List SweepNote) :
    endings (first ++ second) = endings first ++ endings second :=
  List.filterMap_append

@[simp]
theorem endings_told (findings : List Finding) : endings (findings.map told) = [] := by
  unfold endings
  rw [List.filterMap_map]
  exact List.filterMap_eq_nil_iff.mpr fun _ _ => rfl

def ofOutcome (target : Target) : ChannelOutcome → List SweepNote
  | .running => []
  | .finished success => [left target success]

end SweepNote

namespace Sweep

variable {ι : Type}

open SweepNote (endings ofOutcome endings_append endings_told)

/-- What happens to channels when an event arrives: nothing, unless the event belongs to the present phase. -/
def notesOfEvent (sweep : Sweep ι) (receiver : Receiver) (event : ScanEvent) : List SweepNote :=
  match event, sweep.phase with
  | .lock attempt locked, .tuning current target =>
    if attempt = current ∧ locked = true then
      .locked target :: ofOutcome target (sweep.channel.start receiver sweep.calls).2.2
    else []
  | .delivery filter delivery, .scanning target =>
    let (channel, _, found) := sweep.channel.handle filter delivery
    found.map .told ++ ofOutcome target channel.outcome
  | .detuned, .scanning target => [.left target sweep.channel.success]
  | _, _ => []

def notes (sweep : Sweep ι) (receiver : Receiver) : SweepAct → List SweepNote
  | .event event => sweep.notesOfEvent receiver event
  | .stall => match sweep.missing? with
    | some event => sweep.notesOfEvent receiver event
    | none => []
  | .start | .cancel => []

variable [CandidateSource ι]

def notesOf (sweep : Sweep ι) (receiver : Receiver) : List SweepAct → List SweepNote
  | [] => []
  | act :: rest => sweep.notes receiver act ++ (sweep.act receiver act).1.notesOf receiver rest

/-- How an act leads to the next decision, and what is noted on the way. -/
inductive Noted (sweep : Sweep ι) (receiver : Receiver) : SweepAct → Progress ι → List SweepNote → Prop
  | ignored {act : SweepAct} (given : act ≠ .start) : Noted sweep receiver act (.waits sweep) []
  | started : Noted sweep receiver .start
      (.movesOn { sweep with candidates := CandidateSource.reset sweep.candidates }) []
  | locked {act : SweepAct} {attempt : AttemptId} {target : Target} (given : act ≠ .start)
      (phase : sweep.phase = .tuning attempt target) :
      Noted sweep receiver act (sweep.beginChannel receiver target)
        (.locked target :: ofOutcome target (sweep.channel.start receiver sweep.calls).2.2)
  | unlocked {act : SweepAct} {attempt : AttemptId} {target : Target} (given : act ≠ .start)
      (phase : sweep.phase = .tuning attempt target) :
      Noted sweep receiver act (.movesOn (sweep.passOver target)) []
  | delivered {act : SweepAct} {target : Target} (given : act ≠ .start) (filter : FilterId)
      (delivery : Delivery) (phase : sweep.phase = .scanning target) :
      Noted sweep receiver act (sweep.deliver target filter delivery)
        ((sweep.channel.handle filter delivery).2.2.map .told ++
          ofOutcome target (sweep.channel.handle filter delivery).1.outcome)
  | left {act : SweepAct} {target : Target} (given : act ≠ .start) (phase : sweep.phase = .scanning target) :
      Noted sweep receiver act (.movesOn (sweep.leaveChannel target sweep.channel.success))
        [.left target sweep.channel.success]
  | cancelled : Noted sweep receiver .cancel (.waits
      { sweep with
        channel := sweep.channel.cancel.1
        topology := sweep.topology.endChannel
        calls := sweep.calls ++ sweep.channel.cancel.2
        phase := .finished
        status := .cancelled }) []

theorem noted_react (sweep : Sweep ι) (receiver : Receiver) {act : SweepAct} (given : act ≠ .start)
    (event : ScanEvent) :
    Noted sweep receiver act (sweep.react receiver event) (sweep.notesOfEvent receiver event) := by
  unfold react notesOfEvent
  cases phase : sweep.phase with
  | idle | finished => cases event <;> exact .ignored given
  | tuning current target =>
    cases event with
    | delivery | detuned => exact .ignored given
    | lock attempt locked =>
      by_cases same : attempt = current
      · cases locked with
        | true =>
          simp only [same, and_self, if_true]
          exact .locked given phase
        | false =>
          simp only [same, Bool.false_eq_true, and_false, if_true, if_false]
          exact .unlocked given phase
      · simp only [same, false_and, if_false]
        exact .ignored given
  | scanning target =>
    cases event with
    | lock => exact .ignored given
    | delivery filter delivery => exact .delivered given filter delivery phase
    | detuned => exact .left given phase

theorem noted (sweep : Sweep ι) (receiver : Receiver) (act : SweepAct) :
    Noted sweep receiver act (sweep.prepare receiver act) (sweep.notes receiver act) := by
  cases act with
  | start => exact .started
  | event event => exact sweep.noted_react receiver SweepAct.noConfusion event
  | stall =>
    unfold prepare notes
    simp only
    cases sweep.missing? with
    | some event => exact sweep.noted_react receiver SweepAct.noConfusion event
    | none => exact .ignored SweepAct.noConfusion
  | cancel =>
    unfold prepare cancel
    simp only
    split
    next => exact .ignored SweepAct.noConfusion
    next => exact .cancelled

/-- What the way to a decision keeps with the notes that are taken on it, and moving on keeps without, a run keeps
with all its notes. -/
theorem actAll_of_noted (Holds : Sweep ι → List SweepNote → Prop) {sweep : Sweep ι} {notes : List SweepNote}
    (holds : Holds sweep notes) (receiver : Receiver)
    (prepares : ∀ (sweep : Sweep ι) (notes : List SweepNote) (act : SweepAct), Holds sweep notes →
      Holds (sweep.prepare receiver act).sweep (notes ++ sweep.notes receiver act))
    (advances : ∀ (sweep : Sweep ι) (notes : List SweepNote), Holds sweep notes →
      Holds (sweep.advance receiver).1 notes)
    (acts : List SweepAct) : Holds (sweep.actAll receiver acts) (notes ++ sweep.notesOf receiver acts) := by
  induction acts generalizing sweep notes with
  | nil => exact (List.append_nil notes).symm ▸ holds
  | cons act rest ih =>
    rw [notesOf, ← List.append_assoc]
    refine ih ?_
    exact act_of_prepare (Holds · (notes ++ sweep.notes receiver act)) (prepares sweep notes act holds)
      fun moving => advances moving _

/-- What is kept by giving up transports, asking, settling and a new phase, is kept when a sweep moves on. -/
theorem advance_of_moves (Holds : Sweep ι → Prop) {sweep : Sweep ι} (holds : Holds sweep) (receiver : Receiver)
    (passes : ∀ sweep keys candidates, Holds sweep → Holds { sweep.giveUp keys with candidates })
    (asks : ∀ sweep target, Holds sweep → Holds (sweep.ask target))
    (settles : ∀ sweep target, Holds sweep → Holds (sweep.settle target .failed))
    (ends : ∀ sweep phase status, Holds sweep → Holds { sweep with phase, status }) :
    Holds (sweep.advance receiver).1 := by
  have passing {sweep passed : Sweep ι} {next : Plan} (holds : Holds sweep)
      (planned : sweep.plan = (passed, next)) : Holds passed := by
    obtain ⟨keys, candidates, given⟩ := sweep.plan_fst
    rw [planned] at given
    rw [show passed = _ from given]
    exact passes sweep keys candidates holds
  fun_induction sweep.advance receiver with
  | case1 sweep passed planned => exact ends _ _ _ (passing holds planned)
  | case2 sweep passed planned => exact ends _ _ _ (passing holds planned)
  | case3 sweep passed step planned => exact passing holds planned
  | case4 sweep passed target planned asked accepted =>
    exact ends asked _ asked.status (asks _ _ (passing holds planned))
  | case5 sweep passed target planned asked error refused fatal =>
    exact ends _ _ _ (asks _ _ (passing holds planned))
  | case6 sweep passed target planned asked error refused passable _ ih =>
    exact ih (settles _ _ (asks _ _ (passing holds planned)))

/-- The sweep has counted the channels that were left, and knows whether one was left with success. -/
structure Tallies (sweep : Sweep ι) (notes : List SweepNote) : Prop where
  channelsScanned : sweep.channelsScanned = (endings notes).length
  anyComplete : sweep.anyComplete = true ↔ true ∈ endings notes

omit [CandidateSource ι] in
theorem tallies_new (platform : Platform) (candidates : ι) (timeouts : Timeouts) :
    (new platform candidates timeouts).Tallies [] :=
  ⟨rfl, iff_of_false nofun List.not_mem_nil⟩

namespace Tallies

variable {sweep : Sweep ι} {notes more : List SweepNote}

omit [CandidateSource ι]

theorem leaveChannel (tallies : sweep.Tallies notes) (target : Target) (success : Bool)
    (ending : endings more = [success]) : (sweep.leaveChannel target success).Tallies (notes ++ more) where
  channelsScanned := by
    rw [endings_append, ending, List.length_append, ← tallies.channelsScanned]
    rfl
  anyComplete := by
    rw [endings_append, ending, List.mem_append, ← tallies.anyComplete, List.mem_singleton]
    change (sweep.anyComplete || success) = true ↔ _
    rw [Bool.or_eq_true, eq_comm (a := true)]

theorem unended (tallies : sweep.Tallies notes) (none : endings more = []) : sweep.Tallies (notes ++ more) := by
  constructor
  · rw [endings_append, none, List.append_nil]
    exact tallies.channelsScanned
  · rw [endings_append, none, List.append_nil]
    exact tallies.anyComplete

theorem hear (tallies : sweep.Tallies notes) (target : Target) (outcome : ChannelOutcome)
    (ending : endings more = endings (ofOutcome target outcome)) :
    (sweep.hear target outcome).sweep.Tallies (notes ++ more) := by
  cases outcome with
  | running => exact tallies.unended ending
  | finished success => exact tallies.leaveChannel target success ending

variable [CandidateSource ι]

theorem prepare (tallies : sweep.Tallies notes) (receiver : Receiver) (act : SweepAct) :
    (sweep.prepare receiver act).sweep.Tallies (notes ++ sweep.notes receiver act) := by
  have noted := sweep.noted receiver act
  generalize sweep.prepare receiver act = progress, sweep.notes receiver act = more at noted ⊢
  cases noted with
  | ignored => exact tallies.unended rfl
  | started => exact Tallies.unended ⟨tallies.channelsScanned, tallies.anyComplete⟩ rfl
  | locked given phase =>
    refine hear ?_ _ _ rfl
    exact ⟨tallies.channelsScanned, tallies.anyComplete⟩
  | unlocked given phase => exact Tallies.unended ⟨tallies.channelsScanned, tallies.anyComplete⟩ rfl
  | delivered given filter delivery phase =>
    refine hear ?_ _ _ ?_
    · exact ⟨tallies.channelsScanned, tallies.anyComplete⟩
    · rw [endings_append, endings_told, List.nil_append]
      rfl
  | left given phase => exact tallies.leaveChannel _ _ rfl
  | cancelled => exact Tallies.unended ⟨tallies.channelsScanned, tallies.anyComplete⟩ rfl

theorem advance (tallies : sweep.Tallies notes) (receiver : Receiver) : (sweep.advance receiver).1.Tallies notes := by
  refine advance_of_moves (·.Tallies notes) tallies receiver ?_ ?_ ?_ ?_
  · exact fun _ _ _ tallies => ⟨tallies.channelsScanned, tallies.anyComplete⟩
  · exact fun _ _ tallies => ⟨tallies.channelsScanned, tallies.anyComplete⟩
  · exact fun _ _ tallies => ⟨tallies.channelsScanned, tallies.anyComplete⟩
  · exact fun _ _ _ tallies => ⟨tallies.channelsScanned, tallies.anyComplete⟩

theorem actAll (tallies : sweep.Tallies notes) (receiver : Receiver) (acts : List SweepAct) :
    (sweep.actAll receiver acts).Tallies (notes ++ sweep.notesOf receiver acts) :=
  actAll_of_noted Tallies tallies receiver (fun _ _ act tallies => tallies.prepare receiver act)
    (fun _ _ tallies => tallies.advance receiver) acts

end Tallies

end Sweep

end DvbScan
