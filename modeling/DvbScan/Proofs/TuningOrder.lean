import DvbScan.Proofs.JustifiedEnd

/-!
# In which order a sweep tunes

Of the transports that wait on channels that were not asked for, a sweep asks for the first, by its network and then
by its number. Only when there is none does it read its source, up to the first tuning that was not asked for. As the
source keeps its place from one decision to the next, this is the first such tuning of all that it has given since
the sweep was last started.
-/

namespace DvbScan

def TransportKey.Precedes (first second : TransportKey) : Prop :=
  first.onid < second.onid ∨ first.onid = second.onid ∧ first.tsid ≤ second.tsid

theorem TransportKey.precedes_iff {first second : TransportKey} :
    first.Precedes second ↔ rank first ≤ rank second := by
  have bound := first.tsid.toNat_lt
  have bound' := second.tsid.toNat_lt
  change _ ↔ wordPairRank first.onid first.tsid ≤ wordPairRank second.onid second.tsid
  unfold Precedes wordPairRank
  rw [UInt16.lt_iff_toNat_lt, UInt16.le_iff_toNat_le, ← UInt16.toNat_inj]
  omega

/-! ## Transports that wait untried -/

namespace Topology

variable {topology : Topology} {asked : List EquivalenceKey} {key : TransportKey} {tuning : Tuning}

def Untried (topology : Topology) (asked : List EquivalenceKey) (key : TransportKey) (tuning : Tuning) : Prop :=
  ∃ transport, topology.transports.get? key = some transport ∧ transport.status = .pending ∧
    transport.tuning = some tuning ∧ tuning.equivalence ∉ asked

def FirstUntried (topology : Topology) (asked : List EquivalenceKey) (key : TransportKey) (tuning : Tuning) : Prop :=
  topology.Untried asked key tuning ∧
    ∀ other elsewhere, topology.Untried asked other elsewhere → key.Precedes other

theorem untried_iff :
    topology.Untried asked key tuning ↔ (key, tuning) ∈ topology.pending ∧ tuning.equivalence ∉ asked := by
  unfold Untried
  rw [mem_pending]
  simp only [OrderedMap.mem_entries_iff_get?, exists_and_right, ← and_assoc]

theorem pending_ordered (topology : Topology) :
    topology.pending.Pairwise fun first second => rank first.1 < rank second.1 := by
  unfold pending
  refine topology.transports.ordered.filterMap _ fun first second before former given latter given' => ?_
  obtain ⟨tuning, -, rfl⟩ := Option.map_eq_some_iff.mp given
  obtain ⟨other, -, rfl⟩ := Option.map_eq_some_iff.mp given'
  exact before

end Topology

namespace Sweep

open CandidateSource (Yields next)

variable {ι : Type} {sweep passed : Sweep ι} {target : Target} {source middle later : ι}
  {asked asked' : List EquivalenceKey} {topology : Topology}

theorem firstUntried_of_announcedTarget (chosen : sweep.announcedTarget.2 = some target) :
    ∃ key, target = ⟨target.tuning, some key⟩ ∧
      sweep.topology.FirstUntried sweep.attempted key target.tuning := by
  obtain ⟨entry, head, rfl⟩ := Option.map_eq_some_iff.mp chosen
  obtain ⟨rest, untried⟩ := List.head?_eq_some_iff.mp head
  have split := List.takeWhile_append_dropWhile (p := fun entry => sweep.isAttempted entry.2)
    (l := sweep.topology.pending)
  rw [untried] at split
  have ordered := sweep.topology.pending_ordered
  rw [← split] at ordered
  have behind := (List.pairwise_cons.mp (List.pairwise_append.mp ordered).2.1).1
  obtain ⟨waits, fresh⟩ := mem_and_fresh_of_dropWhile untried
  refine ⟨entry.1, rfl, Topology.untried_iff.mpr ⟨waits, ?_⟩, fun other elsewhere another => ?_⟩
  · simpa [isAttempted] using fresh
  · obtain ⟨waits', fresh'⟩ := Topology.untried_iff.mp another
    rw [TransportKey.precedes_iff]
    rw [← split] at waits'
    rcases List.mem_append.mp waits' with before | after
    · have tried : sweep.isAttempted elsewhere = true := by
        have holds := List.mem_takeWhile_imp before
        exact holds
      exact (fresh' (List.contains_iff_mem.mp tried)).elim
    · rcases List.mem_cons.mp after with same | after
      · rw [← same]
      · exact Nat.le_of_lt (behind (other, elsewhere) after)

theorem not_untried_of_unannounced (unannounced : sweep.announcedTarget.2 = none) (key : TransportKey)
    (tuning : Tuning) : ¬sweep.topology.Untried sweep.attempted key tuning := by
  rw [Topology.untried_iff]
  rintro ⟨waits, fresh⟩
  have tried : ∀ entry ∈ sweep.topology.pending, sweep.isAttempted entry.2 = true := by
    rw [← List.dropWhile_eq_nil_iff]
    exact List.head?_eq_none_iff.mp (Option.map_eq_none_iff.mp unannounced)
  exact fresh (List.contains_iff_mem.mp (tried (key, tuning) waits))

/-! ## The target that is due -/

variable [CandidateSource ι]

/-- The target that is due, with the keys that were asked for so far and the source as it was last reset. The source
is left as it is `later`. -/
inductive Due (source : ι) (asked : List EquivalenceKey) (topology : Topology) (later : ι) : Target → Prop
  | announced {key : TransportKey} {tuning : Tuning} (first : topology.FirstUntried asked key tuning) :
      Due source asked topology later ⟨tuning, some key⟩
  | candidate {given : List Tuning} {tuning : Tuning} (none : ∀ key waiting, ¬topology.Untried asked key waiting)
      (yields : Yields source (given ++ [tuning]) later) (tried : ∀ other ∈ given, other.equivalence ∈ asked)
      (fresh : tuning.equivalence ∉ asked) : Due source asked topology later ⟨tuning, .none⟩

theorem Due.congr (due : Due source asked topology later target) (same : ∀ key, key ∈ asked ↔ key ∈ asked') :
    Due source asked' topology later target := by
  have untried (key : TransportKey) (tuning : Tuning) :
      topology.Untried asked key tuning ↔ topology.Untried asked' key tuning := by
    unfold Topology.Untried
    simp only [same]
  cases due with
  | announced first =>
    refine .announced ⟨(untried _ _).mp first.1, fun other elsewhere another => ?_⟩
    exact first.2 other elsewhere ((untried _ _).mpr another)
  | candidate none yields tried fresh =>
    refine .candidate (fun key waiting => ?_) yields (fun other member => ?_) ?_
    · rw [← untried]
      exact none key waiting
    · exact (same _).mp (tried other member)
    · rw [← same]
      exact fresh

theorem Due.firstUntried (due : Due source asked topology later target) {key : TransportKey}
    (announced : target.transport = some key) : topology.FirstUntried asked key target.tuning := by
  cases due with
  | announced first =>
    cases announced
    exact first
  | candidate => cases announced

theorem Due.not_untried (due : Due source asked topology later target) (unannounced : target.transport = none)
    (key : TransportKey) (waiting : Tuning) : ¬topology.Untried asked key waiting := by
  cases due with
  | announced => cases unannounced
  | candidate none => exact none key waiting

/-- What is due on from a source that has given tried tunings is due from the beginning. -/
theorem Due.since (due : Due middle asked topology later target) (read : ReadFrom (· = source) asked middle) :
    Due source asked topology later target := by
  obtain ⟨_, tunings, rfl, yields, tried⟩ := read
  cases due with
  | announced first => exact .announced first
  | candidate none further triedMore fresh =>
    have whole := yields.trans further
    rw [← List.append_assoc] at whole
    refine .candidate none whole (fun other member => ?_) fresh
    exact (List.mem_append.mp member).elim (tried other) (triedMore other)

theorem due_of_plan (planned : sweep.plan = (passed, .request target)) :
    Due sweep.candidates sweep.attempted sweep.topology passed.candidates target := by
  have chosen : sweep.nextTarget.2 = .ok (some target) := by rw [(plan_eq_request planned).2]
  have fresh := fresh_of_plan planned
  rw [nextTarget_snd] at chosen
  have cases := sweep.planned
  rw [planned] at cases
  cases cases with
  | announced unsatisfied waits =>
    cases announced : sweep.announcedTarget.2 with
    | some other =>
      rw [announced] at chosen
      cases chosen
      obtain ⟨key, same, first⟩ := firstUntried_of_announcedTarget announced
      cases same
      exact .announced first
    | none =>
      rw [announced] at chosen
      cases (candidateTarget_eq_some chosen).1
  | candidate unsatisfied unannounced yields tried =>
    refine .candidate (not_untried_of_unannounced unannounced) yields (fun other member => ?_) ?_
    · exact List.contains_iff_mem.mp (tried other member)
    · simpa [isAttempted] using fresh

/-! ## Requests in turn -/

def keysOf (requests : List (TuneRequest ι)) : List EquivalenceKey :=
  requests.map (·.target.tuning.equivalence)

theorem due_of_requests {receiver : Receiver} (read : ReadFrom (· = source) sweep.attempted sweep.candidates)
    {earlier rest : List (TuneRequest ι)} {request : TuneRequest ι}
    (made : sweep.requests receiver = earlier ++ request :: rest) :
    Due source (keysOf earlier ++ sweep.attempted) request.before.topology request.passed.candidates
      request.target := by
  -- a request accepted, refused for good, passed over; then no request
  fun_induction sweep.requests receiver generalizing earlier with
  | case1 sweep passed target planned new accepted =>
    rcases List.cons_eq_append_iff.mp made with ⟨rfl, same⟩ | ⟨more, -, nothing⟩
    · obtain rfl : request = new := (List.cons.inj same).1
      exact (due_of_plan planned).since read
    · simp at nothing
  | case2 sweep passed target planned new error refused fatal =>
    rcases List.cons_eq_append_iff.mp made with ⟨rfl, same⟩ | ⟨more, -, nothing⟩
    · obtain rfl : request = new := (List.cons.inj same).1
      exact (due_of_plan planned).since read
    · simp at nothing
  | case3 sweep passed target planned new error refused passable _ ih =>
    rcases List.cons_eq_append_iff.mp made with ⟨rfl, same⟩ | ⟨more, rfl, later⟩
    · obtain rfl : request = new := (List.cons.inj same).1
      exact (due_of_plan planned).since read
    · have attempted : new.asked.attempted = target.tuning.equivalence :: sweep.attempted :=
        congrArg _ (untuned_of_plan planned).attempted
      have kept : sweep.attempted ⊆ new.asked.attempted := attempted ▸ List.subset_cons_self _ _
      have due := ih (read.trans kept (read_of_request planned).2.2.2) later
      refine due.congr fun key => ?_
      change key ∈ keysOf more ++ new.asked.attempted ↔ _
      rw [attempted]
      simp only [keysOf, List.map_cons, List.mem_append, List.mem_cons, or_assoc]
      exact or_left_comm
  | case4 => simp at made

/-! ## A run -/

/-- A sweep that tries a target has read, since its source was reset, nothing but tunings that were asked for. -/
def Reads (source : ι) (sweep : Sweep ι) : Prop :=
  ∀ target, sweep.phase.target? = some target → ReadFrom (· = source) sweep.attempted sweep.candidates

theorem Reads.advance (receiver : Receiver) (read : ReadFrom (· = source) sweep.attempted sweep.candidates) :
    (sweep.advance receiver).1.Reads source := by
  have kept := attempted_subset_advance sweep receiver
  have verdict := sweep.verdict receiver
  generalize sweep.advance receiver = result at kept verdict ⊢
  obtain ⟨after, failure⟩ := result
  intro target present
  cases verdict with
  | harvested phase => cases present.symm.trans (congrArg Phase.target? phase)
  | exhausted phase => cases present.symm.trans (congrArg Phase.target? phase)
  | accepted phase further => exact read.trans kept further
  | rejected error phase => cases present.symm.trans (congrArg Phase.target? phase)
  | broken step unsatisfied phase status pending further => exact read.trans kept further

theorem waits_of_untargeted (receiver : Receiver) {act : SweepAct} (given : act ≠ .start)
    (none : sweep.phase.target? = none) :
    ∃ waiting, sweep.prepare receiver act = .waits waiting ∧ waiting.phase.target? = .none := by
  have absent {phase : Phase} {target : Target} (there : sweep.phase = phase) (tries : phase.target? = some target) :
      False := by
    rw [there, tries] at none
    cases none
  have prepared := sweep.prepared receiver act
  generalize sweep.prepare receiver act = progress at prepared ⊢
  cases prepared with
  | ignored => exact ⟨sweep, rfl, none⟩
  | started => exact absurd rfl given
  | locked phase => exact (absent phase rfl).elim
  | unlocked given phase => exact (absent phase rfl).elim
  | delivered filter delivery phase => exact (absent phase rfl).elim
  | left given phase => exact (absent phase rfl).elim
  | cancelled => exact ⟨_, rfl, rfl⟩

theorem target_of_unstarted (none : sweep.phase.target? = none) (receiver : Receiver) {acts : List SweepAct}
    (given : .start ∉ acts) : (sweep.actAll receiver acts).phase.target? = .none := by
  refine actAll_of_act (·.phase.target? = .none) none fun act member before none => ?_
  have other : act ≠ .start := fun same => given (same ▸ member)
  obtain ⟨waiting, shape, still⟩ := waits_of_untargeted receiver other none
  rw [act_eq_complete, shape]
  exact still

theorem Reads.prepare (reads : sweep.Reads source) (receiver : Receiver) {act : SweepAct} (given : act ≠ .start)
    {target : Target} (present : sweep.phase.target? = some target) :
    ReadFrom (· = source) (sweep.prepare receiver act).sweep.attempted
      (sweep.prepare receiver act).sweep.candidates := by
  rw [candidates_prepare sweep receiver given, (sweep.untuned_prepare receiver act).attempted]
  exact reads target present

theorem Reads.act (reads : sweep.Reads source) (receiver : Receiver) {act : SweepAct} (given : act ≠ .start) :
    (sweep.act receiver act).1.Reads source := by
  rw [act_eq_complete]
  cases present : sweep.phase.target? with
  | none =>
    obtain ⟨waiting, shape, still⟩ := waits_of_untargeted receiver given present
    rw [shape]
    intro target tries
    cases still.symm.trans tries
  | some target =>
    have read := reads.prepare receiver given present
    cases progress : sweep.prepare receiver act with
    | waits waiting =>
      rw [progress] at read
      exact fun _ _ => read
    | movesOn moving =>
      rw [progress] at read
      exact Reads.advance receiver read

theorem actAll_concat (sweep : Sweep ι) (receiver : Receiver) (acts : List SweepAct) (last : SweepAct) :
    sweep.actAll receiver (acts ++ [last]) = ((sweep.actAll receiver acts).act receiver last).1 := by
  rw [actAll_append]
  rfl

theorem Reads.start (sweep : Sweep ι) (receiver : Receiver) :
    (sweep.act receiver .start).1.Reads (CandidateSource.reset sweep.candidates) := by
  let rewound : Sweep ι := { sweep with candidates := CandidateSource.reset sweep.candidates }
  have begun : ReadFrom (· = rewound.candidates) rewound.attempted rewound.candidates := .refl rfl
  exact Reads.advance receiver begun

theorem reads_of_started (sweep : Sweep ι) (receiver : Receiver) {acts : List SweepAct} (started : .start ∈ acts) :
    ∃ before middle, acts = before ++ .start :: middle ∧ .start ∉ middle ∧
      (sweep.actAll receiver acts).Reads (CandidateSource.reset (sweep.actAll receiver before).candidates) := by
  induction acts using List.reverseRecOn with
  | nil => cases started
  | append_singleton acts last ih =>
    rw [actAll_concat]
    by_cases restart : last = .start
    · subst restart
      exact ⟨acts, [], rfl, List.not_mem_nil, Reads.start _ receiver⟩
    · have former : .start ∈ acts :=
        (List.mem_append.mp started).resolve_right fun there => restart (List.mem_singleton.mp there).symm
      obtain ⟨before, middle, rfl, since, reads⟩ := ih former
      refine ⟨before, middle ++ [last], by simp, ?_, reads.act receiver restart⟩
      simpa [since] using Ne.symm restart

theorem requestsOf_append (sweep : Sweep ι) (receiver : Receiver) (first second : List SweepAct) :
    sweep.requestsOf receiver (first ++ second) =
      sweep.requestsOf receiver first ++ (sweep.actAll receiver first).requestsOf receiver second := by
  induction first generalizing sweep with
  | nil => rfl
  | cons act rest ih =>
    rw [List.cons_append, requestsOf, requestsOf, ih, List.append_assoc]
    rfl

theorem requestsOf_concat (sweep : Sweep ι) (receiver : Receiver) (acts : List SweepAct) (last : SweepAct) :
    sweep.requestsOf receiver (acts ++ [last]) = sweep.requestsOf receiver acts ++
      ((sweep.actAll receiver acts).prepare receiver last).requests receiver := by
  rw [requestsOf_append, requestsOf, requestsOf, List.append_nil]

theorem due_of_start {receiver : Receiver} {earlier rest : List (TuneRequest ι)} {request : TuneRequest ι}
    (made : (sweep.prepare receiver .start).requests receiver = earlier ++ request :: rest) :
    Due (CandidateSource.reset sweep.candidates) (keysOf earlier ++ sweep.attempted) request.before.topology
      request.passed.candidates request.target := by
  let rewound : Sweep ι := { sweep with candidates := CandidateSource.reset sweep.candidates }
  have begun : ReadFrom (· = rewound.candidates) rewound.attempted rewound.candidates := .refl rfl
  exact due_of_requests begun made

theorem Reads.due_of_act (reads : sweep.Reads source) {receiver : Receiver} {act : SweepAct} (given : act ≠ .start)
    {earlier rest : List (TuneRequest ι)} {request : TuneRequest ι}
    (made : (sweep.prepare receiver act).requests receiver = earlier ++ request :: rest) :
    Due source (keysOf earlier ++ sweep.attempted) request.before.topology request.passed.candidates
      request.target := by
  cases present : sweep.phase.target? with
  | none =>
    obtain ⟨waiting, shape, -⟩ := waits_of_untargeted receiver given present
    rw [shape] at made
    simp [Progress.requests] at made
  | some target =>
    have read := reads.prepare receiver given present
    have untuned := sweep.untuned_prepare receiver act
    cases progress : sweep.prepare receiver act with
    | waits waiting =>
      rw [progress] at made
      simp [Progress.requests] at made
    | movesOn moving =>
      rw [progress] at made read untuned
      rw [← show moving.attempted = sweep.attempted from untuned.attempted]
      exact due_of_requests read made

theorem mem_attempted_iff (platform : Platform) (candidates : ι) (timeouts : Timeouts) (receiver : Receiver)
    (acts : List SweepAct) (key : EquivalenceKey) :
    key ∈ ((new platform candidates timeouts).actAll receiver acts).attempted ↔
      key ∈ keysOf ((new platform candidates timeouts).requestsOf receiver acts) := by
  have noted := ((requestsNoted_new platform candidates timeouts).actAll receiver acts).keys
  rw [← List.mem_reverse, ← noted, tunes_actAll]
  change key ∈ List.map _ (List.map _ _) ↔ _
  rw [List.map_map]
  rfl

/-- A request of a run, behind earlier ones, is due on from the last start before it: a start before which no more
was asked for than the earlier requests, and after which the request was made with no other start in between. -/
def DueSinceStart (initial : Sweep ι) (receiver : Receiver) (acts : List SweepAct)
    (earlier : List (TuneRequest ι)) (request : TuneRequest ι) : Prop :=
  ∃ before middle after, acts = before ++ .start :: middle ++ after ∧ .start ∉ middle ∧
    initial.requestsOf receiver before <+: earlier ∧
    earlier ++ [request] <+: initial.requestsOf receiver (before ++ .start :: middle) ∧
    Due (CandidateSource.reset (initial.actAll receiver before).candidates) (keysOf earlier)
      request.before.topology request.passed.candidates request.target

theorem DueSinceStart.concat {initial : Sweep ι} {receiver : Receiver} {acts : List SweepAct}
    {earlier : List (TuneRequest ι)} {request : TuneRequest ι}
    (due : initial.DueSinceStart receiver acts earlier request) (last : SweepAct) :
    initial.DueSinceStart receiver (acts ++ [last]) earlier request := by
  obtain ⟨before, middle, after, rfl, since, former, made, due⟩ := due
  exact ⟨before, middle, after ++ [last], by simp, since, former, made, due⟩

theorem dueSinceStart_of_last (platform : Platform) (candidates : ι) (timeouts : Timeouts) (receiver : Receiver)
    (acts : List SweepAct) (last : SweepAct) {own rest : List (TuneRequest ι)} {request : TuneRequest ι}
    (made : (((new platform candidates timeouts).actAll receiver acts).prepare receiver last).requests receiver =
      own ++ request :: rest) :
    (new platform candidates timeouts).DueSinceStart receiver (acts ++ [last])
      ((new platform candidates timeouts).requestsOf receiver acts ++ own) request := by
  generalize initially : new platform candidates timeouts = initial at made ⊢
  have keys (key : EquivalenceKey) : key ∈ keysOf own ++ (initial.actAll receiver acts).attempted ↔
      key ∈ keysOf (initial.requestsOf receiver acts ++ own) := by
    rw [List.mem_append, ← initially, mem_attempted_iff, or_comm, ← List.mem_append]
    unfold keysOf
    rw [List.map_append]
  have up_to_request : initial.requestsOf receiver acts ++ own ++ [request] <+:
      initial.requestsOf receiver (acts ++ [last]) := by
    rw [requestsOf_concat, made]
    exact ⟨rest, by simp⟩
  by_cases restart : last = .start
  · subst restart
    refine ⟨acts, [], [], by simp, List.not_mem_nil, List.prefix_append _ _, up_to_request, ?_⟩
    exact (due_of_start made).congr keys
  · by_cases started : .start ∈ acts
    · obtain ⟨before, middle, rfl, since, reads⟩ := initial.reads_of_started receiver started
      have shape : before ++ .start :: middle ++ [last] = before ++ .start :: (middle ++ [last]) := by simp
      refine ⟨before, middle ++ [last], [], by simp, ?_, ?_, shape ▸ up_to_request, ?_⟩
      · simpa [since] using Ne.symm restart
      · rw [requestsOf_append, List.append_assoc]
        exact List.prefix_append _ _
      · exact (reads.due_of_act restart made).congr keys
    · have idle : initial.phase.target? = none := by
        rw [← initially]
        rfl
      obtain ⟨waiting, shape, -⟩ := waits_of_untargeted receiver restart (target_of_unstarted idle receiver started)
      rw [shape] at made
      simp [Progress.requests] at made

/-- Every call that asks to tune is a request of the run, and what it asks for is due: the first transport, by its
network and then by its number, that waits with a known tuning whose key was not asked for; or, if there is none, the
first tuning with such a key of all that the source has given since the last start. -/
theorem tunes_in_order (platform : Platform) (candidates : ι) (timeouts : Timeouts) (receiver : Receiver)
    (acts : List SweepAct) :
    let initial := new platform candidates timeouts
    Call.tunes (initial.actAll receiver acts).calls = (initial.requestsOf receiver acts).map (·.noted) ∧
      ∀ earlier request rest, initial.requestsOf receiver acts = earlier ++ request :: rest →
        initial.DueSinceStart receiver acts earlier request := by
  intro initial
  refine ⟨tunes_actAll initial receiver acts, fun earlier request rest made => ?_⟩
  -- from the end: the request is one of the last act, or it was made before
  induction acts using List.reverseRecOn generalizing rest with
  | nil => simp [requestsOf] at made
  | append_singleton acts last ih =>
    rw [requestsOf_concat] at made
    rcases List.append_eq_append_iff.mp made with ⟨own, rfl, now⟩ | ⟨more, former, latter⟩
    · exact dueSinceStart_of_last platform candidates timeouts receiver acts last now
    · rcases List.cons_eq_append_iff.mp latter with ⟨rfl, now⟩ | ⟨later, rfl, -⟩
      · rw [← List.nil_append (request :: rest)] at now
        have due := dueSinceStart_of_last platform candidates timeouts receiver acts last now
        rw [List.append_nil] at former due
        exact former ▸ due
      · exact (ih later former).concat last

end Sweep

namespace TwoTransports

open scoped HanDecoders

/-- The first request is for a candidate, as no transport is known. The second is for the one of the two transports
that was not received, though the source has two more candidates. -/
theorem announced_before_candidate :
    ∃ first second, sweep.requestsOf .willing acts = [first, second] ∧
      (first.target.transport = none ∧ ∀ key waiting, ¬first.before.topology.Untried [] key waiting) ∧
      second.target.transport = some ⟨0x233A, 0x2005⟩ ∧
      second.before.topology.FirstUntried [first.target.tuning.equivalence] ⟨0x233A, 0x2005⟩
        second.target.tuning := by
  have targets : (Sweep.runWithin .willing 4 sweep acts).map (fun run => run.1.map (·.target.transport)) =
      some [none, some ⟨0x233A, 0x2005⟩] := by
    decide +kernel
  obtain ⟨⟨requests, final⟩, run, shape⟩ := Option.map_eq_some_iff.mp targets
  have made : sweep.requestsOf .willing acts = requests := (Sweep.run_of_within run).1
  have inOrder := (Sweep.tunes_in_order .standard (.raster 34 36 : Candidates) .default .willing acts).2
  rw [show (Sweep.new .standard (.raster 34 36) .default) = sweep from rfl] at inOrder
  obtain ⟨first, _, rfl, candidate, shape⟩ := List.map_eq_cons_iff.mp shape
  obtain ⟨second, _, rfl, announced, shape⟩ := List.map_eq_cons_iff.mp shape
  cases List.map_eq_nil_iff.mp shape
  obtain ⟨_, _, _, -, -, -, -, before⟩ := inOrder [] first [second] made
  obtain ⟨_, _, _, -, -, -, -, due⟩ := inOrder [first] second [] made
  exact ⟨first, second, made, ⟨candidate, before.not_untried candidate⟩, announced, due.firstUntried announced⟩

end TwoTransports

end DvbScan
