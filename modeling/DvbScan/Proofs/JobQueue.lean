import DvbScan.Store.Worker
import Mathlib.Data.List.DropRight

/-!
# The queue of the storage worker

Any number of handles give jobs to one worker, which takes them one at a time, the earliest first. So what the store
comes to, and what each job answers, is told by the jobs that were done before it and by nothing else: not by who gave
them, nor by when the worker came to them. The worker keeps one failure, the first one that no drain has told.
-/

namespace DvbScan

variable {α : Type}

/-! ## What jobs do, one after another -/

namespace StoreJob

/-- What a job does to the store, and what is kept of how it went. What a query comes to is not. -/
def work (writer : StoreWriter) : StoreJob α → StoreAction Unit
  | insert source batch => writer source batch
  | act action => action
  | query action => fun store => ((action store).1, .ok ())
  | drain | crash => fun store => (store, .ok ())

def effect (writer : StoreWriter) (store : Store) (job : StoreJob α) : Store := (job.work writer store).1

def failure? (writer : StoreWriter) (store : Store) (job : StoreJob α) : Option StoreError :=
  match (job.work writer store).2 with
  | .ok () => none
  | .error error => some error

def storeAfter (writer : StoreWriter) (store : Store) (jobs : List (StoreJob α)) : Store :=
  jobs.foldl (effect writer) store

def raised (writer : StoreWriter) (store : Store) : List (StoreJob α) → List StoreError
  | [] => []
  | job :: rest => (failure? writer store job).toList ++ raised writer (effect writer store job) rest

def isDrain : StoreJob α → Bool
  | drain => true
  | _ => false

/-- The failures of the jobs since the last drain. -/
def untold (writer : StoreWriter) (store : Store) (jobs : List (StoreJob α)) : List StoreError :=
  raised writer (storeAfter writer store (jobs.rdropWhile (!·.isDrain))) (jobs.rtakeWhile (!·.isDrain))

/-- What a job answers: a drain the first failure that was not told, a query its own result. -/
def answer (store : Store) (first : Option StoreError) : StoreJob α → JobAnswer α
  | insert _ _ | act _ => .queued
  | drain => .drained (first.elim (.ok ()) .error)
  | query action => .result (action store).2
  | crash => .result (.error .workerStopped)

/-- A job whose work comes to an end. -/
def Returns : StoreJob α → Prop
  | crash => False
  | _ => True

instance (job : StoreJob α) : Decidable job.Returns :=
  match job with
  | crash => isFalse id
  | insert _ _ | act _ | drain | query _ => isTrue trivial

/-- A query that nobody waits for. -/
def silenced : StoreJob α → StoreJob α
  | query action => act fun store => ((action store).1, .ok ())
  | job => job

variable {writer : StoreWriter}

theorem storeAfter_append (store : Store) (first second : List (StoreJob α)) :
    storeAfter writer store (first ++ second) = storeAfter writer (storeAfter writer store first) second :=
  List.foldl_append

theorem raised_append (store : Store) (first second : List (StoreJob α)) :
    raised writer store (first ++ second) =
      raised writer store first ++ raised writer (storeAfter writer store first) second := by
  induction first generalizing store with
  | nil => rfl
  | cons job rest ih =>
    rw [List.cons_append, raised, raised, ih, List.append_assoc]
    rfl

/-- After a drain there is nothing to tell; after another job its failure is the last to be told. -/
theorem untold_concat (store : Store) (jobs : List (StoreJob α)) (job : StoreJob α) :
    untold writer store (jobs ++ [job]) =
      if job.isDrain then []
      else untold writer store jobs ++ (failure? writer (storeAfter writer store jobs) job).toList := by
  unfold untold
  rw [List.rtakeWhile_concat, List.rdropWhile_concat]
  cases job.isDrain with
  | true => rfl
  | false =>
    simp only [Bool.not_false, if_true, Bool.false_eq_true, if_false]
    rw [raised_append, ← storeAfter_append, List.rdropWhile_append_rtakeWhile]
    exact congrArg _ (List.append_nil _)

end StoreJob

/-! ## One worker -/

namespace JobAnswer

def drains (answers : List (JobAnswer α)) : List (Except StoreError Unit) :=
  answers.filterMap fun
    | drained outcome => some outcome
    | queued | result _ => none

def told (answers : List (JobAnswer α)) : List StoreError :=
  (drains answers).filterMap fun
    | .ok () => none
    | .error error => some error

theorem drains_cons (first : JobAnswer α) (rest : List (JobAnswer α)) :
    drains (first :: rest) = drains [first] ++ drains rest :=
  List.filterMap_append (l := [first])

theorem told_cons (first : JobAnswer α) (rest : List (JobAnswer α)) :
    told (first :: rest) = told [first] ++ told rest := by
  unfold told
  rw [drains_cons, List.filterMap_append]

theorem told_answer (store : Store) (first : Option StoreError) (job : StoreJob α) :
    told [job.answer store first] = if job.isDrain then first.toList else [] := by
  cases job with
  | drain => cases first <;> rfl
  | _ => rfl

end JobAnswer

namespace StorageWorker

open StoreJob JobAnswer

variable (writer : StoreWriter)

theorem runWith_of_returns {job : StoreJob α} (returns : job.Returns) (store : Store) (first : Option StoreError) :
    runWith writer ⟨store, first, true⟩ job =
      (⟨effect writer store job, if job.isDrain then none else first.or (failure? writer store job), true⟩,
        job.answer store first) := by
  unfold runWith
  rw [if_pos rfl]
  cases job with
  | insert source batch =>
    simp only [perform, note, effect, failure?, work, isDrain, answer]
    cases (writer source batch store).2 <;> simp
  | act action =>
    simp only [perform, note, effect, failure?, work, isDrain, answer]
    cases (action store).2 <;> simp
  | drain =>
    cases first <;> rfl
  | query action => simp [perform, effect, failure?, work, isDrain, answer]
  | crash => exact returns.elim

theorem runAllWith_append (worker : StorageWorker) (first second : List (StoreJob α)) :
    worker.runAllWith writer (first ++ second) =
      (((worker.runAllWith writer first).1.runAllWith writer second).1,
        (worker.runAllWith writer first).2 ++ ((worker.runAllWith writer first).1.runAllWith writer second).2) := by
  induction first generalizing worker with
  | nil => rfl
  | cons job rest ih =>
    rw [List.cons_append, runAllWith, runAllWith]
    simp only [ih, List.cons_append]

theorem length_runAllWith (worker : StorageWorker) (jobs : List (StoreJob α)) :
    (worker.runAllWith writer jobs).2.length = jobs.length := by
  induction jobs generalizing worker with
  | nil => rfl
  | cons job rest ih =>
    rw [runAllWith]
    simp only [List.length_cons, ih]

/-- The store is that of the jobs done one after another, and the failure that is kept the first one not told. -/
theorem runAllWith_new {jobs : List (StoreJob α)} (returns : ∀ job ∈ jobs, job.Returns) (store : Store) :
    ((new store).runAllWith writer jobs).1 =
      ⟨storeAfter writer store jobs, (untold writer store jobs).head?, true⟩ := by
  induction jobs using List.reverseRecOn with
  | nil => rfl
  | append_singleton jobs job ih =>
    have before := ih fun other member => returns other (List.mem_append_left _ member)
    have last : job.Returns := returns job (List.mem_append_right _ List.mem_cons_self)
    rw [runAllWith_append, before, runAllWith, runWith_of_returns writer last, untold_concat, storeAfter_append]
    simp only [runAllWith, StorageWorker.mk.injEq, and_true]
    refine ⟨rfl, ?_⟩
    split
    next => rfl
    next => rw [List.head?_append, Option.head?_toList]

theorem runAllWith_split {before after : List (StoreJob α)} {job : StoreJob α}
    (returns : ∀ other ∈ before ++ job :: after, other.Returns) (store : Store) :
    ∃ later, ((new store).runAllWith writer (before ++ job :: after)).2 =
      ((new store).runAllWith writer before).2 ++
        job.answer (storeAfter writer store before) (untold writer store before).head? :: later := by
  have earlier : ∀ other ∈ before, other.Returns :=
    fun other member => returns other (List.mem_append_left _ member)
  have own : job.Returns := returns job (List.mem_append_right _ List.mem_cons_self)
  rw [runAllWith_append, runAllWith_new writer earlier, runAllWith, runWith_of_returns writer own]
  exact ⟨_, rfl⟩

/-- Every failure that is told was raised, and the failure of one job is told once at most. -/
theorem told_sublist {jobs : List (StoreJob α)} (returns : ∀ job ∈ jobs, job.Returns) (store : Store)
    (first : Option StoreError) :
    (told (runAllWith writer ⟨store, first, true⟩ jobs).2).Sublist (first.toList ++ raised writer store jobs) := by
  induction jobs generalizing store first with
  | nil => exact List.nil_sublist _
  | cons job rest ih =>
    have own : job.Returns := returns job List.mem_cons_self
    have later := ih (fun other member => returns other (List.mem_cons_of_mem _ member))
    have kept : (first.or (failure? writer store job)).toList.Sublist
        (first.toList ++ (failure? writer store job).toList) := by
      cases first with
      | none => exact .refl _
      | some error => exact List.sublist_append_left [error] _
    rw [runAllWith, runWith_of_returns writer own, told_cons, told_answer, raised]
    split
    next drain =>
      refine List.Sublist.append_left ((later _ none).trans ?_) _
      exact List.sublist_append_right _ _
    next =>
      rw [← List.append_assoc]
      exact (later _ _).trans (kept.append_right _)

theorem runWith_silenced (worker : StorageWorker) (job : StoreJob α) :
    (worker.runWith writer job.silenced).1 = (worker.runWith writer job).1 ∧
      drains [(worker.runWith writer job.silenced).2] = drains [(worker.runWith writer job).2] := by
  cases job with
  | query action =>
    simp only [silenced, runWith]
    split
    next => exact ⟨rfl, rfl⟩
    next => exact ⟨rfl, rfl⟩
  | _ => exact ⟨rfl, rfl⟩

theorem drains_silenced (worker : StorageWorker) (jobs : List (StoreJob α)) :
    drains (worker.runAllWith writer (jobs.map silenced)).2 = drains (worker.runAllWith writer jobs).2 := by
  induction jobs generalizing worker with
  | nil => rfl
  | cons job rest ih =>
    obtain ⟨next, said⟩ := runWith_silenced writer worker job
    rw [List.map_cons, runAllWith, runAllWith]
    simp only
    rw [drains_cons, drains_cons (worker.runWith writer job).2, said, next, ih]

end StorageWorker

/-! ## The queue -/

structure ServedJob (α : Type) where
  handle : Nat
  job : StoreJob α
  answer : JobAnswer α

def ServedJob.given (served : ServedJob α) : Nat × StoreJob α := (served.handle, served.job)

structure StorageQueue (α : Type) where
  worker : StorageWorker
  /-- The jobs that wait, in the order in which they were given. -/
  waiting : List (Nat × StoreJob α)
  /-- The jobs that were done, in the order in which that was. -/
  served : List (ServedJob α)

inductive QueueEvent (α : Type) where
  | give (handle : Nat) (job : StoreJob α)
  | work

def QueueEvent.given? : QueueEvent α → Option (Nat × StoreJob α)
  | give handle job => some (handle, job)
  | work => none

def QueueEvent.given (events : List (QueueEvent α)) : List (Nat × StoreJob α) := events.filterMap given?

namespace StorageQueue

open StoreJob JobAnswer QueueEvent

def new (store : Store) : StorageQueue α := { worker := .new store, waiting := [], served := [] }

def step (writer : StoreWriter) (queue : StorageQueue α) : QueueEvent α → StorageQueue α
  | .give handle job => { queue with waiting := queue.waiting ++ [(handle, job)] }
  | .work =>
    match queue.waiting with
    | [] => queue
    | (handle, job) :: rest =>
      let (worker, answer) := queue.worker.runWith writer job
      { worker, waiting := rest, served := queue.served ++ [⟨handle, job, answer⟩] }

def stepAll (writer : StoreWriter) (queue : StorageQueue α) (events : List (QueueEvent α)) : StorageQueue α :=
  events.foldl (step writer) queue

def jobs (queue : StorageQueue α) : List (StoreJob α) := queue.served.map ServedJob.job

/-- The jobs that were given were done in this order by the worker, or wait. -/
structure Serves (writer : StoreWriter) (store : Store) (given : List (Nat × StoreJob α)) (queue : StorageQueue α) :
    Prop where
  order : given = queue.served.map ServedJob.given ++ queue.waiting
  run : (StorageWorker.new store).runAllWith writer queue.jobs = (queue.worker, queue.served.map ServedJob.answer)

variable {writer : StoreWriter} {store : Store} {given : List (Nat × StoreJob α)} {queue : StorageQueue α}

theorem Serves.step (serves : queue.Serves writer store given) (event : QueueEvent α) :
    (queue.step writer event).Serves writer store (given ++ QueueEvent.given [event]) := by
  cases event with
  | give handle job =>
    refine ⟨?_, serves.run⟩
    rw [serves.order, List.append_assoc]
    rfl
  | work =>
    change Serves writer store (given ++ []) _
    rw [List.append_nil]
    unfold StorageQueue.step
    cases waits : queue.waiting with
    | nil => exact serves
    | cons entry rest =>
      constructor
      · simp only [List.map_append, List.append_assoc]
        rw [serves.order, waits]
        rfl
      · simp only [jobs, List.map_append]
        have before := serves.run
        unfold jobs at before
        rw [StorageWorker.runAllWith_append, before]
        rfl

theorem Serves.stepAll (serves : queue.Serves writer store given) (events : List (QueueEvent α)) :
    (queue.stepAll writer events).Serves writer store (given ++ QueueEvent.given events) := by
  induction events generalizing queue given with
  | nil =>
    rw [show QueueEvent.given ([] : List (QueueEvent α)) = [] from rfl, List.append_nil]
    exact serves
  | cons event rest ih =>
    have split : QueueEvent.given (event :: rest) = QueueEvent.given [event] ++ QueueEvent.given rest :=
      List.filterMap_append (l := [event])
    rw [split, ← List.append_assoc]
    exact ih (serves.step event)

theorem serves_new (writer : StoreWriter) (store : Store) : (new store : StorageQueue α).Serves writer store [] :=
  ⟨rfl, rfl⟩

theorem given_replicate_work (turns : Nat) :
    QueueEvent.given (List.replicate turns (.work : QueueEvent α)) = [] :=
  List.filterMap_eq_nil_iff.mpr fun _ member => List.eq_of_mem_replicate member ▸ rfl

theorem waiting_work (writer : StoreWriter) (queue : StorageQueue α) :
    (queue.step writer .work).waiting = queue.waiting.tail := by
  unfold step
  cases waits : queue.waiting with
  | nil => exact waits
  | cons entry rest => rfl

theorem waiting_stepAll_work (writer : StoreWriter) (queue : StorageQueue α) (turns : Nat) :
    (queue.stepAll writer (List.replicate turns .work)).waiting = queue.waiting.drop turns := by
  induction turns generalizing queue with
  | zero => rfl
  | succ turns ih =>
    rw [List.replicate_succ]
    refine (ih _).trans ?_
    rw [waiting_work, List.drop_tail]

theorem Serves.answer_eq (serves : queue.Serves writer store given) (returns : ∀ job ∈ queue.jobs, job.Returns)
    {before after : List (ServedJob α)} {served : ServedJob α} (split : queue.served = before ++ served :: after) :
    let earlier := before.map ServedJob.job
    served.answer =
      served.job.answer (storeAfter writer store earlier) (untold writer store earlier).head? := by
  intro earlier
  have parts : queue.jobs = earlier ++ served.job :: after.map ServedJob.job := by
    unfold jobs
    rw [split, List.map_append, List.map_cons]
  have ran := serves.run
  rw [parts] at returns ran
  obtain ⟨later, said⟩ := StorageWorker.runAllWith_split writer returns store
  rw [ran] at said
  have answers : before.map ServedJob.answer ++ served.answer :: after.map ServedJob.answer =
      ((StorageWorker.new store).runAllWith writer earlier).2 ++
        served.job.answer (storeAfter writer store earlier) (untold writer store earlier).head? :: later := by
    rw [← said, split, List.map_append, List.map_cons]
  have lengths : (before.map ServedJob.answer).length =
      ((StorageWorker.new store).runAllWith writer earlier).2.length := by
    rw [StorageWorker.length_runAllWith, List.length_map, List.length_map]
  exact (List.cons.inj (List.append_inj_right answers lengths)).1

theorem Serves.returns (serves : queue.Serves writer store given) (returns : ∀ entry ∈ given, entry.2.Returns) :
    ∀ job ∈ queue.jobs, job.Returns := by
  intro job member
  obtain ⟨served, listed, rfl⟩ := List.mem_map.mp member
  have asked : served.given ∈ given := by
    rw [serves.order]
    exact List.mem_append_left _ (List.mem_map_of_mem listed)
  exact returns _ asked

/-- What those who give jobs to a queue may count on. -/
structure Faithful (writer : StoreWriter) (store : Store) (given : List (Nat × StoreJob α))
    (queue : StorageQueue α) : Prop where
  /-- The jobs that are given are those that were done, in this order, and those that wait. -/
  order : given = queue.served.map ServedJob.given ++ queue.waiting
  /-- With time for the jobs that wait, each job is done once and in its turn. -/
  finished : (queue.stepAll writer (List.replicate queue.waiting.length .work)).served.map ServedJob.given = given
  /-- The store is that of the jobs done one after another. -/
  stored : queue.worker.store = storeAfter writer store queue.jobs
  /-- A drain answers the first failure since the drain before it, and a query what it comes to. -/
  answered : ∀ before served after, queue.served = before ++ served :: after →
    let earlier := before.map ServedJob.job
    served.answer = served.job.answer (storeAfter writer store earlier) (untold writer store earlier).head?
  /-- What drains tell are failures of different jobs. -/
  toldOnce : (told (queue.served.map ServedJob.answer)).Sublist (raised writer store queue.jobs)
  /-- Had every query come to a good end, the drains would answer the same. -/
  queries : drains ((StorageWorker.new store).runAllWith writer (queue.jobs.map silenced)).2 =
    drains (queue.served.map ServedJob.answer)

/-- Whichever handles give jobs, and whenever the worker has time for one, the queue is faithful. -/
theorem faithful_of_events (writer : StoreWriter) (store : Store) (events : List (QueueEvent α))
    (returns : ∀ entry ∈ QueueEvent.given events, entry.2.Returns) :
    Faithful writer store (QueueEvent.given events) ((new store).stepAll writer events) := by
  have serves : ((new store).stepAll writer events).Serves writer store (QueueEvent.given events) :=
    (serves_new writer store).stepAll events
  have written := serves.returns returns
  constructor
  case order => exact serves.order
  case finished =>
    have last := (serves.stepAll (List.replicate ((new store).stepAll writer events).waiting.length .work)).order
    rw [given_replicate_work, List.append_nil, waiting_stepAll_work, List.drop_length, List.append_nil] at last
    exact last.symm
  case stored =>
    have state := StorageWorker.runAllWith_new writer written store
    rw [serves.run] at state
    exact congrArg StorageWorker.store state
  case answered => exact fun before served after split => serves.answer_eq written split
  case toldOnce =>
    have sublist := StorageWorker.told_sublist writer written store none
    change (told ((StorageWorker.new store).runAllWith writer _).2).Sublist _ at sublist
    rw [serves.run] at sublist
    exact sublist
  case queries => rw [StorageWorker.drains_silenced, serves.run]

namespace TwoHandles

def full : StoreWriter
  | _, .regions _ => fun store => (store, .error (.notFound "room"))
  | source, batch => Store.writer source batch

def events : List (QueueEvent Unit) :=
  [.give 0 (.insert "aerial" .source), .give 1 (.insert "aerial" (.regions [⟨1, 2, "South"⟩])), .work,
    .give 1 (.act fun store => (store, .error (.notFound "second"))), .work,
    .give 0 (.query fun store => (store, .error (.notFound "asked"))), .give 0 .drain, .work, .work, .work,
    .give 1 .drain, .work]

/-- The first drain tells the first failure, and the second one nothing. -/
theorem faithful_events :
    let queue := (new .empty).stepAll full events
    (∀ entry ∈ QueueEvent.given events, entry.2.Returns) ∧
      Faithful full .empty (QueueEvent.given events) queue ∧
      drains (queue.served.map ServedJob.answer) = [.error (.notFound "room"), .ok ()] ∧
      raised full .empty queue.jobs = [.notFound "room", .notFound "second"] :=
  ⟨by decide, faithful_of_events full .empty events (by decide), rfl, rfl⟩

end TwoHandles

end StorageQueue

end DvbScan
