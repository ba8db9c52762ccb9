import DvbScan.Store.Basic
import DvbScan.Store.Error

/-!
# The storage worker

One worker holds the store and does its jobs in the order in which they are given. Nobody waits for a
write; what goes wrong is kept and told to the next one who asks whether all is done.
-/

namespace DvbScan

/-- Work on the store that may fail, having changed it or not. -/
abbrev StoreAction (α : Type) := Store → Store × Except StoreError α

/-- Writes a batch under a source, which may fail. -/
abbrev StoreWriter := String → Batch → StoreAction Unit

/-- The writing of the store itself has no failure. -/
def Store.writer : StoreWriter := fun source batch store => ((store.insert source batch).1, .ok ())

inductive StoreJob (α : Type) where
  | insert (source : String) (batch : Batch)
  | act (action : StoreAction Unit)
  /-- To tell whether all earlier jobs went well. -/
  | drain
  /-- To give the result of an action to whoever asked. -/
  | query (action : StoreAction α)
  /-- A question whose action takes the worker down. -/
  | crash

inductive JobAnswer (α : Type) where
  /-- Nobody waits. -/
  | queued
  | drained (result : Except StoreError Unit)
  | result (result : Except StoreError α)

structure StorageWorker where
  store : Store
  /-- The first failure that nobody has been told of. -/
  firstError : Option StoreError
  /-- Whether the worker still takes jobs. -/
  running : Bool
  deriving DecidableEq, Repr

namespace StorageWorker

def new (store : Store) : StorageWorker := { store, firstError := none, running := true }

/-- Keeps a failure, unless an earlier one waits to be told. -/
def note (worker : StorageWorker) (result : Except StoreError Unit) : StorageWorker :=
  match result with
  | .ok () => worker
  | .error error => { worker with firstError := worker.firstError.or (some error) }

def tell (worker : StorageWorker) : StorageWorker × Except StoreError Unit :=
  ({ worker with firstError := none },
    match worker.firstError with
    | some error => .error error
    | none => .ok ())

/-- Does a job of a worker that is running. A failure is kept, be it of a batch or of an action. -/
def perform {α : Type} (writer : StoreWriter) (worker : StorageWorker) :
    StoreJob α → StorageWorker × JobAnswer α
  | .insert source batch =>
    let (store, result) := writer source batch worker.store
    ({ worker with store }.note result, .queued)
  | .act action =>
    let (store, result) := action worker.store
    ({ worker with store }.note result, .queued)
  | .drain =>
    let (told, result) := worker.tell
    (told, .drained result)
  | .query action =>
    let (store, result) := action worker.store
    ({ worker with store }, .result result)
  | .crash => ({ worker with running := false }, .result (.error .workerStopped))

def unanswered {α : Type} : StoreJob α → JobAnswer α
  | .insert _ _ | .act _ => .queued
  | .drain => .drained (.error .workerStopped)
  | .query _ | .crash => .result (.error .workerStopped)

def runWith {α : Type} (writer : StoreWriter) (worker : StorageWorker) (job : StoreJob α) :
    StorageWorker × JobAnswer α :=
  if worker.running then worker.perform writer job else (worker, unanswered job)

def runAllWith {α : Type} (writer : StoreWriter) (worker : StorageWorker) :
    List (StoreJob α) → StorageWorker × List (JobAnswer α)
  | [] => (worker, [])
  | job :: rest =>
    let (next, answer) := worker.runWith writer job
    let (last, answers) := next.runAllWith writer rest
    (last, answer :: answers)

def run {α : Type} (worker : StorageWorker) (job : StoreJob α) : StorageWorker × JobAnswer α :=
  worker.runWith Store.writer job

def runAll {α : Type} (worker : StorageWorker) (jobs : List (StoreJob α)) :
    StorageWorker × List (JobAnswer α) :=
  worker.runAllWith Store.writer jobs

/-- Writes batches under a source, the empty ones left out, and tells whether all went well so far. -/
def commit (worker : StorageWorker) (source : String) (batches : List Batch) :
    StorageWorker × Except StoreError Unit :=
  let jobs : List (StoreJob Unit) := (batches.filter (!·.isEmpty)).map (.insert source)
  let (written, _) := worker.runAll jobs
  match written.run (.drain : StoreJob Unit) with
  | (told, .drained result) => (told, result)
  | (told, _) => (told, .ok ())

end StorageWorker

end DvbScan
