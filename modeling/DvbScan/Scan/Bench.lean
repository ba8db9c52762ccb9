import DvbScan.Scan.EventLoop

/-!
# Receivers for the bench

Two receivers without hardware. One answers by settings, which may change between the steps of a scan. The
other plays a script of what each frequency carries and gives the events itself, so that a whole sweep is
a value.
-/

namespace DvbScan

/-- How a receiver answers until its settings are changed. -/
structure BenchSettings where
  /-- The failure of requests to tune. -/
  tuneError : Option ScanError
  /-- How many requests fail; all if absent. -/
  failures : Option Nat
  /-- The tables for which no filter opens. -/
  refused : List UInt8
  locked : Option Tuning
  /-- How many requests to tune came before. -/
  earlier : Nat

namespace BenchSettings

def idle : BenchSettings := ⟨none, none, [], none, 0⟩

def receiver (settings : BenchSettings) : Receiver where
  tune calls _ _ :=
    if settings.failures.all ((Call.tunes calls).length < settings.earlier + ·) then
      settings.tuneError
    else none
  currentTuning _ := settings.locked
  openFilter _ _ request :=
    if settings.refused.contains request.tableId then
      some ⟨request.pid, request.tableId, .other, ""⟩
    else none

end BenchSettings

inductive ScriptItem where
  | delivery (delivery : Delivery)
  | detuned

structure ScriptEntry where
  frequency : UInt32
  /-- The outcome of tuning to it, if one comes. -/
  lock : Option Bool
  /-- What comes on a filter for a table. -/
  tables : List (UInt8 × List ScriptItem)
  /-- The parameters that the device reports. -/
  actual : Option Tuning
  /-- Why a request to tune to it is refused. -/
  error : Option ScanError

structure Script where
  entries : List ScriptEntry
  /-- After how many requests to tune the events end. -/
  closeAfter : Option Nat
  current : Option ScriptEntry
  queue : List ScanEvent
  tunes : Nat
  closed : Bool

namespace Script

def new (entries : List ScriptEntry) (closeAfter : Option Nat) : Script :=
  ⟨entries, closeAfter, none, [], 0, false⟩

def entry? (script : Script) (tuning : Tuning) : Option ScriptEntry :=
  script.entries.find? fun entry => tuning.frequency? == some entry.frequency

def add (script : Script) (events : List ScanEvent) : Script :=
  if script.closed then script else { script with queue := script.queue ++ events }

def event (filter : FilterId) : ScriptItem → ScanEvent
  | .delivery delivery => .delivery filter delivery
  | .detuned => .detuned

/-- Takes notice of a call. A frequency without an entry has nothing to lock on. -/
def observe (script : Script) : Call → Script
  | .tune attempt tuning _ =>
    let current := script.entry? tuning
    let counted := { script with tunes := script.tunes + 1, current }
    if (current.bind (·.error)).isSome then counted
    else
      let lock := match current with
        | some entry => entry.lock
        | none => some false
      let told := counted.add (lock.map (.lock attempt)).toList
      { told with closed := told.closed || told.closeAfter.any (· ≤ told.tunes) }
  | .openFilter filter request =>
    let items := (script.current.bind (·.tables.lookup request.tableId)).getD []
    script.add (items.map (event filter))
  | .closeFilter _ => script

def source : EventSource Script where
  observe script calls := calls.foldl observe script
  await script := match script.queue with
    | event :: queue => (.event event, { script with queue })
    | [] => (if script.closed then .closed else .silence, script)

def receiver (script : Script) : Receiver where
  tune _ _ tuning := (script.entry? tuning).bind (·.error)
  currentTuning calls := do
    let (_, tuning, _) ← (Call.tunes calls).getLast?
    (← script.entry? tuning).actual
  openFilter _ _ _ := none

end Script

end DvbScan
