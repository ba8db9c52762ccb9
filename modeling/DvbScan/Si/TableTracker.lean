import DvbScan.OrderedMap
import DvbScan.Si.Section

/-!
# Which sections have arrived

A table is complete when all its sections of one version have arrived, in any order and with repeats in
between. One tracker follows the tables of one kind, each by its identifier, and is complete when all the
tables it has heard of are.
-/

namespace DvbScan

inductive Arrival where
  /-- New, and something is still missing. -/
  | new
  /-- The tables are complete with it. -/
  | completing
  /-- Heard before, and something is still missing. -/
  | repeated
  /-- For a table that was complete, and so are all others. -/
  | repeatedComplete
  /-- Of an older version; dropped. -/
  | outdated
  /-- Of a version that does not apply yet; dropped. -/
  | notYetCurrent
  /-- Numbered beyond the last section; dropped. -/
  | outOfRange
  deriving DecidableEq, Repr

namespace Arrival

def isComplete : Arrival → Bool
  | completing | repeatedComplete => true
  | _ => false

def isFresh : Arrival → Bool
  | new | completing => true
  | _ => false

/-- A table is no news while another table is incomplete. -/
def among (arrival : Arrival) (allComplete : Bool) : Arrival :=
  match arrival with
  | .completing => if allComplete then .completing else .new
  | .repeatedComplete => if allComplete then .repeatedComplete else .repeated
  | other => other

end Arrival

/-- Versions count up to 31 and start again at 0; a version below 8 after one from 24 on is newer. -/
def isNewerVersion (candidate adopted : Nat) : Bool :=
  candidate > adopted || (adopted ≥ 24 && candidate < 8)

/-- One table: the version in force, for each section number whether it has arrived, and whether all have.
The last is kept and not looked up, so that it has to follow every change of the others. -/
structure TableProgress where
  version : Nat
  received : List Bool
  isComplete : Bool
  deriving DecidableEq, Repr

namespace TableProgress

def start (version : Nat) : TableProgress := ⟨version, [], false⟩

def has (table : TableProgress) (number : Nat) : Bool :=
  table.received.getD number false

/-- Makes room for the sections up to the last number. A table that grows is incomplete again. -/
def extend (table : TableProgress) (last : Nat) : TableProgress :=
  if table.received.length < last + 1 then
    { table with
      received := table.received ++ List.replicate (last + 1 - table.received.length) false
      isComplete := false }
  else table

def mark (table : TableProgress) (number : Nat) : TableProgress :=
  { table with received := table.received.set number true }

def accept (table : TableProgress) (number last : Nat) : TableProgress × Arrival :=
  let extended := table.extend last
  let marked := extended.mark number
  if extended.isComplete then (marked, .repeatedComplete)
  else
    let judged := { marked with isComplete := marked.received.all id }
    (judged, if judged.isComplete then .completing else if extended.has number then .repeated else .new)

end TableProgress

structure TableTracker where
  tables : OrderedMap UInt16 TableProgress
  deriving DecidableEq

namespace TableTracker

def empty : TableTracker := ⟨.empty⟩

instance : Inhabited TableTracker := ⟨empty⟩

def isComplete (tracker : TableTracker) : Bool :=
  !tracker.tables.isEmpty && tracker.tables.values.all (·.isComplete)

def isTableComplete (tracker : TableTracker) (sectionId : UInt16) : Bool :=
  (tracker.tables.get? sectionId).any (·.isComplete)

def version? (tracker : TableTracker) (sectionId : UInt16) : Option Nat :=
  (tracker.tables.get? sectionId).map (·.version)

/-- The table that a section of the version belongs to: the one in force, or a new start; none if the
version is older. -/
def tableFor (tracker : TableTracker) (sectionId : UInt16) (version : Nat) : Option TableProgress :=
  match tracker.tables.get? sectionId with
  | none => some (.start version)
  | some table =>
    if table.version = version then some table
    else if isNewerVersion version table.version then some (.start version)
    else none

def track (tracker : TableTracker) (header : SectionHeader) : TableTracker × Arrival :=
  if !header.isCurrent then (tracker, .notYetCurrent)
  else if header.lastNumber < header.number then (tracker, .outOfRange)
  else
    let version := header.version.toNat % 32
    match tracker.tableFor header.sectionId version with
    | none => (tracker, .outdated)
    | some table =>
      let (table, arrival) := table.accept header.number.toNat header.lastNumber.toNat
      let next : TableTracker := ⟨tracker.tables.insert header.sectionId table⟩
      (next, arrival.among next.isComplete)

def reset (_tracker : TableTracker) : TableTracker := empty

end TableTracker

end DvbScan
