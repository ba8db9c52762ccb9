import DvbScan.Breakdown

/-!
# Keeping log files

A log file is kept for a number of days. What is older is removed, and nothing else that lies beside it.
Moments are nanoseconds since 1970; the calendar in which days are counted back has a first and a last
moment, and no date for a file from before the one or after the other.
-/

namespace DvbScan

structure LogEntry where
  name : String
  /-- Whether it is a file, and no directory. -/
  isFile : Bool
  modified : Int
  deriving DecidableEq, Repr

/-- What lies in a directory after some entries were put there in turn: each takes the place of one of its
name. -/
def LogEntry.settle (entries : List LogEntry) : List LogEntry :=
  entries.foldl (fun settled entry => settled.filter (·.name ≠ entry.name) ++ [entry]) []

namespace LogRetention

def logName : String := "siscan.log"

def nanosecondsPerDay : Int := 86400 * 1000000000

def calendarStart : Int := -96465292 * nanosecondsPerDay

def calendarEnd : Int := 95026237 * nanosecondsPerDay

/-- The greatest count of days whose milliseconds 63 bits can hold. -/
def greatestSpan : Int := Int64.maxValue.toInt / 86400000

/-- A count of days as 64 bits with a sign. -/
def signedDays (days : Nat) : Int := Int.bmod days UInt64.size

def cutoff (now : Int) (days : Nat) : Except Breakdown Int :=
  let span := signedDays days
  let earlier := now - span * nanosecondsPerDay
  if span < -greatestSpan ∨ greatestSpan < span then .error .daySpan
  else if earlier < calendarStart ∨ calendarEnd ≤ earlier then .error .calendar
  else .ok earlier

def isLog (entry : LogEntry) : Bool :=
  entry.isFile && logName.isPrefixOf entry.name

def isExpired (cutoff : Int) (entry : LogEntry) : Bool :=
  isLog entry && entry.modified < cutoff

/-- Whether the calendar has a date for an entry. No date is asked of what is not a log file. -/
def isDated (entry : LogEntry) : Bool :=
  !isLog entry || calendarStart ≤ entry.modified && entry.modified < calendarEnd

/-- The entries that go and those that stay. From a directory that is not there nothing goes. -/
def clean (now : Int) (days : Nat) (directory : Option (List LogEntry)) :
    Except Breakdown (List LogEntry × List LogEntry) :=
  match directory with
  | none => .ok ([], [])
  | some entries => do
    let moment ← cutoff now days
    if entries.all isDated then .ok (entries.partition (isExpired moment))
    else .error .date

end LogRetention

end DvbScan
