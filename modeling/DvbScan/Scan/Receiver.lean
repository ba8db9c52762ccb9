import DvbScan.Scan.Error
import DvbScan.Scan.Platform

/-!
# The receiver

A scan does not wait for the device. It asks the receiver to tune, to open a filter or to close one, and
the outcomes come back later as events. What a receiver answers at once may depend on all that it has been
asked before, so it is a function of the calls so far.
-/

namespace DvbScan

abbrev AttemptId := Nat

/-- The number of a filter; no number is used twice in a scan. -/
abbrev FilterId := Nat

structure FilterRequest where
  pid : UInt16
  tableId : UInt8
  mask : UInt8
  /-- Milliseconds without a section after which the filter closes by itself. -/
  timeout : Nat
  deriving DecidableEq, Repr

inductive Call where
  /-- To tune, within the milliseconds given, whether or not it accepted. -/
  | tune (attempt : AttemptId) (tuning : Tuning) (timeout : Nat)
  /-- To open a filter, which it accepted. -/
  | openFilter (filter : FilterId) (request : FilterRequest)
  /-- To close an open filter. -/
  | closeFilter (filter : FilterId)
  deriving DecidableEq, Repr

namespace Call

def tunes (calls : List Call) : List (AttemptId × Tuning × Nat) :=
  calls.filterMap fun
    | tune attempt tuning timeout => some (attempt, tuning, timeout)
    | _ => none

def opened (calls : List Call) : List (FilterId × FilterRequest) :=
  calls.filterMap fun
    | openFilter filter request => some (filter, request)
    | _ => none

def closed (calls : List Call) : List FilterId :=
  calls.filterMap fun
    | closeFilter filter => some filter
    | _ => none

end Call

/-- The immediate answers of a receiver, each given the calls so far. -/
structure Receiver where
  /-- Why a request to tune is refused, if it is. -/
  tune : List Call → AttemptId → Tuning → Option ScanError
  /-- The parameters that the device reports after a lock, if it reports any. -/
  currentTuning : List Call → Option Tuning
  /-- Why a filter cannot be opened, if it cannot. -/
  openFilter : List Call → FilterId → FilterRequest → Option FilterError

inductive Delivery where
  | bytes (bytes : Bytes)
  /-- The filter has stopped. -/
  | stopped
  | failed (error : FilterError)
  deriving DecidableEq, Repr

inductive ScanEvent where
  /-- The outcome of a request to tune. -/
  | lock (attempt : AttemptId) (locked : Bool)
  | delivery (filter : FilterId) (delivery : Delivery)
  /-- The device has lost its channel. -/
  | detuned
  deriving DecidableEq, Repr

end DvbScan
