/-!
# Computations without a result

Most failures of this library are causes that belong to one domain: a token that names nothing, a table
that is cut short. A few computations have, besides those, steps that give no result: the result does not
exist in the machine type it is made for, or the step never ends. Nothing follows such a step in the
computation it happens in, whatever the domain.
-/

namespace DvbScan

/-- A step that gives no result. -/
inductive Breakdown where
  /-- A sum that does not fit. -/
  | sum
  /-- A product that does not fit. -/
  | product
  /-- A count of days too large for a span of time. -/
  | daySpan
  /-- A date before the first or after the last day of the calendar. -/
  | calendar
  /-- A moment for which the calendar has no date. -/
  | date
  /-- A search that never ends. -/
  | endless
  deriving DecidableEq, Repr

namespace Breakdown

def message : Breakdown → String
  | sum => "attempt to add with overflow"
  | product => "attempt to multiply with overflow"
  | daySpan => "TimeDelta::days out of bounds"
  | calendar => "`DateTime - TimeDelta` overflowed"
  | date => "No such local time"
  | endless => ""

end Breakdown

/-- Why a computation has no result: it rejects its input for a reason of its domain, or it breaks down. -/
inductive Failure (ε : Type) where
  | rejected (reason : ε)
  | broken (step : Breakdown)
  deriving DecidableEq, Repr

namespace Failure

def map {ε ε' : Type} (restate : ε → ε') : Failure ε → Failure ε'
  | rejected reason => rejected (restate reason)
  | broken step => broken step

end Failure

end DvbScan
