import DvbScan.Scan.Sweep

/-!
# Running a sweep

A loop feeds a sweep with events until it is finished. A long silence is told to the sweep, and a source
that closes ends it.
-/

namespace DvbScan

inductive Awaited where
  | event (event : ScanEvent)
  | silence
  /-- There will be no more events. -/
  | closed
  deriving DecidableEq, Repr

/-- Where events come from. A source takes notice of what the receiver is asked. -/
structure EventSource (ω : Type) where
  observe : ω → List Call → ω
  await : ω → Awaited × ω

namespace Sweep

variable {ι ω : Type} [CandidateSource ι]

def take (sweep : Sweep ι) (receiver : Receiver) : Awaited → Sweep ι × Option (Failure ScanError)
  | .event event => sweep.handle receiver event
  | .silence => sweep.stall receiver
  | .closed => (sweep.cancel, none)

/-- Feeds a started sweep until it finishes or fails, at most `rounds` times. -/
def feed (source : EventSource ω) (receiver : Receiver) :
    Nat → Sweep ι → ω → Sweep ι × Option (Failure ScanError)
  | 0, sweep, _ => (sweep, none)
  | rounds + 1, sweep, state =>
    if sweep.isFinished then (sweep, none)
    else
      let (awaited, state) := source.await state
      let (next, failure) := sweep.take receiver awaited
      match failure with
      | some failure => (next, some failure)
      | none =>
        feed source receiver rounds next (source.observe state (next.calls.drop sweep.calls.length))

def run (source : EventSource ω) (receiver : Receiver) (rounds : Nat) (sweep : Sweep ι)
    (state : ω) : Sweep ι × Option (Failure ScanError) :=
  let (started, failure) := sweep.start receiver
  match failure with
  | some failure => (started, some failure)
  | none =>
    feed source receiver rounds started
      (source.observe state (started.calls.drop sweep.calls.length))

end Sweep

end DvbScan
