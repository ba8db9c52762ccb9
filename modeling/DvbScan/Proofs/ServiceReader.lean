import DvbScan.Si.ServiceTable

/-!
# One section of a service table

A reader of service tables follows two kinds of them side by side. A section belongs to one kind by its table
identifier, and its arrival is judged by, and noted for, that kind alone.
-/

namespace DvbScan

namespace ServiceTableReader

def trackerOf (reader : ServiceTableReader) (isActual : Bool) : TableTracker :=
  if isActual then reader.actual else reader.other

def withTracker (reader : ServiceTableReader) (isActual : Bool) (tracker : TableTracker) :
    ServiceTableReader :=
  if isActual then { reader with actual := tracker } else { reader with other := tracker }

@[simp]
theorem table_withTracker (reader : ServiceTableReader) (isActual : Bool) (tracker : TableTracker) :
    (reader.withTracker isActual tracker).table = reader.table := by
  cases isActual <;> rfl

@[simp]
theorem trackerOf_withTracker (reader : ServiceTableReader) (isActual : Bool)
    (tracker : TableTracker) : (reader.withTracker isActual tracker).trackerOf isActual = tracker := by
  cases isActual <;> rfl

theorem trackerOf_withTracker_of_ne (reader : ServiceTableReader) {isActual another : Bool}
    (other : another ≠ isActual) (tracker : TableTracker) :
    (reader.withTracker isActual tracker).trackerOf another = reader.trackerOf another := by
  cases isActual <;> cases another <;> first | rfl | exact absurd rfl other

theorem withTracker_trackerOf (reader : ServiceTableReader) (isActual : Bool) :
    reader.withTracker isActual (reader.trackerOf isActual) = reader := by
  cases isActual <;> rfl

theorem process_of_parsed {reader : ServiceTableReader} {whole : Section} {isActual : Bool}
    {parsed : ServiceSection} (known : isActual? whole.header.tableId = some isActual)
    (read : ServiceSection.parse whole reader.table = .ok parsed) :
    reader.process whole =
      let tracked := (reader.trackerOf isActual).track whole.header
      .ok (reader.withTracker isActual tracked.1, tracked.2,
        if tracked.2.isFresh then parsed.findings isActual else []) := by
  unfold process
  rw [known]
  simp only
  rw [read]
  rfl

theorem process_of_unexpected {reader : ServiceTableReader} {whole : Section}
    (unknown : isActual? whole.header.tableId = none) :
    reader.process whole = .error (.unexpectedTable whole.header.tableId) := by
  unfold process
  rw [unknown]

theorem process_of_malformed {reader : ServiceTableReader} {whole : Section} {isActual : Bool}
    {error : SiError} (known : isActual? whole.header.tableId = some isActual)
    (fault : ServiceSection.parse whole reader.table = .error error) :
    reader.process whole = .error error := by
  unfold process
  rw [known]
  simp only
  rw [fault]
  rfl

end ServiceTableReader

end DvbScan
