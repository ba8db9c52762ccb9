import DvbScan.Si.Finding
import DvbScan.Si.TableTracker

/-!
# Service tables

A service table lists the services of one transport. The table of the transport that is being received and
the tables of other transports differ in their table identifier only, and are followed separately.
-/

namespace DvbScan

structure ServiceEntry where
  serviceId : UInt16
  runningStatus : Nat
  freeCa : Bool
  descriptors : List Descriptor
  deriving DecidableEq, Repr

/-- The last service descriptor of an entry counts. -/
def ServiceEntry.info (entry : ServiceEntry) : ServiceInfo :=
  entry.descriptors.foldl (fun info descriptor =>
    match descriptor with
    | .service names =>
      { info with
        serviceType := some names.serviceType
        name := some names.name
        provider := some names.provider }
    | _ => info)
    { serviceType := none, name := none, provider := none, freeCa := entry.freeCa,
      runningStatus := entry.runningStatus }

structure ServiceSection where
  tsid : UInt16
  onid : UInt16
  services : List ServiceEntry
  deriving DecidableEq, Repr

namespace ServiceSection

/-- The services from a position to the end of the payload; one that has no room for its header is left
out, and one whose descriptors reach beyond the payload makes the section malformed. -/
def servicesFrom (whole : Section) (table : DescriptorTable) (position : Nat) :
    Except SiError (List ServiceEntry) :=
  if position + 5 ≤ whole.payloadEnd then do
    let serviceId ← whole.bytes.word16 position
    let flags ← whole.bytes.word8 (position + 3)
    let length ← whole.bytes.word12 (position + 3)
    let loop ← whole.bytes.field (position + 5) length
    if whole.payloadEnd < position + 5 + length then
      .error (.truncated (position + 5) length whole.payloadEnd)
    else do
      let rest ← servicesFrom whole table (position + 5 + length)
      .ok ({ serviceId, runningStatus := bits flags 5 3, freeCa := flag flags 4,
             descriptors := table.readLoop loop } :: rest)
  else .ok []
termination_by whole.payloadEnd - position

def parse (whole : Section) (table : DescriptorTable) : Except SiError ServiceSection := do
  let onid ← whole.bytes.word16 Section.headerLength
  let services ← servicesFrom whole table (Section.headerLength + 3)
  .ok { tsid := whole.header.sectionId, onid, services }

def findings (parsed : ServiceSection) (isActual : Bool) : List Finding :=
  (if isActual then [.currentTransport parsed.onid parsed.tsid] else []) ++
    parsed.services.map fun entry => .service parsed.onid parsed.tsid entry.serviceId entry.info

end ServiceSection

structure ServiceTableReader where
  table : DescriptorTable
  /-- The table of the transport that is being received. -/
  actual : TableTracker
  /-- The tables of other transports. -/
  other : TableTracker
  expectActual : Bool
  expectOther : Bool

namespace ServiceTableReader

def new (table : DescriptorTable) (expectActual expectOther : Bool) : ServiceTableReader :=
  { table, actual := .empty, other := .empty, expectActual, expectOther }

/-- Whether a table identifier means the transport that is being received; none if it means no service
table. -/
def isActual? (tableId : UInt8) : Option Bool :=
  if tableId = 0x42 then some true
  else if tableId = 0x46 then some false
  else none

def process (reader : ServiceTableReader) (whole : Section) :
    Except SiError (ServiceTableReader × Arrival × List Finding) :=
  match isActual? whole.header.tableId with
  | none => .error (.unexpectedTable whole.header.tableId)
  | some isActual => do
    let parsed ← ServiceSection.parse whole reader.table
    let (tracker, arrival) := (if isActual then reader.actual else reader.other).track whole.header
    let found := if arrival.isFresh then parsed.findings isActual else []
    let next := if isActual then { reader with actual := tracker } else { reader with other := tracker }
    .ok (next, arrival, found)

/-- Whether every expected table is complete; false if none is expected. -/
def isComplete (reader : ServiceTableReader) : Bool :=
  (reader.expectActual || reader.expectOther) &&
    (!reader.expectActual || reader.actual.isComplete) &&
    (!reader.expectOther || reader.other.isComplete)

def reset (reader : ServiceTableReader) : ServiceTableReader :=
  { reader with actual := reader.actual.reset, other := reader.other.reset }

end ServiceTableReader

end DvbScan
