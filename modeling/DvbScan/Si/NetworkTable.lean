import DvbScan.Si.Finding
import DvbScan.Si.TableTracker

/-!
# Network and bouquet tables

Both tables describe a group of transports: descriptors of the group, then the transports, each with
descriptors of its own. A reader of one of the tables turns its sections into findings, each section of a
version once.
-/

namespace DvbScan

structure TransportEntry where
  tsid : UInt16
  onid : UInt16
  descriptors : List Descriptor
  deriving DecidableEq, Repr

structure NetworkSection where
  /-- The network or the bouquet. -/
  id : UInt16
  descriptors : List Descriptor
  transports : List TransportEntry
  deriving DecidableEq, Repr

namespace NetworkSection

/-- The transports from a position to a limit; one that has no room for its header is left out. -/
def transportsFrom (whole : Section) (table : DescriptorTable) (limit position : Nat) :
    Except SiError (List TransportEntry) :=
  if position + 6 ≤ limit then do
    let tsid ← whole.bytes.word16 position
    let onid ← whole.bytes.word16 (position + 2)
    let loop ← whole.descriptorsAt (position + 4)
    let rest ← transportsFrom whole table limit (position + 6 + loop.length)
    .ok ({ tsid, onid, descriptors := table.readLoop loop } :: rest)
  else .ok []
termination_by limit - position

/-- The length of the loop of transports may reach beyond the payload, where the loop then ends. -/
def parse (whole : Section) (table : DescriptorTable) : Except SiError NetworkSection := do
  let networkLoop ← whole.descriptorsAt Section.headerLength
  let position := Section.headerLength + 2 + networkLoop.length
  let length ← whole.bytes.word12 position
  let limit := min (position + 2 + length) whole.payloadEnd
  let transports ← transportsFrom whole table limit (position + 2)
  .ok { id := whole.header.sectionId, descriptors := table.readLoop networkLoop, transports }

def groupFindings (kind : NetworkKind) (id : UInt16) : Descriptor → List Finding
  | .networkName name | .bouquetName name => [.networkName kind id name]
  | .freesatRegions regions => regions.map fun region => .region id region.region region.name
  | _ => []

def transportFindings (id onid tsid : UInt16) : Descriptor → List Finding
  | .satelliteDelivery delivery => [.transportTuning id onid tsid delivery.toTuning]
  | .terrestrialDelivery delivery => [.transportTuning id onid tsid delivery.toTuning]
  | .t2Delivery delivery =>
    (delivery.toTuning?.map fun tuning => Finding.transportTuning id onid tsid tuning).toList
  | .serviceList services => [.transportServices id onid tsid services]
  | .logicalChannels channels => channels.map fun channel =>
      .logicalChannel id channel.serviceId 0 channel.number 0
  | .freesatChannels channels => channels.flatMap fun channel =>
      channel.numbers.map fun number =>
        .logicalChannel id channel.serviceId number.region number.number channel.freesatId
  | _ => []

def findings (kind : NetworkKind) (parsed : NetworkSection) : List Finding :=
  parsed.descriptors.flatMap (groupFindings kind parsed.id) ++
    parsed.transports.flatMap fun transport =>
      transport.descriptors.flatMap (transportFindings parsed.id transport.onid transport.tsid)

end NetworkSection

structure NetworkTableReader where
  kind : NetworkKind
  table : DescriptorTable
  tracker : TableTracker

namespace NetworkTableReader

def new (kind : NetworkKind) (table : DescriptorTable) : NetworkTableReader :=
  { kind, table, tracker := .empty }

def process (reader : NetworkTableReader) (whole : Section) :
    Except SiError (NetworkTableReader × Arrival × List Finding) := do
  let parsed ← NetworkSection.parse whole reader.table
  let (tracker, arrival) := reader.tracker.track whole.header
  let found := if arrival.isFresh then parsed.findings reader.kind else []
  .ok ({ reader with tracker }, arrival, found)

def isComplete (reader : NetworkTableReader) : Bool := reader.tracker.isComplete

def reset (reader : NetworkTableReader) : NetworkTableReader :=
  { reader with tracker := reader.tracker.reset }

end NetworkTableReader

end DvbScan
