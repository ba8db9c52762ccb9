import DvbScan.Scan.Receiver
import DvbScan.Si.NetworkTable
import DvbScan.Si.ServiceTable

/-!
# Hearing one channel

On every channel one filter is opened for each table of the platform, and each section goes to the reader
of its table. A filter has done its part when its table is complete, fails or stops; the channel is done
when every filter has. A quick table never cuts a slow one short.
-/

namespace DvbScan

inductive FilterStatus where
  | blank
  | ok
  /-- The table is complete; the filter stays open until a repeat confirms it. -/
  | complete
  | repeatComplete
  | error
  /-- The filter stopped before its table was complete. -/
  | stopped
  deriving DecidableEq, Repr

namespace FilterStatus

def isTerminal : FilterStatus → Bool
  | blank | ok => false
  | complete | repeatComplete | error | stopped => true

def isSuccess : FilterStatus → Bool
  | complete | repeatComplete => true
  | blank | ok | error | stopped => false

def isClosing : FilterStatus → Bool
  | repeatComplete | error | stopped => true
  | blank | ok | complete => false

end FilterStatus

structure FilterSlot where
  id : FilterId
  role : TableRole
  status : FilterStatus
  isOpen : Bool
  deriving DecidableEq, Repr

namespace FilterSlot

def close (slot : FilterSlot) : FilterSlot × List Call :=
  ({ slot with isOpen := false }, if slot.isOpen then [.closeFilter slot.id] else [])

def enter (slot : FilterSlot) (status : FilterStatus) : FilterSlot × List Call :=
  let entered := { slot with status }
  if status.isClosing then entered.close else (entered, [])

/-- A complete table stays complete when its filter goes; every other terminal status is final. -/
def update (slot : FilterSlot) (status : FilterStatus) : FilterSlot × List Call :=
  if slot.status = status then (slot, [])
  else match slot.status, status with
    | .blank, _ | .ok, _ => slot.enter status
    | .complete, .ok | .complete, .repeatComplete => slot.enter status
    | .complete, .error | .complete, .stopped => slot.close
    | _, _ => (slot, [])

end FilterSlot

inductive ChannelState where
  | idle | awaitingSections | done
  deriving DecidableEq, Repr

inductive ChannelOutcome where
  | running
  /-- Finished, with success if some table was complete. -/
  | finished (success : Bool)
  deriving DecidableEq, Repr

structure NetworkProgress where
  reader : NetworkTableReader
  complete : Bool

/-- A network is complete from the arrival that says so until something new arrives. -/
def NetworkProgress.after (progress : NetworkProgress) (reader : NetworkTableReader)
    (arrival : Arrival) : NetworkProgress :=
  { reader
    complete :=
      if arrival.isComplete then true
      else if arrival = .new then false
      else progress.complete }

structure Channel where
  filters : List FilterSpec
  /-- Milliseconds. -/
  filterTimeout : Nat
  table : DescriptorTable
  state : ChannelState
  /-- The number of filters that were asked for, on this channel and on earlier ones. -/
  filtersAsked : Nat
  /-- The filters that were opened on this channel, in order. -/
  slots : List FilterSlot
  networks : OrderedMap UInt16 NetworkProgress
  bouquets : OrderedMap UInt16 NetworkProgress
  services : ServiceTableReader

namespace Channel

def new (platform : Platform) (filterTimeout : Nat) : Channel where
  filters := platform.filters
  filterTimeout := filterTimeout
  table := platform.table
  state := .idle
  filtersAsked := 0
  slots := []
  networks := .empty
  bouquets := .empty
  services := .new platform.table (platform.filter? .servicesActual).isSome
    (platform.filter? .servicesOther).isSome

def slotOf? (channel : Channel) (role : TableRole) : Option FilterSlot :=
  channel.slots.find? (·.role == role)

def filterStatus? (channel : Channel) (role : TableRole) : Option FilterStatus :=
  (channel.slotOf? role).map (·.status)

def success (channel : Channel) : Bool :=
  channel.slots.any (·.status.isSuccess)

def outcome (channel : Channel) : ChannelOutcome :=
  match channel.state with
  | .done => .finished channel.success
  | .idle | .awaitingSections => .running

def cancel (channel : Channel) : Channel × List Call :=
  ({ channel with
      slots := []
      state := if channel.state = .awaitingSections then .done else channel.state },
    channel.slots.flatMap (·.close.2))

def finish (channel : Channel) : Channel × List Call × Bool :=
  let (cancelled, calls) := channel.cancel
  ({ cancelled with state := .idle }, calls, channel.success)

/-- Asks for the filters in order. Numbers go to those that are refused too. -/
def openFilters (receiver : Receiver) (timeout : Nat) (asked : Nat) :
    List FilterSpec → List Call → List FilterSlot × List Call
  | [], _ => ([], [])
  | spec :: rest, history =>
    let id := asked + 1
    let request : FilterRequest :=
      { pid := spec.pid, tableId := spec.tableId, mask := spec.mask, timeout }
    match receiver.openFilter history id request with
    | some _ => openFilters receiver timeout id rest history
    | none =>
      let call := Call.openFilter id request
      let (slots, calls) := openFilters receiver timeout id rest (history ++ [call])
      ({ id, role := spec.role, status := .blank, isOpen := true } :: slots, call :: calls)

/-- Begins a channel, with nothing left of an earlier one. `history` holds the calls so far; the new
ones are given back. -/
def start (channel : Channel) (receiver : Receiver) (history : List Call) :
    Channel × List Call × ChannelOutcome :=
  let (cancelled, closing) := channel.cancel
  let (slots, opening) := openFilters receiver channel.filterTimeout channel.filtersAsked
    channel.filters (history ++ closing)
  let started : Channel :=
    { cancelled with
      filtersAsked := channel.filtersAsked + channel.filters.length
      slots
      networks := .empty
      bouquets := .empty
      services := channel.services.reset
      state := if slots.isEmpty then .done else .awaitingSections }
  (started, closing ++ opening, started.outcome)

/-- What an arrival means for the filter, when `allComplete` tells whether every table of its role is and
`current` is its status. -/
def statusAfter (arrival : Arrival) (allComplete : Bool) (current : FilterStatus) : FilterStatus :=
  match arrival with
  | .completing => if allComplete then .complete else .ok
  | .repeatedComplete => if allComplete then .repeatComplete else current
  | .new => .ok
  | .outOfRange => .error
  | .repeated | .outdated | .notYetCurrent => current

/-- Takes a section of a network or bouquet, whose reader begins with the first section that frames. -/
def processNetwork (kind : NetworkKind) (table : DescriptorTable)
    (networks : OrderedMap UInt16 NetworkProgress) (whole : Section) :
    OrderedMap UInt16 NetworkProgress × Except SiError (Arrival × Bool × List Finding) :=
  let id := whole.header.sectionId
  let progress := (networks.get? id).getD { reader := .new kind table, complete := false }
  match progress.reader.process whole with
  | .error error => (networks.insert id progress, .error error)
  | .ok (reader, arrival, found) =>
    let networks := networks.insert id (progress.after reader arrival)
    (networks, .ok (arrival, networks.values.all (·.complete), found))

def processServices (services : ServiceTableReader) (role : TableRole) (whole : Section) :
    ServiceTableReader × Except SiError (Arrival × Bool × List Finding) :=
  match services.process whole with
  | .error error => (services, .error error)
  | .ok (reader, arrival, found) =>
    let tracker := if role = .servicesActual then reader.actual else reader.other
    (reader, .ok (arrival, tracker.isComplete, found))

def processWhole (channel : Channel) (role : TableRole) (whole : Section) :
    Channel × Except SiError (Arrival × Bool × List Finding) :=
  match role with
  | .network =>
    let (networks, result) := processNetwork .network channel.table channel.networks whole
    ({ channel with networks }, result)
  | .bouquet =>
    let (bouquets, result) := processNetwork .bouquet channel.table channel.bouquets whole
    ({ channel with bouquets }, result)
  | .servicesActual | .servicesOther =>
    let (services, result) := processServices channel.services role whole
    ({ channel with services }, result)

def process (channel : Channel) (role : TableRole) (bytes : Bytes) :
    Channel × FilterStatus × List Finding :=
  match Section.parse bytes with
  | .error _ => (channel, .error, [])
  | .ok whole =>
    let current := (channel.filterStatus? role).getD .blank
    match channel.processWhole role whole with
    | (channel, .error _) => (channel, .error, [])
    | (channel, .ok (arrival, allComplete, found)) =>
      (channel, statusAfter arrival allComplete current, found)

def settle (channel : Channel) (filter : FilterId) (status : FilterStatus) : Channel × List Call :=
  let updated := channel.slots.map fun slot =>
    if slot.id = filter then slot.update status else (slot, [])
  let slots := updated.map (·.1)
  ({ channel with
      slots
      state := if slots.all (·.status.isTerminal) then .done else channel.state },
    updated.flatMap (·.2))

/-- Takes what a filter delivers. Outside a running channel, and from a filter that was not opened on it,
nothing is taken. -/
def handle (channel : Channel) (filter : FilterId) (delivery : Delivery) :
    Channel × List Call × List Finding :=
  if channel.state ≠ .awaitingSections then (channel, [], [])
  else match channel.slots.find? (·.id == filter) with
    | none => (channel, [], [])
    | some slot =>
      let (channel, status, found) := match delivery with
        | .bytes bytes => channel.process slot.role bytes
        | .stopped => (channel, .stopped, [])
        | .failed _ => (channel, .error, [])
      let (channel, calls) := channel.settle filter status
      (channel, calls, found)

end Channel

end DvbScan
