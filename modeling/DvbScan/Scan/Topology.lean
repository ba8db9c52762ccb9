import DvbScan.OrderedMap
import DvbScan.Si.Finding
import DvbScan.Tuning.Equivalence

/-!
# Topology

The findings of a scan are folded into maps of networks, transports, services and channel numbers. A
transport keeps the first tuning that is announced for it; a service keeps the latest names.
-/

namespace DvbScan

structure TransportKey where
  onid : UInt16
  tsid : UInt16
  deriving DecidableEq, Repr

structure ServiceKey where
  onid : UInt16
  serviceId : UInt16
  deriving DecidableEq, Repr

structure LcnKey where
  networkId : UInt16
  serviceId : UInt16
  region : UInt16
  deriving DecidableEq, Repr

structure RegionKey where
  bouquetId : UInt16
  region : UInt16
  deriving DecidableEq, Repr

def wordPairRank (first second : UInt16) : Nat :=
  first.toNat * 65536 + second.toNat

theorem wordPairRank_injective {first second first' second' : UInt16}
    (same : wordPairRank first second = wordPairRank first' second') :
    first = first' ∧ second = second' := by
  unfold wordPairRank at same
  have bound := second.toNat_lt
  have bound' := second'.toNat_lt
  exact ⟨UInt16.toNat_inj.mp (by omega), UInt16.toNat_inj.mp (by omega)⟩

instance : Ranked TransportKey where
  rank key := wordPairRank key.onid key.tsid
  rank_injective first second same := by
    have fields : first.onid = second.onid ∧ first.tsid = second.tsid :=
      wordPairRank_injective same
    cases first
    cases second
    simp_all

instance : Ranked ServiceKey where
  rank key := wordPairRank key.onid key.serviceId
  rank_injective first second same := by
    have fields : first.onid = second.onid ∧ first.serviceId = second.serviceId :=
      wordPairRank_injective same
    cases first
    cases second
    simp_all

instance : Ranked RegionKey where
  rank key := wordPairRank key.bouquetId key.region
  rank_injective first second same := by
    have fields : first.bouquetId = second.bouquetId ∧ first.region = second.region :=
      wordPairRank_injective same
    cases first
    cases second
    simp_all

instance : Ranked LcnKey where
  rank key := wordPairRank key.networkId key.serviceId * 65536 + key.region.toNat
  rank_injective first second same := by
    have bound := first.region.toNat_lt
    have bound' := second.region.toNat_lt
    have regions : first.region = second.region := UInt16.toNat_inj.mp (by omega)
    have fields : first.networkId = second.networkId ∧ first.serviceId = second.serviceId :=
      wordPairRank_injective (by omega)
    cases first
    cases second
    simp_all

inductive TransportStatus where
  | pending | scanned | failed
  deriving DecidableEq, Repr

structure Transport where
  tuning : Option Tuning
  networkId : Option UInt16
  serviceIds : OrderedSet UInt16
  status : TransportStatus
  deriving DecidableEq

namespace Transport

def unknown : Transport :=
  { tuning := none, networkId := none, serviceIds := .empty, status := .pending }

def waiting? (transport : Transport) : Option Tuning :=
  if transport.status = .pending then transport.tuning else none

def waitsOn (transport : Transport) (channel : EquivalenceKey) : Bool :=
  transport.waiting?.any fun tuning => tuning.equivalence == channel

end Transport

structure Service where
  name : Option String
  provider : Option String
  serviceType : Option UInt8
  freeCa : Bool
  /-- Whether it has been seen in a service table. -/
  scanned : Bool
  tsid : Option UInt16
  deriving DecidableEq, Repr

def Service.unknown : Service :=
  { name := none, provider := none, serviceType := none, freeCa := false, scanned := false,
    tsid := none }

structure LcnAssignment where
  number : UInt16
  freesatId : UInt16
  deriving DecidableEq, Repr

structure Topology where
  networks : OrderedMap UInt16 String
  bouquets : OrderedMap UInt16 String
  transports : OrderedMap TransportKey Transport
  services : OrderedMap ServiceKey Service
  lcns : OrderedMap LcnKey LcnAssignment
  regions : OrderedMap RegionKey String
  /-- The tuning of the channel that is being heard. -/
  locked : Option Tuning
  deriving DecidableEq

namespace Topology

def empty : Topology :=
  { networks := .empty, bouquets := .empty, transports := .empty, services := .empty,
    lcns := .empty, regions := .empty, locked := none }

instance : Inhabited Topology := ⟨empty⟩

def beginChannel (topology : Topology) (tuning : Tuning) : Topology :=
  { topology with locked := some tuning }

def endChannel (topology : Topology) : Topology :=
  { topology with locked := none }

/-- Channel numbers and regions alone are no topology. -/
def isEmpty (topology : Topology) : Bool :=
  topology.networks.isEmpty && topology.bouquets.isEmpty && topology.transports.isEmpty &&
    topology.services.isEmpty

def withTransport (topology : Topology) (onid tsid : UInt16) (change : Transport → Transport) :
    Topology :=
  { topology with
    transports := topology.transports.alter ⟨onid, tsid⟩ fun known =>
      change (known.getD .unknown) }

def withService (topology : Topology) (onid serviceId : UInt16) (change : Service → Service) :
    Topology :=
  { topology with
    services := topology.services.alter ⟨onid, serviceId⟩ fun known =>
      change (known.getD .unknown) }

/-- A listed service has at least the type and the transport of its first listing. -/
def listService (onid tsid : UInt16) (topology : Topology) (entry : ServiceListEntry) : Topology :=
  topology.withService onid entry.serviceId fun service =>
    { service with
      serviceType := service.serviceType.or (some entry.serviceType)
      tsid := service.tsid.or (some tsid) }

def apply (topology : Topology) : Finding → Topology
  | .networkName .network id name =>
    { topology with networks := topology.networks.insert id name }
  | .networkName .bouquet id name =>
    { topology with bouquets := topology.bouquets.insert id name }
  | .transportTuning networkId onid tsid tuning =>
    topology.withTransport onid tsid fun transport =>
      { transport with
        networkId := transport.networkId.or (some networkId)
        tuning := transport.tuning.or (some tuning) }
  | .transportServices networkId onid tsid services =>
    let listed := topology.withTransport onid tsid fun transport =>
      { transport with
        networkId := transport.networkId.or (some networkId)
        serviceIds := OrderedSet.insertAll transport.serviceIds (services.map (·.serviceId)) }
    services.foldl (listService onid tsid) listed
  | .service onid tsid serviceId info =>
    let listed := topology.withTransport onid tsid fun transport =>
      { transport with serviceIds := OrderedSet.insert transport.serviceIds serviceId }
    listed.withService onid serviceId fun service =>
      { name := info.name.or service.name
        provider := info.provider.or service.provider
        serviceType := info.serviceType.or service.serviceType
        freeCa := info.freeCa
        scanned := true
        tsid := some tsid }
  | .logicalChannel networkId serviceId region number freesatId =>
    { topology with
      lcns := topology.lcns.insert ⟨networkId, serviceId, region⟩ ⟨number, freesatId⟩ }
  | .region bouquetId region name =>
    { topology with regions := topology.regions.insert ⟨bouquetId, region⟩ name }
  | .currentTransport onid tsid =>
    topology.withTransport onid tsid fun transport =>
      { transport with tuning := transport.tuning.or topology.locked, status := .scanned }

def applyAll (topology : Topology) (findings : List Finding) : Topology :=
  findings.foldl apply topology

def countTransports (topology : Topology) (status : TransportStatus) : Nat :=
  topology.transports.values.countP (·.status == status)

def pending (topology : Topology) : List (TransportKey × Tuning) :=
  topology.transports.entries.filterMap fun entry =>
    entry.2.waiting?.map (entry.1, ·)

def settleWhere (topology : Topology) (status : TransportStatus)
    (test : TransportKey → Transport → Bool) : Topology :=
  { topology with
    transports := topology.transports.mapValues fun key transport =>
      if test key transport then { transport with status } else transport }

theorem filterMap_sublist_filterMap {α β : Type} {kept all : α → Option β}
    (agree : ∀ value, kept value = none ∨ kept value = all value) (values : List α) :
    (values.filterMap kept).Sublist (values.filterMap all) := by
  induction values with
  | nil => exact .slnil
  | cons value rest ih =>
    rcases agree value with dropped | same
    · rw [List.filterMap_cons_none dropped]
      refine ih.trans ?_
      cases found : all value with
      | none => exact List.filterMap_cons_none found ▸ .refl _
      | some result => rw [List.filterMap_cons_some found]; exact List.sublist_cons_self _ _
    · cases found : all value with
      | none =>
        rw [List.filterMap_cons_none found, List.filterMap_cons_none (same.trans found)]
        exact ih
      | some result =>
        rw [List.filterMap_cons_some found, List.filterMap_cons_some (same.trans found)]
        exact ih.cons_cons _

theorem pending_settleWhere_sublist (topology : Topology) {status : TransportStatus}
    (settled : status ≠ .pending) (test : TransportKey → Transport → Bool) :
    (topology.settleWhere status test).pending.Sublist topology.pending := by
  unfold pending settleWhere OrderedMap.mapValues
  rw [List.filterMap_map]
  refine filterMap_sublist_filterMap (fun entry => ?_) _
  by_cases picked : test entry.1 entry.2
  · left
    simp [picked, Transport.waiting?, settled]
  · right
    simp [picked]

def setStatus (topology : Topology) (key : TransportKey) (status : TransportStatus) : Topology :=
  topology.settleWhere status fun other _ => other == key

def settleEquivalent (topology : Topology) (tuning : Tuning) (status : TransportStatus) : Topology :=
  topology.settleWhere status fun _ transport => transport.waitsOn tuning.equivalence

def countEquivalent (topology : Topology) (tuning : Tuning) : Nat :=
  topology.transports.values.countP (·.waitsOn tuning.equivalence)

/-- No transport waits; false while none is known. -/
def allDiscoveredScanned (topology : Topology) : Bool :=
  !topology.transports.isEmpty && topology.transports.values.all (·.status != .pending)

def referencedServices (topology : Topology) : List UInt16 :=
  topology.transports.values.flatMap (fun transport => OrderedSet.toList transport.serviceIds) ++
    topology.lcns.keys.map (·.serviceId)

def observedServices (topology : Topology) : List UInt16 :=
  topology.services.entries.filterMap fun entry =>
    if entry.2.scanned then some entry.1.serviceId else none

/-- Every service that is referred to has been seen; false while none is. -/
def allServicesFound (topology : Topology) : Bool :=
  let observed := topology.observedServices
  !topology.referencedServices.isEmpty && topology.referencedServices.all observed.contains

end Topology

end DvbScan
