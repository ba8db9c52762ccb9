import DvbScan.Scan.Topology
import DvbScan.Store.Row

/-!
# Topologies as rows

A topology is written in batches, each after those that it refers to.
-/

namespace DvbScan

namespace Topology

/-- The names of the networks, then those of the bouquets. -/
def networkNameRows (topology : Topology) : List NetworkNameRow :=
  (topology.networks.entries ++ topology.bouquets.entries).map fun entry => ⟨entry.1, entry.2⟩

def tuningRowsOf (key : TransportKey) (tuning : Tuning) : List TuningRow :=
  tuning.entries.zipIdx.map fun (entry, position) =>
    { onid := key.onid, tsid := key.tsid, position := UInt32.ofNat position,
      key := Coded.code entry.1, value := entry.2 }

def tuningRows (topology : Topology) : List TuningRow :=
  topology.transports.entries.flatMap fun (key, transport) =>
    match transport.tuning with
    | some tuning => tuningRowsOf key tuning
    | none => []

/-- The services of the transports that belong to a network. -/
def transportServiceRows (topology : Topology) : List TransportServiceRow :=
  topology.transports.entries.flatMap fun (key, transport) =>
    match transport.networkId with
    | some networkId => (OrderedSet.toList transport.serviceIds).map fun serviceId =>
        { onid := key.onid, networkId, tsid := key.tsid, serviceId }
    | none => []

def serviceRows (topology : Topology) : List ServiceRow :=
  topology.services.entries.map fun (key, service) =>
    { onid := key.onid, tsid := service.tsid, serviceId := key.serviceId,
      serviceType := service.serviceType, freeCa := service.freeCa }

def serviceNameRows (topology : Topology) : List ServiceNameRow :=
  topology.services.entries.filterMap fun (key, service) =>
    service.name.map fun name => { onid := key.onid, serviceId := key.serviceId, name }

def serviceProviderRows (topology : Topology) : List ServiceProviderRow :=
  topology.services.entries.filterMap fun (key, service) =>
    service.provider.map fun provider => { onid := key.onid, serviceId := key.serviceId, provider }

/-- The providers of the services, each where it first occurs. -/
def providerNames (topology : Topology) : List String :=
  (topology.serviceProviderRows.map (·.provider)).foldl (fun names name =>
    if names.contains name then names else names ++ [name]) []

def regionRows (topology : Topology) : List RegionRow :=
  topology.regions.entries.map fun (key, name) =>
    { bouquetId := key.bouquetId, region := key.region, name }

def networkLcnRows (topology : Topology) : List NetworkLcnRow :=
  topology.lcns.entries.map fun (key, assignment) =>
    { networkId := key.networkId, serviceId := key.serviceId, region := key.region,
      number := assignment.number, freesatId := assignment.freesatId }

def batches (topology : Topology) : List Batch :=
  [.source, .networkNames topology.networkNameRows, .tuning topology.tuningRows,
    .transportServices topology.transportServiceRows, .services topology.serviceRows,
    .serviceNames topology.serviceNameRows, .providerNames topology.providerNames,
    .serviceProviders topology.serviceProviderRows, .regions topology.regionRows,
    .networkLcns topology.networkLcnRows]

end Topology

end DvbScan
