/-!
# What is stored

Every row belongs to a source, so that several platforms can share one store. Rows are written in batches,
each of one kind.
-/

namespace DvbScan

structure NetworkNameRow where
  networkId : UInt16
  name : String
  deriving DecidableEq, Repr

structure TuningRow where
  onid : UInt16
  tsid : UInt16
  position : UInt32
  key : UInt32
  value : UInt32
  deriving DecidableEq, Repr

structure TransportServiceRow where
  onid : UInt16
  networkId : UInt16
  tsid : UInt16
  serviceId : UInt16
  deriving DecidableEq, Repr

structure ServiceRow where
  onid : UInt16
  tsid : Option UInt16
  serviceId : UInt16
  serviceType : Option UInt8
  freeCa : Bool
  deriving DecidableEq, Repr

structure ServiceNameRow where
  onid : UInt16
  serviceId : UInt16
  name : String
  deriving DecidableEq, Repr

structure ServiceProviderRow where
  onid : UInt16
  serviceId : UInt16
  provider : String
  deriving DecidableEq, Repr

structure RegionRow where
  bouquetId : UInt16
  region : UInt16
  name : String
  deriving DecidableEq, Repr

/-- A channel number as it is broadcast. -/
structure NetworkLcnRow where
  networkId : UInt16
  serviceId : UInt16
  region : UInt16
  number : UInt16
  freesatId : UInt16
  deriving DecidableEq, Repr

/-- A channel number as a client uses it. -/
structure ClientLcn where
  number : UInt16
  onid : UInt16
  serviceId : UInt16
  region : UInt16
  freesatId : UInt16
  deriving DecidableEq, Repr

inductive Batch where
  /-- The source itself. -/
  | source
  | networkNames (rows : List NetworkNameRow)
  | tuning (rows : List TuningRow)
  | transportServices (rows : List TransportServiceRow)
  | services (rows : List ServiceRow)
  | serviceNames (rows : List ServiceNameRow)
  | providerNames (names : List String)
  | serviceProviders (rows : List ServiceProviderRow)
  | regions (rows : List RegionRow)
  | networkLcns (rows : List NetworkLcnRow)
  deriving DecidableEq, Repr

namespace Batch

def name : Batch → String
  | source => "source"
  | networkNames _ => "network_info"
  | tuning _ => "tuning"
  | transportServices _ => "transport_services"
  | services _ => "service_ids"
  | serviceNames _ => "service_names"
  | providerNames _ => "provider_names"
  | serviceProviders _ => "service_providers"
  | regions _ => "regions"
  | networkLcns _ => "network_lcns"

def size : Batch → Nat
  | source => 1
  | networkNames rows => rows.length
  | tuning rows => rows.length
  | transportServices rows => rows.length
  | services rows => rows.length
  | serviceNames rows => rows.length
  | providerNames names => names.length
  | serviceProviders rows => rows.length
  | regions rows => rows.length
  | networkLcns rows => rows.length

def isEmpty (batch : Batch) : Bool := batch.size == 0

end Batch

end DvbScan
