import DvbScan.Store.Row

/-!
# The store

The store is a set of tables. In most of them a row has a key within its source: a new row takes the place
of the row with its key, or, in tables that only relate things, is passed over if that row is there.
-/

namespace DvbScan

structure Stored (α : Type) where
  source : String
  row : α
  deriving DecidableEq, Repr

/-- The rows of all sources, in the order in which they were written. -/
abbrev StoreTable (α : Type) := List (Stored α)

namespace StoreTable

variable {α κ : Type} [DecidableEq κ]

def ofSource (table : StoreTable α) (source : String) : List α :=
  (table.filter (·.source == source)).map (·.row)

def erase (table : StoreTable α) (source : String) (test : α → Bool) : StoreTable α :=
  table.filter fun stored => !(stored.source == source && test stored.row)

/-- Writes a row in the place of the one with its key. -/
def put (key : α → κ) (source : String) (table : StoreTable α) (row : α) : StoreTable α :=
  table.erase source (fun old => key old == key row) ++ [⟨source, row⟩]

def putAll (key : α → κ) (source : String) (table : StoreTable α) (rows : List α) : StoreTable α :=
  rows.foldl (put key source) table

def has (table : StoreTable α) (source : String) (test : α → Bool) : Bool :=
  table.any fun stored => stored.source == source && test stored.row

end StoreTable

structure ProviderName where
  id : Nat
  name : String
  deriving DecidableEq, Repr

structure ProviderLink where
  onid : UInt16
  serviceId : UInt16
  providerId : Nat
  deriving DecidableEq, Repr

def NetworkNameRow.storeKey (row : NetworkNameRow) : UInt16 := row.networkId

def TuningRow.storeKey (row : TuningRow) : UInt16 × UInt16 × UInt32 :=
  (row.onid, row.tsid, row.key)

def ServiceRow.storeKey (row : ServiceRow) : UInt16 × UInt16 := (row.onid, row.serviceId)

def ServiceNameRow.storeKey (row : ServiceNameRow) : UInt16 × UInt16 := (row.onid, row.serviceId)

def ProviderLink.storeKey (row : ProviderLink) : UInt16 × UInt16 := (row.onid, row.serviceId)

def RegionRow.storeKey (row : RegionRow) : UInt16 × UInt16 := (row.bouquetId, row.region)

def NetworkLcnRow.storeKey (row : NetworkLcnRow) : UInt16 × UInt16 × UInt16 :=
  (row.networkId, row.serviceId, row.region)

structure Store where
  sources : List String
  networkNames : StoreTable NetworkNameRow
  tunings : StoreTable TuningRow
  transportServices : StoreTable TransportServiceRow
  services : StoreTable ServiceRow
  serviceNames : StoreTable ServiceNameRow
  providerNames : StoreTable ProviderName
  /-- The number of the next provider; numbers are not used again. -/
  nextProvider : Nat
  providerLinks : StoreTable ProviderLink
  regions : StoreTable RegionRow
  networkLcns : StoreTable NetworkLcnRow
  clientLcns : StoreTable ClientLcn
  deriving DecidableEq, Repr

namespace Store

def empty : Store where
  sources := []
  networkNames := []
  tunings := []
  transportServices := []
  services := []
  serviceNames := []
  providerNames := []
  nextProvider := 1
  providerLinks := []
  regions := []
  networkLcns := []
  clientLcns := []

instance : Inhabited Store := ⟨empty⟩

abbrev Written := Store × Nat

def addSource (store : Store) (source : String) : Written :=
  if store.sources.contains source then (store, 0)
  else ({ store with sources := store.sources ++ [source] }, 1)

/-- The tuning of a transport is replaced as a whole. -/
def putTunings (store : Store) (source : String) (rows : List TuningRow) : Store :=
  let cleared := store.tunings.erase source fun old =>
    rows.any fun row => row.onid == old.onid && row.tsid == old.tsid
  { store with tunings := cleared.putAll TuningRow.storeKey source rows }

def addTransportService (source : String) (written : Written) (row : TransportServiceRow) : Written :=
  let (store, count) := written
  if store.transportServices.has source (· == row) then written
  else ({ store with transportServices := store.transportServices ++ [⟨source, row⟩] }, count + 1)

/-- A name that is there already is not written again, and the number that was drawn for it is lost. -/
def addProviderName (source : String) (written : Written) (name : String) : Written :=
  let (store, count) := written
  let drawn := { store with nextProvider := store.nextProvider + 1 }
  if store.providerNames.has source (·.name == name) then (drawn, count)
  else
    ({ drawn with
        providerNames := store.providerNames ++ [⟨source, ⟨store.nextProvider, name⟩⟩] }, count + 1)

def providerId? (store : Store) (source name : String) : Option Nat :=
  ((store.providerNames.ofSource source).find? (·.name == name)).map (·.id)

/-- A link is written only if the provider has a number. -/
def addProviderLink (source : String) (written : Written) (row : ServiceProviderRow) : Written :=
  let (store, count) := written
  match store.providerId? source row.provider with
  | none => written
  | some providerId =>
    let link : ProviderLink := { onid := row.onid, serviceId := row.serviceId, providerId }
    ({ store with
        providerLinks := store.providerLinks.put ProviderLink.storeKey source link }, count + 1)

def insert (store : Store) (source : String) : Batch → Written
  | .source => store.addSource source
  | .networkNames rows =>
    ({ store with
        networkNames := store.networkNames.putAll NetworkNameRow.storeKey source rows }, rows.length)
  | .tuning rows => (store.putTunings source rows, rows.length)
  | .transportServices rows => rows.foldl (addTransportService source) (store, 0)
  | .services rows =>
    ({ store with services := store.services.putAll ServiceRow.storeKey source rows }, rows.length)
  | .serviceNames rows =>
    ({ store with
        serviceNames := store.serviceNames.putAll ServiceNameRow.storeKey source rows }, rows.length)
  | .providerNames names => names.foldl (addProviderName source) (store, 0)
  | .serviceProviders rows => rows.foldl (addProviderLink source) (store, 0)
  | .regions rows =>
    ({ store with regions := store.regions.putAll RegionRow.storeKey source rows }, rows.length)
  | .networkLcns rows =>
    ({ store with
        networkLcns := store.networkLcns.putAll NetworkLcnRow.storeKey source rows }, rows.length)

def insertAll (store : Store) (source : String) (batches : List Batch) : Store :=
  batches.foldl (fun store batch => (store.insert source batch).1) store

def replaceClientLcns (store : Store) (source : String) (rows : List ClientLcn) : Store :=
  { store with
    clientLcns := store.clientLcns.erase source (fun _ => true) ++ rows.map (⟨source, ·⟩) }

end Store

end DvbScan
