import DvbScan.Store.Basic
import DvbScan.Store.Record

/-!
# Listing a store

The tables of a store can be listed whole, every row under its source and in the order of its columns.
-/

namespace DvbScan

namespace Cell

def rank : Cell → Nat
  | null => 0
  | flag _ => 1
  | number _ => 2
  | text _ => 3

def less : Cell → Cell → Bool
  | flag first, flag second => !first && second
  | number first, number second => first < second
  | text first, text second => first < second
  | first, second => first.rank < second.rank

def rowAtMost : List Cell → List Cell → Bool
  | [], _ => true
  | _ :: _, [] => false
  | first :: rest, first' :: rest' => less first first' || (first == first' && rowAtMost rest rest')

end Cell

namespace Store

def rowsOf {α : Type} (table : StoreTable α) (cells : α → List Cell) : List (List Cell) :=
  table.map fun stored => .text stored.source :: cells stored.row

/-- The name of a provider of a source; null if the number is not one of its. -/
def providerCell (store : Store) (source : String) (id : Nat) : Cell :=
  toCell (((store.providerNames.ofSource source).find? (·.id == id)).map (·.name))

def tableRows? (store : Store) (table : String) : Option (List (List Cell)) :=
  match table with
  | "sources" => some (store.sources.map fun source => [.text source])
  | "network_info" => some (rowsOf store.networkNames fun row => [toCell row.networkId, toCell row.name])
  | "tuning" => some (rowsOf store.tunings fun row =>
      [toCell row.onid, toCell row.tsid, toCell row.position, toCell row.key,
        toCell row.value])
  | "transport_services" => some (rowsOf store.transportServices fun row =>
      [toCell row.onid, toCell row.networkId, toCell row.tsid, toCell row.serviceId])
  | "service_ids" => some (rowsOf store.services fun row =>
      [toCell row.onid, toCell row.serviceId, toCell row.tsid,
        toCell row.serviceType,
        .number (if row.freeCa then 1 else 0)])
  | "service_names" => some (rowsOf store.serviceNames fun row =>
      [toCell row.onid, toCell row.serviceId, toCell row.name])
  | "provider_names" => some (rowsOf store.providerNames fun row => [toCell row.name])
  | "service_providers" => some (store.providerLinks.map fun stored =>
      [.text stored.source, toCell stored.row.onid, toCell stored.row.serviceId,
        store.providerCell stored.source stored.row.providerId])
  | "regions" => some (rowsOf store.regions fun row =>
      [toCell row.bouquetId, toCell row.region, toCell row.name])
  | "network_lcns" => some (rowsOf store.networkLcns fun row =>
      [toCell row.networkId, toCell row.serviceId, toCell row.region, toCell row.number,
        toCell row.freesatId])
  | "client_lcns" => some (rowsOf store.clientLcns fun row =>
      [toCell row.number, toCell row.onid, toCell row.serviceId, toCell row.region, toCell row.freesatId])
  | _ => none

def listing? (store : Store) (table : String) : Option (List (List Cell)) :=
  (store.tableRows? table).map fun rows => rows.mergeSort Cell.rowAtMost

end Store

end DvbScan
