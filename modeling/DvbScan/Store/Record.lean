import DvbScan.Store.Row

/-!
# Rows as records

Outside of the store a row is a record: cells under the names of columns. A cell holds nothing, a flag, a
number or a text, and reading a record takes the cells that writing it gives.
-/

namespace DvbScan

inductive Cell where
  | null
  | flag (value : Bool)
  | number (value : Nat)
  | text (value : String)
  deriving DecidableEq, Repr

class CellValue (α : Type) where
  toCell : α → Cell
  ofCell? : Cell → Option α

export CellValue (toCell ofCell?)

instance : CellValue String where
  toCell := .text
  ofCell?
    | .text value => some value
    | _ => none

instance : CellValue Bool where
  toCell := .flag
  ofCell?
    | .flag value => some value
    | _ => none

instance : CellValue Nat where
  toCell := .number
  ofCell?
    | .number value => some value
    | _ => none

instance : CellValue UInt8 where
  toCell value := .number value.toNat
  ofCell?
    | .number value => if value < UInt8.size then some (.ofNat value) else none
    | _ => none

instance : CellValue UInt16 where
  toCell value := .number value.toNat
  ofCell?
    | .number value => if value < UInt16.size then some (.ofNat value) else none
    | _ => none

instance : CellValue UInt32 where
  toCell value := .number value.toNat
  ofCell?
    | .number value => if value < UInt32.size then some (.ofNat value) else none
    | _ => none

instance {α : Type} [CellValue α] : CellValue (Option α) where
  toCell
    | some value => toCell value
    | none => .null
  ofCell?
    | .null => some none
    | cell => (ofCell? cell).map some

class Record (α : Type) where
  columns : List String
  cells : α → List Cell
  ofCells? : List Cell → Option α

instance : Record NetworkNameRow where
  columns := ["network_id", "name"]
  cells row := [toCell row.networkId, toCell row.name]
  ofCells?
    | [a, b] => return ⟨← ofCell? a, ← ofCell? b⟩
    | _ => none

instance : Record TuningRow where
  columns := ["onid", "tsid", "position", "key", "value"]
  cells row :=
    [toCell row.onid, toCell row.tsid, toCell row.position, toCell row.key, toCell row.value]
  ofCells?
    | [a, b, c, d, e] => return ⟨← ofCell? a, ← ofCell? b, ← ofCell? c, ← ofCell? d, ← ofCell? e⟩
    | _ => none

instance : Record TransportServiceRow where
  columns := ["onid", "network_id", "tsid", "service_id"]
  cells row := [toCell row.onid, toCell row.networkId, toCell row.tsid, toCell row.serviceId]
  ofCells?
    | [a, b, c, d] => return ⟨← ofCell? a, ← ofCell? b, ← ofCell? c, ← ofCell? d⟩
    | _ => none

instance : Record ServiceRow where
  columns := ["onid", "tsid", "service_id", "service_type", "free_ca"]
  cells row :=
    [toCell row.onid, toCell row.tsid, toCell row.serviceId, toCell row.serviceType,
      toCell row.freeCa]
  ofCells?
    | [a, b, c, d, e] => return ⟨← ofCell? a, ← ofCell? b, ← ofCell? c, ← ofCell? d, ← ofCell? e⟩
    | _ => none

instance : Record ServiceNameRow where
  columns := ["onid", "service_id", "name"]
  cells row := [toCell row.onid, toCell row.serviceId, toCell row.name]
  ofCells?
    | [a, b, c] => return ⟨← ofCell? a, ← ofCell? b, ← ofCell? c⟩
    | _ => none

instance : Record String where
  columns := ["name"]
  cells name := [toCell name]
  ofCells?
    | [a] => ofCell? a
    | _ => none

instance : Record ServiceProviderRow where
  columns := ["onid", "service_id", "provider_name"]
  cells row := [toCell row.onid, toCell row.serviceId, toCell row.provider]
  ofCells?
    | [a, b, c] => return ⟨← ofCell? a, ← ofCell? b, ← ofCell? c⟩
    | _ => none

instance : Record RegionRow where
  columns := ["bouquet_id", "region_code", "name"]
  cells row := [toCell row.bouquetId, toCell row.region, toCell row.name]
  ofCells?
    | [a, b, c] => return ⟨← ofCell? a, ← ofCell? b, ← ofCell? c⟩
    | _ => none

instance : Record NetworkLcnRow where
  columns := ["network_id", "service_id", "region_code", "lcn", "freesat_id"]
  cells row :=
    [toCell row.networkId, toCell row.serviceId, toCell row.region, toCell row.number,
      toCell row.freesatId]
  ofCells?
    | [a, b, c, d, e] => return ⟨← ofCell? a, ← ofCell? b, ← ofCell? c, ← ofCell? d, ← ofCell? e⟩
    | _ => none

instance : Record ClientLcn where
  columns := ["lcn", "onid", "service_id", "region_code", "freesat_id"]
  cells row :=
    [toCell row.number, toCell row.onid, toCell row.serviceId, toCell row.region,
      toCell row.freesatId]
  ofCells?
    | [a, b, c, d, e] => return ⟨← ofCell? a, ← ofCell? b, ← ofCell? c, ← ofCell? d, ← ofCell? e⟩
    | _ => none

namespace Batch

def cells : Batch → List (List Cell)
  | source => []
  | networkNames rows => rows.map Record.cells
  | tuning rows => rows.map Record.cells
  | transportServices rows => rows.map Record.cells
  | services rows => rows.map Record.cells
  | serviceNames rows => rows.map Record.cells
  | providerNames names => names.map Record.cells
  | serviceProviders rows => rows.map Record.cells
  | regions rows => rows.map Record.cells
  | networkLcns rows => rows.map Record.cells

/-- Reads rows whose cells a function gives for the names of the columns. -/
def rowsOf? (α : Type) [Record α] (rows : List (List String → List Cell)) : Option (List α) :=
  rows.mapM fun row => Record.ofCells? (row (Record.columns α))

def ofRecords? (name : String) (rows : List (List String → List Cell)) : Option Batch :=
  match name with
  | "source" => some .source
  | "network_info" => .networkNames <$> rowsOf? _ rows
  | "tuning" => .tuning <$> rowsOf? _ rows
  | "transport_services" => .transportServices <$> rowsOf? _ rows
  | "service_ids" => .services <$> rowsOf? _ rows
  | "service_names" => .serviceNames <$> rowsOf? _ rows
  | "provider_names" => .providerNames <$> rowsOf? _ rows
  | "service_providers" => .serviceProviders <$> rowsOf? _ rows
  | "regions" => .regions <$> rowsOf? _ rows
  | "network_lcns" => .networkLcns <$> rowsOf? _ rows
  | _ => none

end Batch

end DvbScan
