import DvbScan.Store.Basic
import DvbScan.Store.Record
import DvbScan.Text.Decimal

/-!
# Stores as text

A store is written as a line with the number of the next provider and then one line for each row. The fields
of a line stand between tabs: the table, the source, and then the cells of the row.
-/

namespace DvbScan

namespace Cell

/-- Backslashes, tabs and line ends are escaped, so that a text stays in its field. -/
def escape : List Char → List Char
  | [] => []
  | '\\' :: rest => '\\' :: '\\' :: escape rest
  | '\t' :: rest => '\\' :: 't' :: escape rest
  | '\n' :: rest => '\\' :: 'n' :: escape rest
  | c :: rest => c :: escape rest

def unescape? : List Char → Option (List Char)
  | [] => some []
  | '\\' :: '\\' :: rest => (unescape? rest).map ('\\' :: ·)
  | '\\' :: 't' :: rest => (unescape? rest).map ('\t' :: ·)
  | '\\' :: 'n' :: rest => (unescape? rest).map ('\n' :: ·)
  | '\\' :: _ => none
  | c :: rest => (unescape? rest).map (c :: ·)

theorem unescape?_escape (text : List Char) : unescape? (escape text) = some text := by
  fun_induction escape text with
  | case1 => rfl
  | case2 rest ih => simp [unescape?, ih]
  | case3 rest ih => simp [unescape?, ih]
  | case4 rest ih => simp [unescape?, ih]
  | case5 c rest backslash _ _ ih =>
    rw [unescape?]
    · simp [ih]
    all_goals simp_all

/-- The field of a cell. The first character tells what the cell holds. -/
def write : Cell → String
  | null => "-"
  | flag true => "yes"
  | flag false => "no"
  | number value => Decimal.write value
  | text value => "=" ++ String.ofList (escape value.toList)

def read? (field : String) : Option Cell :=
  match field.toList with
  | ['-'] => some null
  | ['y', 'e', 's'] => some (flag true)
  | ['n', 'o'] => some (flag false)
  | '=' :: rest => (unescape? rest).map fun value => text (String.ofList value)
  | digits => (Decimal.digits? digits).map number

end Cell

instance : Record ProviderName where
  columns := ["provider_id", "name"]
  cells row := [toCell row.id, toCell row.name]
  ofCells?
    | [a, b] => return ⟨← ofCell? a, ← ofCell? b⟩
    | _ => none

instance : Record ProviderLink where
  columns := ["onid", "service_id", "provider_id"]
  cells row := [toCell row.onid, toCell row.serviceId, toCell row.providerId]
  ofCells?
    | [a, b, c] => return ⟨← ofCell? a, ← ofCell? b, ← ofCell? c⟩
    | _ => none

namespace Store

def tableLines {α : Type} [Record α] (name : String) (table : StoreTable α) : List (List Cell) :=
  table.map fun stored => .text name :: .text stored.source :: Record.cells stored.row

/-- The next provider, and the rows of all tables with the table and the source in front. -/
def toLines (store : Store) : List (List Cell) :=
  [.text "next_provider", .number store.nextProvider] ::
  store.sources.map (fun source => [.text "source", .text source]) ++
  tableLines "network_info" store.networkNames ++
  tableLines "tuning" store.tunings ++
  tableLines "transport_services" store.transportServices ++
  tableLines "service_ids" store.services ++
  tableLines "service_names" store.serviceNames ++
  tableLines "provider_names" store.providerNames ++
  tableLines "service_providers" store.providerLinks ++
  tableLines "regions" store.regions ++
  tableLines "network_lcns" store.networkLcns ++
  tableLines "client_lcns" store.clientLcns

def withRow? {α : Type} [Record α] (table : StoreTable α) (source : String) (cells : List Cell) :
    Option (StoreTable α) :=
  (Record.ofCells? cells).map fun row => table ++ [⟨source, row⟩]

def withLine? (store : Store) : List Cell → Option Store
  | [.text "source", .text source] => some { store with sources := store.sources ++ [source] }
  | .text name :: .text source :: cells =>
    match name with
    | "network_info" => return { store with
        networkNames := ← withRow? store.networkNames source cells }
    | "tuning" => return { store with tunings := ← withRow? store.tunings source cells }
    | "transport_services" => return { store with
        transportServices := ← withRow? store.transportServices source cells }
    | "service_ids" => return { store with services := ← withRow? store.services source cells }
    | "service_names" => return { store with
        serviceNames := ← withRow? store.serviceNames source cells }
    | "provider_names" => return { store with
        providerNames := ← withRow? store.providerNames source cells }
    | "service_providers" => return { store with
        providerLinks := ← withRow? store.providerLinks source cells }
    | "regions" => return { store with regions := ← withRow? store.regions source cells }
    | "network_lcns" => return { store with networkLcns := ← withRow? store.networkLcns source cells }
    | "client_lcns" => return { store with clientLcns := ← withRow? store.clientLcns source cells }
    | _ => none
  | _ => none

def ofLines? : List (List Cell) → Option Store
  | [.text "next_provider", .number next] :: rows =>
    rows.foldlM withLine? { empty with nextProvider := next }
  | _ => none

def toText (store : Store) : String :=
  String.join (store.toLines.map fun line => "\t".intercalate (line.map Cell.write) ++ "\n")

def ofText? (text : String) : Option Store := do
  let lines := (text.splitOn "\n").filter (· ≠ "")
  ofLines? (← lines.mapM fun line => (line.splitOn "\t").mapM Cell.read?)

end Store

end DvbScan
