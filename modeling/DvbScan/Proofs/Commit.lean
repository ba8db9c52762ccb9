import DvbScan.Proofs.StoredRows
import DvbScan.Store.Topology
import DvbScan.Store.Worker

/-!
# What a commit leaves in the store

A worker writes the batches of a topology one after the other, the empty ones left out, and every batch writes
the tables of its kind only. So a table of the store after a commit is the table before, with the rows of its
own batch.
-/

namespace DvbScan

namespace StoreTable

variable {α : Type} [DecidableEq α]

def addAll (source : String) (table : StoreTable α) (rows : List α) : StoreTable α :=
  rows.foldl (fun table row =>
    if table.has source (· == row) then table else table ++ [⟨source, row⟩]) table

theorem mem_ofSource_addAll {source : String} {table : StoreTable α} {rows : List α} {row : α} :
    row ∈ (table.addAll source rows).ofSource source ↔ row ∈ rows ∨ row ∈ table.ofSource source := by
  induction rows generalizing table with
  | nil => simp [addAll]
  | cons first rest ih =>
    have step : row ∈ (table.addAll source (first :: rest)).ofSource source ↔
        row ∈ rest ∨ row ∈ ofSource (if table.has source (· == first) then table
          else table ++ [⟨source, first⟩]) source := ih
    rw [step, List.mem_cons, or_comm (a := row = first), or_assoc]
    refine or_congr Iff.rfl ?_
    by_cases there : table.has source (· == first)
    · obtain ⟨known, member, same⟩ := has_iff.mp there
      obtain rfl : known = first := by simpa using same
      rw [if_pos there]
      constructor
      · exact .inr
      · rintro (rfl | present)
        · exact member
        · exact present
    · rw [if_neg there, ofSource_append, ofSource_singleton_self, List.mem_append, List.mem_singleton,
        or_comm]

/-- Draws the next number and gives it to a name, unless the name has one. -/
def addName (source : String) (numbered : StoreTable ProviderName × Nat) (name : String) :
    StoreTable ProviderName × Nat :=
  (if numbered.1.has source (·.name == name) then numbered.1
    else numbered.1 ++ [⟨source, ⟨numbered.2, name⟩⟩], numbered.2 + 1)

def addNames (source : String) (table : StoreTable ProviderName) (next : Nat) (names : List String) :
    StoreTable ProviderName × Nat :=
  names.foldl (addName source) (table, next)

/-- The links of services to the numbers of their providers; a provider without a number has none. -/
def links (source : String) (table : StoreTable ProviderName) (rows : List ServiceProviderRow) :
    List ProviderLink :=
  rows.filterMap fun row =>
    ((table.ofSource source).find? (·.name == row.provider)).map fun provider =>
      { onid := row.onid, serviceId := row.serviceId, providerId := provider.id }

end StoreTable

namespace Store

theorem fst_addSource (store : Store) (source : String) :
    (store.addSource source).1 = { store with sources := (store.addSource source).1.sources } := by
  unfold addSource
  split <;> rfl

theorem foldl_addTransportService (source : String) (rows : List TransportServiceRow) (written : Written) :
    (rows.foldl (addTransportService source) written).1 =
      { written.1 with transportServices := written.1.transportServices.addAll source rows } := by
  induction rows generalizing written with
  | nil => rfl
  | cons row rest ih =>
    rw [List.foldl_cons, ih]
    unfold addTransportService StoreTable.addAll
    simp only [List.foldl_cons]
    split <;> rfl

theorem foldl_addProviderName (source : String) (names : List String) (written : Written) :
    (names.foldl (addProviderName source) written).1 =
      let numbered := written.1.providerNames.addNames source written.1.nextProvider names
      { written.1 with providerNames := numbered.1, nextProvider := numbered.2 } := by
  induction names generalizing written with
  | nil => rfl
  | cons name rest ih =>
    rw [List.foldl_cons, ih]
    unfold addProviderName StoreTable.addNames
    simp only [List.foldl_cons, StoreTable.addName]
    split <;> rfl

theorem foldl_addProviderLink (source : String) (rows : List ServiceProviderRow) (written : Written) :
    (rows.foldl (addProviderLink source) written).1 =
      { written.1 with
        providerLinks := written.1.providerLinks.putAll ProviderLink.storeKey source
          (written.1.providerNames.links source rows) } := by
  induction rows generalizing written with
  | nil => rfl
  | cons row rest ih =>
    rw [List.foldl_cons, ih]
    unfold addProviderLink providerId? StoreTable.links
    simp only [List.filterMap_cons]
    cases (written.1.providerNames.ofSource source).find? (·.name == row.provider) with
    | none => rfl
    | some provider => rfl

theorem insert_transportServices (store : Store) (source : String) (rows : List TransportServiceRow) :
    (store.insert source (.transportServices rows)).1 =
      { store with transportServices := store.transportServices.addAll source rows } :=
  foldl_addTransportService source rows (store, 0)

theorem insert_providerNames (store : Store) (source : String) (names : List String) :
    (store.insert source (.providerNames names)).1 =
      let numbered := store.providerNames.addNames source store.nextProvider names
      { store with providerNames := numbered.1, nextProvider := numbered.2 } :=
  foldl_addProviderName source names (store, 0)

theorem insert_serviceProviders (store : Store) (source : String) (rows : List ServiceProviderRow) :
    (store.insert source (.serviceProviders rows)).1 =
      { store with
        providerLinks := store.providerLinks.putAll ProviderLink.storeKey source
          (store.providerNames.links source rows) } :=
  foldl_addProviderLink source rows (store, 0)

theorem insert_of_isEmpty {batch : Batch} (empty : batch.isEmpty = true) (store : Store)
    (source : String) : (store.insert source batch).1 = store := by
  have nothing : batch.size = 0 := by simpa [Batch.isEmpty] using empty
  cases batch with
  | source => cases nothing
  | tuning rows =>
    obtain rfl : rows = [] := List.length_eq_zero_iff.mp nothing
    have cleared : store.tunings.erase source (fun old =>
        ([] : List TuningRow).any fun row => row.onid == old.onid && row.tsid == old.tsid) =
          store.tunings := List.filter_eq_self.mpr (by simp)
    simp only [insert, putTunings, cleared]
    rfl
  | networkNames rows | transportServices rows | services rows | serviceNames rows | providerNames rows
  | serviceProviders rows | regions rows | networkLcns rows =>
    cases List.length_eq_zero_iff.mp nothing
    rfl

theorem insertAll_filter (store : Store) (source : String) (batches : List Batch) :
    store.insertAll source (batches.filter (!·.isEmpty)) = store.insertAll source batches := by
  induction batches generalizing store with
  | nil => rfl
  | cons batch rest ih =>
    by_cases empty : batch.isEmpty = true
    · rw [List.filter_cons_of_neg (by simp [empty]), ih]
      change _ = (store.insert source batch).1.insertAll source rest
      rw [insert_of_isEmpty empty]
    · rw [List.filter_cons_of_pos (by simpa using empty)]
      exact ih _

theorem insertAll_batches (store : Store) (source : String) (topology : Topology) :
    store.insertAll source topology.batches =
      let numbered := store.providerNames.addNames source store.nextProvider topology.providerNames
      { sources := (store.addSource source).1.sources
        networkNames :=
          store.networkNames.putAll NetworkNameRow.storeKey source topology.networkNameRows
        tunings := (store.putTunings source topology.tuningRows).tunings
        transportServices := store.transportServices.addAll source topology.transportServiceRows
        services := store.services.putAll ServiceRow.storeKey source topology.serviceRows
        serviceNames :=
          store.serviceNames.putAll ServiceNameRow.storeKey source topology.serviceNameRows
        providerNames := numbered.1
        nextProvider := numbered.2
        providerLinks := store.providerLinks.putAll ProviderLink.storeKey source
          (numbered.1.links source topology.serviceProviderRows)
        regions := store.regions.putAll RegionRow.storeKey source topology.regionRows
        networkLcns := store.networkLcns.putAll NetworkLcnRow.storeKey source topology.networkLcnRows
        clientLcns := store.clientLcns } := by
  unfold insertAll Topology.batches
  simp only [List.foldl_cons, List.foldl_nil, insert]
  rw [fst_addSource, foldl_addTransportService, foldl_addProviderName, foldl_addProviderLink]
  rfl

end Store

namespace StorageWorker

variable {worker : StorageWorker}

theorem runAll_insert (running : worker.running = true) (source : String) (batches : List Batch) :
    (worker.runAll (batches.map (.insert source) : List (StoreJob Unit))).1 =
      { worker with store := worker.store.insertAll source batches } := by
  induction batches generalizing worker with
  | nil => rfl
  | cons batch rest ih =>
    let next : StorageWorker := { worker with store := (worker.store.insert source batch).1 }
    have done : (worker.runWith Store.writer (.insert source batch : StoreJob Unit)).1 = next := by
      unfold runWith
      rw [if_pos running]
      rfl
    rw [List.map_cons]
    unfold runAll runAllWith
    simp only [done]
    exact @ih next running

/-- A commit writes every batch, whatever failure waits to be told. -/
theorem store_commit (running : worker.running = true) (source : String) (batches : List Batch) :
    (worker.commit source batches).1.store = worker.store.insertAll source batches := by
  unfold commit
  simp only [runAll_insert running, Store.insertAll_filter]
  unfold run runWith
  rw [if_pos running]
  rfl

end StorageWorker

end DvbScan
