import DvbScan.Proofs.Commit

/-!
# What a history of writes leaves

In a table with keys each source has one row at most for a key, and it is the one that was written last. So what
is stored after a history of writes depends on the order of the rows with one key, and on no other order.
-/

namespace DvbScan

section Latest

variable {α κ : Type} {key : α → κ} {row : α} {rows rows' : List α}

/-- Lists that come of each other when neighbours with different keys change places. -/
inductive Reordered (key : α → κ) : List α → List α → Prop
  | refl (rows : List α) : Reordered key rows rows
  | cons (row : α) {rows rows' : List α} : Reordered key rows rows' → Reordered key (row :: rows) (row :: rows')
  | swap {first second : α} (different : key first ≠ key second) (rest : List α) :
      Reordered key (first :: second :: rest) (second :: first :: rest)
  | trans {rows middle rows' : List α} : Reordered key rows middle → Reordered key middle rows' →
      Reordered key rows rows'

theorem reordered_of_perm (perm : rows.Perm rows') (distinct : (rows.map key).Nodup) :
    Reordered key rows rows' := by
  induction perm with
  | nil => exact .refl []
  | cons row _ ih => exact .cons row (ih (List.nodup_cons.mp distinct).2)
  | swap first second rest =>
    rw [List.map_cons, List.map_cons, List.nodup_cons] at distinct
    apply Reordered.swap
    intro same
    exact distinct.1 (same ▸ List.mem_cons_self)
  | trans former _ first second =>
    exact .trans (first distinct) (second ((former.map key).nodup_iff.mp distinct))

variable [DecidableEq κ] {wanted : κ}

def latest? (key : α → κ) (wanted : κ) : List α → Option α
  | [] => none
  | row :: rest => (latest? key wanted rest).or (if key row = wanted then some row else none)

theorem latest?_append (key : α → κ) (wanted : κ) (first second : List α) :
    latest? key wanted (first ++ second) = (latest? key wanted second).or (latest? key wanted first) := by
  induction first with
  | nil => simp [latest?]
  | cons row rest ih =>
    rw [List.cons_append, latest?, ih, latest?]
    exact Option.or_assoc

theorem key_of_latest? (found : latest? key wanted rows = some row) : key row = wanted := by
  induction rows with
  | nil => cases found
  | cons first rest ih =>
    rw [latest?] at found
    rcases Option.or_eq_some_iff.mp found with later | ⟨-, own⟩
    · exact ih later
    · split at own
      next same =>
        cases own
        exact same
      next => cases own

theorem latest?_id_eq_some_iff [DecidableEq α] : latest? id row rows = some row ↔ row ∈ rows := by
  induction rows with
  | nil => simp [latest?]
  | cons first rest ih =>
    rw [latest?, List.mem_cons, ← ih]
    cases found : latest? id row rest with
    | none => simp [eq_comm]
    | some last =>
      have own : last = row := key_of_latest? found
      simp [own]

theorem Reordered.latest?_eq (reordered : Reordered key rows rows') (wanted : κ) :
    latest? key wanted rows = latest? key wanted rows' := by
  induction reordered with
  | refl => rfl
  | cons row _ ih => rw [latest?, latest?, ih]
  | swap different rest =>
    simp only [latest?, Option.or_assoc]
    congr 1
    split <;> split <;> simp_all
  | trans _ _ former latter => exact former.trans latter

/-- After rows are written the last one with each key is there, and what was there if none is written. -/
def Updates (key : α → κ) (before rows after : List α) : Prop :=
  ∀ row, row ∈ after ↔ latest? key (key row) rows = some row ∨
    latest? key (key row) rows = none ∧ row ∈ before

namespace Updates

variable {before middle after after' : List α}

theorem refl (key : α → κ) (before : List α) : Updates key before [] before := by
  intro row
  simp [latest?]

theorem trans (former : Updates key before rows middle) (latter : Updates key middle rows' after) :
    Updates key before (rows ++ rows') after := by
  intro row
  rw [latter row, former row, latest?_append]
  cases latest? key (key row) rows' <;> simp

theorem mem_iff (first : Updates key before rows after) (second : Updates key before rows' after')
    (reordered : Reordered key rows rows') (row : α) : row ∈ after ↔ row ∈ after' := by
  rw [first row, second row, reordered.latest?_eq]

end Updates

end Latest

namespace StoreTable

variable {α κ : Type} {key : α → κ} {table : StoreTable α} {source : String} {row : α} {rows : List α}

def IsKeyed (key : α → κ) (table : StoreTable α) : Prop :=
  ∀ source, ((table.ofSource source).map key).Nodup

namespace IsKeyed

theorem nil (key : α → κ) : IsKeyed key [] := fun _ => .nil

theorem eq (keyed : table.IsKeyed key) {first second : α} (former : first ∈ table.ofSource source)
    (latter : second ∈ table.ofSource source) (same : key first = key second) : first = second :=
  List.inj_on_of_nodup_map (keyed source) former latter same

theorem erase (keyed : table.IsKeyed key) (source : String) (test : α → Bool) :
    (table.erase source test).IsKeyed key := by
  intro other
  by_cases own : other = source
  · subst own
    rw [ofSource_erase_self]
    exact (keyed other).sublist (List.filter_sublist.map key)
  · rw [ofSource_erase_of_ne own]
    exact keyed other

theorem append (keyed : table.IsKeyed key) (fresh : ∀ old ∈ table.ofSource source, key old ≠ key row) :
    IsKeyed key (table ++ [⟨source, row⟩]) := by
  intro other
  rw [ofSource_append, List.map_append]
  by_cases own : other = source
  · subst own
    rw [ofSource_singleton_self]
    refine List.nodup_append.mpr ⟨keyed other, List.nodup_singleton _, ?_⟩
    intro first former second latter
    obtain ⟨old, present, rfl⟩ := List.mem_map.mp former
    rw [List.mem_singleton.mp latter]
    exact fresh old present
  · rw [ofSource_singleton_of_ne own, List.map_nil, List.append_nil]
    exact keyed other

variable [DecidableEq κ]

theorem put (keyed : table.IsKeyed key) (source : String) (row : α) :
    (put key source table row).IsKeyed key := by
  apply (keyed.erase source fun old => key old == key row).append
  intro old kept same
  rw [ofSource_erase_self] at kept
  have different := (List.mem_filter.mp kept).2
  simp [same] at different

theorem putAll (keyed : table.IsKeyed key) (source : String) (rows : List α) :
    (table.putAll key source rows).IsKeyed key := by
  induction rows generalizing table with
  | nil => exact keyed
  | cons row rest ih => exact ih (keyed.put source row)

theorem addAll [DecidableEq α] {table : StoreTable α} (keyed : table.IsKeyed id) (source : String)
    (rows : List α) : (table.addAll source rows).IsKeyed id := by
  induction rows generalizing table with
  | nil => exact keyed
  | cons row rest ih =>
    unfold StoreTable.addAll
    rw [List.foldl_cons]
    apply ih
    split
    next => exact keyed
    next absent =>
      apply keyed.append
      intro old present same
      exact absent (has_iff.mpr ⟨old, present, beq_iff_eq.mpr same⟩)

theorem addNames {table : StoreTable ProviderName} (keyed : table.IsKeyed ProviderName.name)
    (source : String) (next : Nat) (names : List String) :
    (table.addNames source next names).1.IsKeyed ProviderName.name := by
  induction names generalizing table next with
  | nil => exact keyed
  | cons name rest ih =>
    unfold StoreTable.addNames
    rw [List.foldl_cons, addName]
    split
    next => exact ih keyed _
    next absent =>
      apply ih
      apply keyed.append
      intro old present same
      exact absent (has_iff.mpr ⟨old, present, beq_iff_eq.mpr same⟩)

end IsKeyed

variable [DecidableEq κ]

theorem updates_putAll (key : α → κ) (table : StoreTable α) (source : String) (rows : List α) :
    Updates key (table.ofSource source) rows ((table.putAll key source rows).ofSource source) := by
  induction rows generalizing table with
  | nil => exact .refl key _
  | cons first rest ih =>
    -- one row first: the rest may write its key again
    have own : Updates key (table.ofSource source) [first] ((put key source table first).ofSource source) := by
      intro row
      rw [ofSource_put_self, List.mem_append, List.mem_filter, List.mem_singleton, latest?, latest?,
        Option.none_or]
      by_cases same : key first = key row
      · simp [same, eq_comm]
      · have other : row ≠ first := fun equal => same (congrArg key equal.symm)
        simp [same, other, Ne.symm same]
    exact own.trans (ih _)

theorem updates_addAll [DecidableEq α] (table : StoreTable α) (source : String) (rows : List α) :
    Updates id (table.ofSource source) rows ((table.addAll source rows).ofSource source) := by
  intro row
  change _ ↔ latest? id row rows = some row ∨ latest? id row rows = none ∧ _
  rw [mem_ofSource_addAll, latest?_id_eq_some_iff]
  by_cases listed : row ∈ rows
  · simp [listed]
  · have absent : latest? id row rows = none := by
      cases found : latest? id row rows with
      | none => rfl
      | some last =>
        have own : last = row := key_of_latest? found
        exact absurd (latest?_id_eq_some_iff.mp (own ▸ found)) listed
    simp [listed, absent]

theorem ofSource_addAll_of_ne [DecidableEq α] {other : String} (different : other ≠ source)
    (table : StoreTable α) (rows : List α) : (table.addAll source rows).ofSource other = table.ofSource other := by
  induction rows generalizing table with
  | nil => rfl
  | cons row rest ih =>
    unfold addAll
    rw [List.foldl_cons]
    refine (ih _).trans ?_
    split
    · rfl
    · rw [ofSource_append, ofSource_singleton_of_ne different, List.append_nil]

theorem updates_putAll_under (key : α → κ) (table : StoreTable α) (owner source : String) (rows : List α) :
    Updates key (table.ofSource source) (if owner = source then rows else [])
      ((table.putAll key owner rows).ofSource source) := by
  split
  next own => exact own ▸ updates_putAll key table owner rows
  next other =>
    rw [ofSource_putAll_of_ne (Ne.symm other)]
    exact .refl key _

theorem updates_addAll_under [DecidableEq α] (table : StoreTable α) (owner source : String) (rows : List α) :
    Updates id (table.ofSource source) (if owner = source then rows else [])
      ((table.addAll owner rows).ofSource source) := by
  split
  next own => exact own ▸ updates_addAll table owner rows
  next other =>
    rw [ofSource_addAll_of_ne (Ne.symm other)]
    exact .refl id _

end StoreTable

/-- Every table with keys has one row at most for a source and a key. -/
structure Store.Keyed (store : Store) : Prop where
  networkNames : store.networkNames.IsKeyed NetworkNameRow.storeKey
  tunings : store.tunings.IsKeyed TuningRow.storeKey
  transportServices : store.transportServices.IsKeyed id
  services : store.services.IsKeyed ServiceRow.storeKey
  serviceNames : store.serviceNames.IsKeyed ServiceNameRow.storeKey
  providerNames : store.providerNames.IsKeyed ProviderName.name
  providerLinks : store.providerLinks.IsKeyed ProviderLink.storeKey
  regions : store.regions.IsKeyed RegionRow.storeKey
  networkLcns : store.networkLcns.IsKeyed NetworkLcnRow.storeKey

namespace Store

variable {store : Store}

theorem keyed_empty : Store.empty.Keyed := by
  constructor <;> exact .nil _

namespace Keyed

theorem insert (keyed : store.Keyed) (source : String) (batch : Batch) :
    (store.insert source batch).1.Keyed := by
  cases batch with
  | source =>
    change (store.addSource source).1.Keyed
    rw [fst_addSource]
    exact { keyed with }
  | networkNames rows => exact { keyed with networkNames := keyed.networkNames.putAll source rows }
  | tuning rows => exact { keyed with tunings := (keyed.tunings.erase source _).putAll source rows }
  | transportServices rows =>
    change (rows.foldl (addTransportService source) (store, 0)).1.Keyed
    rw [foldl_addTransportService]
    exact { keyed with transportServices := keyed.transportServices.addAll source rows }
  | services rows => exact { keyed with services := keyed.services.putAll source rows }
  | serviceNames rows => exact { keyed with serviceNames := keyed.serviceNames.putAll source rows }
  | providerNames names =>
    change (names.foldl (addProviderName source) (store, 0)).1.Keyed
    rw [foldl_addProviderName]
    exact { keyed with providerNames := keyed.providerNames.addNames source _ names }
  | serviceProviders rows =>
    change (rows.foldl (addProviderLink source) (store, 0)).1.Keyed
    rw [foldl_addProviderLink]
    exact { keyed with providerLinks := keyed.providerLinks.putAll source _ }
  | regions rows => exact { keyed with regions := keyed.regions.putAll source rows }
  | networkLcns rows => exact { keyed with networkLcns := keyed.networkLcns.putAll source rows }

theorem insertAll (keyed : store.Keyed) (source : String) (batches : List Batch) :
    (store.insertAll source batches).Keyed := by
  induction batches generalizing store with
  | nil => exact keyed
  | cons batch rest ih => exact ih (keyed.insert source batch)

end Keyed

def insertEach (store : Store) (history : List (String × Batch)) : Store :=
  history.foldl (fun store entry => (store.insert entry.1 entry.2).1) store

theorem Keyed.insertEach (keyed : store.Keyed) (history : List (String × Batch)) :
    (store.insertEach history).Keyed := by
  induction history generalizing store with
  | nil => exact keyed
  | cons entry rest ih => exact ih (keyed.insert entry.1 entry.2)

end Store

namespace Batch

def networkLcnRows : Batch → List NetworkLcnRow
  | networkLcns rows => rows
  | _ => []

def serviceRows : Batch → List ServiceRow
  | services rows => rows
  | _ => []

def transportServiceRows : Batch → List TransportServiceRow
  | transportServices rows => rows
  | _ => []

def rowsUnder {α : Type} (source : String) (rowsOf : Batch → List α) (history : List (String × Batch)) :
    List α :=
  history.flatMap fun entry => if entry.1 = source then rowsOf entry.2 else []

end Batch

namespace Store

theorem lookupTables_insert (store : Store) (source : String) (batch : Batch) :
    let after := (store.insert source batch).1
    after.networkLcns = store.networkLcns.putAll NetworkLcnRow.storeKey source batch.networkLcnRows ∧
      after.services = store.services.putAll ServiceRow.storeKey source batch.serviceRows ∧
      after.transportServices =
        store.transportServices.addAll source batch.transportServiceRows := by
  cases batch with
  | source =>
    unfold insert
    simp only
    rw [fst_addSource]
    exact ⟨rfl, rfl, rfl⟩
  | transportServices rows =>
    unfold insert
    simp only
    rw [foldl_addTransportService]
    exact ⟨rfl, rfl, rfl⟩
  | providerNames names =>
    unfold insert
    simp only
    rw [foldl_addProviderName]
    exact ⟨rfl, rfl, rfl⟩
  | serviceProviders rows =>
    unfold insert
    simp only
    rw [foldl_addProviderLink]
    exact ⟨rfl, rfl, rfl⟩
  | _ => exact ⟨rfl, rfl, rfl⟩

/-- Where every batch updates a table of a source by its own rows, a history does by all of them. -/
theorem updates_insertEach {α κ : Type} [DecidableEq κ] {key : α → κ} {table : Store → StoreTable α}
    {rowsOf : Batch → List α} {source : String}
    (step : ∀ store owner batch, Updates key ((table store).ofSource source)
      (if owner = source then rowsOf batch else []) ((table (store.insert owner batch).1).ofSource source))
    (store : Store) (history : List (String × Batch)) :
    Updates key ((table store).ofSource source) (Batch.rowsUnder source rowsOf history)
      ((table (store.insertEach history)).ofSource source) := by
  induction history generalizing store with
  | nil => exact .refl key _
  | cons entry rest ih =>
    unfold Batch.rowsUnder
    rw [List.flatMap_cons]
    exact (step store entry.1 entry.2).trans (ih _)

theorem updates_networkLcns (store : Store) (source : String) (history : List (String × Batch)) :
    Updates NetworkLcnRow.storeKey (store.networkLcns.ofSource source)
      (Batch.rowsUnder source Batch.networkLcnRows history)
      ((store.insertEach history).networkLcns.ofSource source) := by
  apply updates_insertEach
  intro store owner batch
  rw [(store.lookupTables_insert owner batch).1]
  exact StoreTable.updates_putAll_under _ _ owner source _

theorem updates_services (store : Store) (source : String) (history : List (String × Batch)) :
    Updates ServiceRow.storeKey (store.services.ofSource source)
      (Batch.rowsUnder source Batch.serviceRows history)
      ((store.insertEach history).services.ofSource source) := by
  apply updates_insertEach
  intro store owner batch
  rw [(store.lookupTables_insert owner batch).2.1]
  exact StoreTable.updates_putAll_under _ _ owner source _

theorem updates_transportServices (store : Store) (source : String) (history : List (String × Batch)) :
    Updates id (store.transportServices.ofSource source)
      (Batch.rowsUnder source Batch.transportServiceRows history)
      ((store.insertEach history).transportServices.ofSource source) := by
  apply updates_insertEach
  intro store owner batch
  rw [(store.lookupTables_insert owner batch).2.2]
  exact StoreTable.updates_addAll_under _ owner source _

end Store

end DvbScan
