import DvbScan.Proofs.Lookup
import DvbScan.Proofs.SourceIsolation
import Mathlib.Data.List.Dedup

/-!
# Providers of services

A service names its provider, and the store links it to a number. The numbers are given when the names are written, a
batch before the links; a name that has one keeps it, and no number is given twice. So after a commit every service
with a provider has one link, to the one row of the provider's name, whatever its links were before. The links are
written row by row, and after no row is there a link to a number that is not given.
-/

namespace DvbScan

theorem filter_eq_singleton {α κ : Type} [BEq κ] [LawfulBEq κ] {key : α → κ} {rows : List α} {row : α}
    (distinct : (rows.map key).Nodup) (member : row ∈ rows) : rows.filter (key · == key row) = [row] := by
  induction rows with
  | nil => cases member
  | cons first rest ih =>
    rw [List.map_cons, List.nodup_cons] at distinct
    rcases List.mem_cons.mp member with rfl | later
    · have others : rest.filter (key · == key row) = [] := by
        refine List.filter_eq_nil_iff.mpr fun other listed same => ?_
        exact distinct.1 (beq_iff_eq.mp same ▸ List.mem_map_of_mem listed)
      rw [List.filter_cons, if_pos (beq_self_eq_true _), others]
    · have different : ¬(key first == key row) = true := by
        intro same
        exact distinct.1 (beq_iff_eq.mp same ▸ List.mem_map_of_mem later)
      rw [List.filter_cons, if_neg different, ih distinct.2 later]

namespace StoreTable

variable {table : StoreTable ProviderName} {source : String} {next : Nat}

/-- Every name has a number of its own, and the next number has not been given. -/
structure IsNumbered (table : StoreTable ProviderName) (next : Nat) : Prop where
  distinct : (table.map (·.row.id)).Nodup
  below : ∀ stored ∈ table, stored.row.id < next

namespace IsNumbered

theorem addName (numbered : table.IsNumbered next) (source name : String) :
    let added := StoreTable.addName source (table, next) name
    added.1.IsNumbered added.2 := by
  unfold StoreTable.addName
  simp only
  split
  next => exact ⟨numbered.distinct, fun stored member => (numbered.below stored member).trans (Nat.lt_succ_self _)⟩
  next =>
    constructor
    · rw [List.map_append]
      refine List.nodup_append.mpr ⟨numbered.distinct, List.nodup_singleton _, ?_⟩
      intro given former fresh latter
      obtain ⟨stored, member, rfl⟩ := List.mem_map.mp former
      rw [List.mem_singleton.mp latter]
      exact (numbered.below stored member).ne
    · intro stored member
      rcases List.mem_append.mp member with before | new
      · exact (numbered.below stored before).trans (Nat.lt_succ_self _)
      · rw [List.mem_singleton.mp new]
        exact Nat.lt_succ_self _

theorem addNames (numbered : table.IsNumbered next) (source : String) (names : List String) :
    let added := table.addNames source next names
    added.1.IsNumbered added.2 := by
  induction names generalizing table next with
  | nil => exact numbered
  | cons name rest ih => exact ih (numbered.addName source name)

end IsNumbered

theorem mem_links {rows : List ServiceProviderRow} {row : ServiceProviderRow} (listed : row ∈ rows)
    (named : table.has source (·.name == row.provider) = true) :
    ∃ provider ∈ table.ofSource source, provider.name = row.provider ∧
      ⟨row.onid, row.serviceId, provider.id⟩ ∈ table.links source rows := by
  obtain ⟨known, present, same⟩ := has_iff.mp named
  have any : ((table.ofSource source).find? (·.name == row.provider)).isSome = true :=
    List.find?_isSome.mpr ⟨known, present, same⟩
  obtain ⟨provider, found⟩ := Option.isSome_iff_exists.mp any
  have own := List.find?_some found
  refine ⟨provider, List.mem_of_find?_eq_some found, beq_iff_eq.mp own, ?_⟩
  exact List.mem_filterMap.mpr ⟨row, listed, by rw [found, Option.map_some]⟩

theorem nodup_links {rows : List ServiceProviderRow}
    (distinct : rows.Pairwise fun first second =>
      (first.onid, first.serviceId) ≠ (second.onid, second.serviceId)) (source : String)
    (table : StoreTable ProviderName) : ((table.links source rows).map ProviderLink.storeKey).Nodup := by
  apply List.pairwise_map.mpr
  refine distinct.filterMap _ fun first second different link linked link' linked' => ?_
  obtain ⟨_, -, rfl⟩ := Option.map_eq_some_iff.mp linked
  obtain ⟨_, -, rfl⟩ := Option.map_eq_some_iff.mp linked'
  exact different

end StoreTable

namespace Topology

variable {topology : Topology}

theorem mem_serviceProviderRows {key : ServiceKey} {service : Service} {provider : String}
    (collected : topology.services.get? key = some service) (provided : service.provider = some provider) :
    ⟨key.onid, key.serviceId, provider⟩ ∈ topology.serviceProviderRows := by
  refine List.mem_filterMap.mpr ⟨(key, service), OrderedMap.mem_entries_iff_get?.mpr collected, ?_⟩
  simp only [provided, Option.map_some]

theorem pairwise_serviceProviderRows (topology : Topology) :
    topology.serviceProviderRows.Pairwise fun first second =>
      (first.onid, first.serviceId) ≠ (second.onid, second.serviceId) := by
  refine topology.services.ordered.filterMap _ fun first second before row named row' named' same => ?_
  obtain ⟨_, -, rfl⟩ := Option.map_eq_some_iff.mp named
  obtain ⟨_, -, rfl⟩ := Option.map_eq_some_iff.mp named'
  have keys : first.1 = second.1 := by
    obtain ⟨onids, services⟩ := Prod.mk.inj same
    exact ServiceKey.mk.injEq .. ▸ ⟨onids, services⟩
  exact before.ne (congrArg rank keys)

theorem mem_foldl_names {names listed : List String} {name : String} (there : name ∈ names ∨ name ∈ listed) :
    name ∈ listed.foldl (fun names name => if names.contains name then names else names ++ [name]) names := by
  induction listed generalizing names with
  | nil => exact there.resolve_right List.not_mem_nil
  | cons first rest ih =>
    rw [List.foldl_cons]
    split
    next known =>
      apply ih
      rcases there with before | listed
      · exact .inl before
      · rcases List.mem_cons.mp listed with rfl | later
        · exact .inl (List.contains_iff_mem.mp known)
        · exact .inr later
    next =>
      apply ih
      rw [List.mem_append, List.mem_singleton, or_assoc, ← List.mem_cons]
      exact there

theorem provider_mem_providerNames {row : ServiceProviderRow} (listed : row ∈ topology.serviceProviderRows) :
    row.provider ∈ topology.providerNames :=
  mem_foldl_names (.inr (List.mem_map_of_mem (f := ServiceProviderRow.provider) listed))

end Topology

/-- What a batch is written in: one row after the other, the tunings after those that they replace are taken out. -/
inductive StoreStep where
  | clearTuning (onid tsid : UInt16)
  | putTuning (row : TuningRow)
  /-- A batch of one row of any other kind. -/
  | insert (batch : Batch)
  deriving DecidableEq, Repr

namespace Batch

def steps : Batch → List StoreStep
  | source => [.insert source]
  | networkNames rows => rows.map fun row => .insert (networkNames [row])
  | tuning rows =>
    (rows.map fun row => (row.onid, row.tsid)).dedup.map (fun transport => .clearTuning transport.1 transport.2) ++
      rows.map .putTuning
  | transportServices rows => rows.map fun row => .insert (transportServices [row])
  | services rows => rows.map fun row => .insert (services [row])
  | serviceNames rows => rows.map fun row => .insert (serviceNames [row])
  | providerNames names => names.map fun name => .insert (providerNames [name])
  | serviceProviders rows => rows.map fun row => .insert (serviceProviders [row])
  | regions rows => rows.map fun row => .insert (regions [row])
  | networkLcns rows => rows.map fun row => .insert (networkLcns [row])

end Batch

def Topology.steps (topology : Topology) : List StoreStep := topology.batches.flatMap Batch.steps

namespace Store

def step (source : String) (store : Store) : StoreStep → Store
  | .clearTuning onid tsid =>
    { store with tunings := store.tunings.erase source fun old => old.onid == onid && old.tsid == tsid }
  | .putTuning row => { store with tunings := store.tunings.put TuningRow.storeKey source row }
  | .insert batch => (store.insert source batch).1

variable {source : String}

theorem foldl_clearTuning (store : Store) (transports : List (UInt16 × UInt16)) :
    (transports.map fun transport => StoreStep.clearTuning transport.1 transport.2).foldl (step source) store =
      { store with
        tunings := store.tunings.erase source fun old => transports.contains (old.onid, old.tsid) } := by
  induction transports generalizing store with
  | nil =>
    have kept : store.tunings.erase source (fun _ => false) = store.tunings :=
      List.filter_eq_self.mpr (by simp)
    simp only [List.map_nil, List.foldl_nil, List.contains_nil, kept]
  | cons transport rest ih =>
    rw [List.map_cons, List.foldl_cons, ih]
    unfold step StoreTable.erase
    simp only [List.filter_filter]
    congr 1
    apply List.filter_congr
    intro stored _
    have pair : ((stored.row.onid, stored.row.tsid) == transport) =
        (stored.row.onid == transport.1 && stored.row.tsid == transport.2) := rfl
    rw [List.contains_cons, pair]
    cases stored.source == source <;> simp [Bool.and_comm]

theorem foldl_putTuning (store : Store) (rows : List TuningRow) :
    (rows.map StoreStep.putTuning).foldl (step source) store =
      { store with tunings := store.tunings.putAll TuningRow.storeKey source rows } := by
  induction rows generalizing store with
  | nil => rfl
  | cons row rest ih => exact ih _

/-- Where the first row may be written in a batch of its own, all rows may. -/
theorem insert_eq_foldl {α : Type} {kind : List α → Batch}
    (nothing : ∀ store : Store, (store.insert source (kind [])).1 = store)
    (first : ∀ (store : Store) row rest, (store.insert source (kind (row :: rest))).1 =
      ((store.insert source (kind [row])).1.insert source (kind rest)).1) (store : Store) (rows : List α) :
    (store.insert source (kind rows)).1 =
      (rows.map fun row => StoreStep.insert (kind [row])).foldl (step source) store := by
  induction rows generalizing store with
  | nil => exact nothing store
  | cons row rest ih =>
    rw [first, ih]
    rfl

theorem insert_eq_foldl_steps (store : Store) (source : String) (batch : Batch) :
    (store.insert source batch).1 = batch.steps.foldl (step source) store := by
  cases batch with
  | source => rfl
  | tuning rows =>
    have cleared : (fun old : TuningRow => rows.any fun row => row.onid == old.onid && row.tsid == old.tsid) =
        fun old => (rows.map fun row => (row.onid, row.tsid)).dedup.contains (old.onid, old.tsid) := by
      funext old
      rw [Bool.eq_iff_iff, List.any_eq_true, List.contains_iff_mem, List.mem_dedup, List.mem_map]
      simp only [Bool.and_eq_true, beq_iff_eq, Prod.mk.injEq]
    unfold Batch.steps
    rw [List.foldl_append, foldl_clearTuning, foldl_putTuning, ← cleared]
    rfl
  | transportServices rows =>
    refine insert_eq_foldl (fun _ => rfl) (fun store row rest => ?_) store rows
    simp only [insert_transportServices]
    rfl
  | providerNames names =>
    refine insert_eq_foldl (fun _ => rfl) (fun store name rest => ?_) store names
    simp only [insert_providerNames]
    rfl
  | serviceProviders rows =>
    refine insert_eq_foldl (fun _ => rfl) (fun store row rest => ?_) store rows
    -- the names are not written, so each row is linked as it is in the batch
    have split : store.providerNames.links source (row :: rest) =
        store.providerNames.links source [row] ++ store.providerNames.links source rest :=
      List.filterMap_append (l := [row])
    simp only [insert_serviceProviders, split]
    unfold StoreTable.putAll
    rw [List.foldl_append]
  | networkNames rows | services rows | serviceNames rows | regions rows | networkLcns rows =>
    exact insert_eq_foldl (fun _ => rfl) (fun _ _ _ => rfl) store rows

theorem insertAll_eq_foldl_steps (store : Store) (source : String) (batches : List Batch) :
    store.insertAll source batches = (batches.flatMap Batch.steps).foldl (step source) store := by
  induction batches generalizing store with
  | nil => rfl
  | cons batch rest ih =>
    rw [List.flatMap_cons, List.foldl_append, ← insert_eq_foldl_steps]
    exact ih _

theorem linked_step {store : Store} (linked : store.Linked) (source : String) (step : StoreStep) :
    (store.step source step).Linked := by
  cases step with
  | clearTuning | putTuning => exact linked
  | insert batch => exact linked_insert linked source batch

theorem linked_steps {store : Store} (linked : store.Linked) (source : String) (steps : List StoreStep) :
    (steps.foldl (step source) store).Linked := by
  induction steps generalizing store with
  | nil => exact linked
  | cons step rest ih => exact ih (linked_step linked source step)

/-- What every write keeps of the providers: a source has a name once, a service has one link, every name has a number
of its own, and every link is to a number that is given. -/
structure HasProviders (store : Store) : Prop where
  keyed : store.Keyed
  numbered : store.providerNames.IsNumbered store.nextProvider
  linked : store.Linked

theorem hasProviders_empty : empty.HasProviders where
  keyed := keyed_empty
  numbered := ⟨.nil, fun _ member => nomatch member⟩
  linked := fun _ member => nomatch member

theorem HasProviders.insertAll {store : Store} (has : store.HasProviders) (source : String) (topology : Topology) :
    (store.insertAll source topology.batches).HasProviders where
  keyed := has.keyed.insertAll source topology.batches
  numbered := by
    rw [insertAll_batches]
    exact has.numbered.addNames source topology.providerNames
  linked := by
    rw [insertAll_eq_foldl_steps]
    exact linked_steps has.linked source _

/-- A service has one link, and the number that it is to is that of one row, which gives the source the name. -/
def LinksOnce (store : Store) (source : String) (key : ServiceKey) (provider : String) : Prop :=
  ∃ link, (store.providerLinks.ofSource source).filter (·.storeKey == (key.onid, key.serviceId)) = [link] ∧
    store.providerNames.filter (·.row.id == link.providerId) = [⟨source, ⟨link.providerId, provider⟩⟩]

theorem linksOnce_insertAll {store : Store} (has : store.HasProviders) (source : String) {topology : Topology}
    {key : ServiceKey} {service : Service} {provider : String}
    (collected : topology.services.get? key = some service) (provided : service.provider = some provider) :
    (store.insertAll source topology.batches).LinksOnce source key provider := by
  have after := has.insertAll source topology
  have listed := Topology.mem_serviceProviderRows collected provided
  have named : (store.providerNames.addNames source store.nextProvider topology.providerNames).1.has source
      (·.name == provider) = true :=
    StoreTable.has_addNames (Topology.provider_mem_providerNames listed) store.providerNames store.nextProvider
  obtain ⟨⟨id, provider⟩, numbered, rfl, linked⟩ := StoreTable.mem_links listed named
  have link : ⟨key.onid, key.serviceId, id⟩ ∈
      (store.insertAll source topology.batches).providerLinks.ofSource source := by
    rw [insertAll_batches]
    exact (StoreTable.mem_ofSource_putAll_self
      (StoreTable.nodup_links topology.pairwise_serviceProviderRows source _)).mpr (.inl linked)
  have number : ⟨source, ⟨id, provider⟩⟩ ∈ (store.insertAll source topology.batches).providerNames := by
    rw [insertAll_batches]
    exact StoreTable.mem_ofSource.mp numbered
  refine ⟨⟨key.onid, key.serviceId, id⟩, ?_, ?_⟩
  · exact filter_eq_singleton (after.keyed.providerLinks source) link
  · exact filter_eq_singleton after.numbered.distinct number

end Store

namespace StorageWorker

def commitEach (worker : StorageWorker) (history : List (String × Topology)) : StorageWorker :=
  history.foldl (fun worker entry => (worker.commit entry.1 entry.2.batches).1) worker

theorem running_commitEach (worker : StorageWorker) (history : List (String × Topology)) :
    (worker.commitEach history).running = worker.running := by
  induction history generalizing worker with
  | nil => rfl
  | cons entry rest ih => exact (ih _).trans (worker.running_commit entry.1 entry.2.batches)

theorem hasProviders_commitEach {worker : StorageWorker} (running : worker.running = true)
    (has : worker.store.HasProviders) (history : List (String × Topology)) :
    (worker.commitEach history).store.HasProviders := by
  induction history generalizing worker with
  | nil => exact has
  | cons entry rest ih =>
    apply ih ((worker.running_commit entry.1 entry.2.batches).trans running)
    rw [store_commit running]
    exact has.insertAll entry.1 entry.2

/-- Whatever topologies were committed before, under whichever sources, a commit leaves every service that has a
provider with one link, to the one number of that name in the source. No source has a name twice. The commit is the
steps of its batches, and after none of them is a link without its provider. -/
theorem links_of_commits (history : List (String × Topology)) (source : String) (topology : Topology) :
    let worker := (StorageWorker.new .empty).commitEach history
    let after := (worker.commit source topology.batches).1.store
    (∀ key service provider, topology.services.get? key = some service → service.provider = some provider →
      after.LinksOnce source key provider) ∧
    (∀ owner, ((after.providerNames.ofSource owner).map (·.name)).Nodup) ∧
    after = topology.steps.foldl (Store.step source) worker.store ∧
    ∀ done, done <+: topology.steps → (done.foldl (Store.step source) worker.store).Linked := by
  intro worker after
  have running : worker.running = true := running_commitEach _ history
  have has : worker.store.HasProviders := hasProviders_commitEach rfl Store.hasProviders_empty history
  have written : after = worker.store.insertAll source topology.batches := store_commit running source _
  refine ⟨fun key service provider collected provided => ?_, fun owner => ?_, ?_, fun done _ => ?_⟩
  · rw [written]
    exact Store.linksOnce_insertAll has source collected provided
  · rw [written]
    exact (has.insertAll source topology).keyed.providerNames owner
  · rw [written]
    exact Store.insertAll_eq_foldl_steps _ _ _
  · exact Store.linked_steps has.linked source done

namespace MovedService

def providedBy (provider : String) : Service := { Service.unknown with provider := some provider }

def heard (provider : String) : Topology :=
  { Topology.empty with
    services := ((OrderedMap.empty.insert ⟨9018, 4171⟩ (providedBy provider)).insert ⟨9018, 4172⟩ (providedBy "BBC")) }

def worker : StorageWorker :=
  (StorageWorker.new .empty).commitEach [("aerial", heard "BBC"), ("dish", heard "ITV")]

/-- A service has moved to a provider that is new to the source: it is linked to the new number only, and in the midst
of the commit nothing is amiss. -/
theorem links_of_moved_service :
    let after := (worker.commit "aerial" (heard "ITV").batches).1.store
    let done := (heard "ITV").steps.take 6
    ((heard "ITV").services.get? ⟨9018, 4171⟩ = some (providedBy "ITV") ∧
      (providedBy "ITV").provider = some "ITV" ∧ done <+: (heard "ITV").steps) ∧
    after.LinksOnce "aerial" ⟨9018, 4171⟩ "ITV" ∧ (done.foldl (Store.step "aerial") worker.store).Linked ∧
    worker.store.providerOf? "aerial" 9018 4171 = some "BBC" ∧ after.providerOf? "aerial" 9018 4171 = some "ITV" := by
  intro after done
  have links := links_of_commits [("aerial", heard "BBC"), ("dish", heard "ITV")] "aerial" (heard "ITV")
  have collected : (heard "ITV").services.get? ⟨9018, 4171⟩ = some (providedBy "ITV") := by decide
  have started : done <+: (heard "ITV").steps := List.take_prefix 6 _
  exact ⟨⟨collected, rfl, started⟩, links.1 _ _ _ collected rfl, links.2.2.2 done started, by decide +kernel,
    by decide +kernel⟩

end MovedService

end StorageWorker

end DvbScan
