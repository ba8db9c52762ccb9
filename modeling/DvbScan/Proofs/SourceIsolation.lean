import DvbScan.Proofs.RepeatedCommit
import DvbScan.Proofs.WriteHistory
import Mathlib.Data.List.Perm.Subperm

/-!
# Sources are isolated

Several platforms share one store, and every row belongs to a source. What is written under one source, be it a batch,
a list of client channels or a lineup, leaves the rows of every other source where they are. So no question that is put
to another source is answered differently. The one thing that sources share is the count of the providers: a link is to
a number, and the numbers of all sources are in one table, from which none is ever taken.
-/

namespace DvbScan

inductive StoreWrite where
  | insert (batch : Batch)
  | replaceClientLcns (rows : List ClientLcn)
  | resolveAndStore (network : String) (region : Option String) (lookup : OnidLookup) (fallbacks : FallbackRegions)

namespace Store

/-- A lineup that cannot be resolved is not written. -/
def write (source : String) (store : Store) : StoreWrite → Store
  | .insert batch => (store.insert source batch).1
  | .replaceClientLcns rows => store.replaceClientLcns source rows
  | .resolveAndStore network region lookup fallbacks =>
    match Lineup.resolveAndStore store source network region lookup fallbacks with
    | .ok (stored, _) => stored
    | .error _ => store

def writeAll (store : Store) (source : String) (writes : List StoreWrite) : Store :=
  writes.foldl (write source) store

/-- Every link is to the number of a provider, as the table of the links demands. -/
def Linked (store : Store) : Prop :=
  ∀ link ∈ store.providerLinks, ∃ provider ∈ store.providerNames, provider.row.id = link.row.providerId

instance (store : Store) : Decidable store.Linked :=
  inferInstanceAs (Decidable (∀ link ∈ store.providerLinks, ∃ provider ∈ store.providerNames, _))

/-- What writing under another source keeps: the rows of the source in every table, the numbers of the providers, and
the sources. -/
structure Keeps (source : String) (before after : Store) : Prop where
  networkNames : after.networkNames.ofSource source = before.networkNames.ofSource source
  tunings : after.tunings.ofSource source = before.tunings.ofSource source
  transportServices : after.transportServices.ofSource source = before.transportServices.ofSource source
  services : after.services.ofSource source = before.services.ofSource source
  serviceNames : after.serviceNames.ofSource source = before.serviceNames.ofSource source
  providerNames : after.providerNames.ofSource source = before.providerNames.ofSource source
  providerLinks : after.providerLinks.ofSource source = before.providerLinks.ofSource source
  regions : after.regions.ofSource source = before.regions.ofSource source
  networkLcns : after.networkLcns.ofSource source = before.networkLcns.ofSource source
  clientLcns : after.clientLcns.ofSource source = before.clientLcns.ofSource source
  numbers : before.providerNames <+: after.providerNames
  sources : before.sources <+: after.sources

namespace Keeps

variable {source : String} {first second third : Store}

theorem refl (source : String) (store : Store) : Keeps source store store :=
  ⟨rfl, rfl, rfl, rfl, rfl, rfl, rfl, rfl, rfl, rfl, List.prefix_rfl, List.prefix_rfl⟩

theorem trans (former : Keeps source first second) (latter : Keeps source second third) :
    Keeps source first third where
  networkNames := latter.networkNames.trans former.networkNames
  tunings := latter.tunings.trans former.tunings
  transportServices := latter.transportServices.trans former.transportServices
  services := latter.services.trans former.services
  serviceNames := latter.serviceNames.trans former.serviceNames
  providerNames := latter.providerNames.trans former.providerNames
  providerLinks := latter.providerLinks.trans former.providerLinks
  regions := latter.regions.trans former.regions
  networkLcns := latter.networkLcns.trans former.networkLcns
  clientLcns := latter.clientLcns.trans former.clientLcns
  numbers := former.numbers.trans latter.numbers
  sources := former.sources.trans latter.sources

end Keeps

end Store

namespace StoreTable

theorem isPrefix_addNames (source : String) (table : StoreTable ProviderName) (next : Nat) (names : List String) :
    table <+: (table.addNames source next names).1 := by
  induction names generalizing table next with
  | nil => exact List.prefix_rfl
  | cons name rest ih =>
    unfold addNames
    rw [List.foldl_cons, addName]
    split
    next => exact ih table _
    next => exact (List.prefix_append table _).trans (ih _ _)

theorem ofSource_addNames_of_ne {source other : String} (different : other ≠ source)
    (table : StoreTable ProviderName) (next : Nat) (names : List String) :
    (table.addNames source next names).1.ofSource other = table.ofSource other := by
  induction names generalizing table next with
  | nil => rfl
  | cons name rest ih =>
    unfold addNames
    rw [List.foldl_cons, addName]
    split
    next => exact ih table _
    next =>
      refine (ih _ _).trans ?_
      rw [ofSource_append, ofSource_singleton_of_ne different, List.append_nil]

theorem ofSource_map_of_ne {α : Type} {source other : String} (different : other ≠ source) (rows : List α) :
    ofSource (rows.map (Stored.mk source)) other = [] := by
  unfold ofSource
  rw [List.filter_map, List.map_map, List.map_eq_nil_iff, List.filter_eq_nil_iff]
  intro row _ own
  exact different (beq_iff_eq.mp own).symm

end StoreTable

namespace Store

variable {source other : String}

theorem keeps_addSource (store : Store) (source other : String) : Keeps other store (store.addSource source).1 := by
  unfold addSource
  split
  next => exact .refl other store
  next => exact { Keeps.refl other store with sources := List.prefix_append _ _ }

/-- A batch is written to the rows of its own source, in each of the tables. -/
theorem keeps_insert (different : other ≠ source) (store : Store) (batch : Batch) :
    Keeps other store (store.insert source batch).1 := by
  have same := Keeps.refl other store
  cases batch with
  | source => exact keeps_addSource store source other
  | networkNames rows =>
    exact { same with networkNames := StoreTable.ofSource_putAll_of_ne different _ _ rows }
  | tuning rows =>
    refine { same with tunings := ?_ }
    exact (StoreTable.ofSource_putAll_of_ne different _ _ rows).trans (StoreTable.ofSource_erase_of_ne different _ _)
  | transportServices rows =>
    rw [insert_transportServices]
    exact { same with transportServices := StoreTable.ofSource_addAll_of_ne different _ rows }
  | services rows => exact { same with services := StoreTable.ofSource_putAll_of_ne different _ _ rows }
  | serviceNames rows => exact { same with serviceNames := StoreTable.ofSource_putAll_of_ne different _ _ rows }
  | providerNames names =>
    rw [insert_providerNames]
    exact { same with
      providerNames := StoreTable.ofSource_addNames_of_ne different _ _ names
      numbers := StoreTable.isPrefix_addNames source _ _ names }
  | serviceProviders rows =>
    rw [insert_serviceProviders]
    exact { same with providerLinks := StoreTable.ofSource_putAll_of_ne different _ _ _ }
  | regions rows => exact { same with regions := StoreTable.ofSource_putAll_of_ne different _ _ rows }
  | networkLcns rows => exact { same with networkLcns := StoreTable.ofSource_putAll_of_ne different _ _ rows }

theorem keeps_replaceClientLcns (different : other ≠ source) (store : Store) (rows : List ClientLcn) :
    Keeps other store (store.replaceClientLcns source rows) := by
  refine { Keeps.refl other store with clientLcns := ?_ }
  unfold replaceClientLcns
  rw [StoreTable.ofSource_append, StoreTable.ofSource_erase_of_ne different,
    StoreTable.ofSource_map_of_ne different, List.append_nil]

/-- A write inserts a batch or replaces the client channels. A lineup that cannot be resolved does neither. -/
theorem write_cases (source : String) (store : Store) (write : StoreWrite) :
    store.write source write = store ∨
      (∃ batch, store.write source write = (store.insert source batch).1) ∨
      ∃ rows, store.write source write = store.replaceClientLcns source rows := by
  cases write with
  | insert batch => exact .inr (.inl ⟨batch, rfl⟩)
  | replaceClientLcns rows => exact .inr (.inr ⟨rows, rfl⟩)
  | resolveAndStore network region lookup fallbacks =>
    simp only [Store.write, Lineup.resolveAndStore]
    cases store.networkIdByName? source network with
    | none => exact .inl rfl
    | some networkId => exact .inr (.inr ⟨_, rfl⟩)

theorem keeps_write (different : other ≠ source) (store : Store) (write : StoreWrite) :
    Keeps other store (store.write source write) := by
  rcases write_cases source store write with same | ⟨batch, inserted⟩ | ⟨rows, replaced⟩
  · rw [same]
    exact .refl other store
  · rw [inserted]
    exact keeps_insert different store batch
  · rw [replaced]
    exact keeps_replaceClientLcns different store rows

theorem keeps_writeAll (different : other ≠ source) (store : Store) (writes : List StoreWrite) :
    Keeps other store (store.writeAll source writes) := by
  induction writes generalizing store with
  | nil => exact .refl other store
  | cons write rest ih => exact (keeps_write different store write).trans (ih _)

theorem linked_insert {store : Store} (linked : store.Linked) (source : String) (batch : Batch) :
    (store.insert source batch).1.Linked := by
  cases batch with
  | source =>
    change (store.addSource source).1.Linked
    rw [fst_addSource]
    exact linked
  | transportServices rows =>
    rw [insert_transportServices]
    exact linked
  | providerNames names =>
    rw [insert_providerNames]
    intro link member
    obtain ⟨provider, numbered, same⟩ := linked link member
    exact ⟨provider, (StoreTable.isPrefix_addNames source _ _ names).subset numbered, same⟩
  | serviceProviders rows =>
    rw [insert_serviceProviders]
    intro link member
    rcases StoreTable.mem_putAll member with before | ⟨row, listed, rfl⟩
    · exact linked link before
    · -- a new link is to a number of its own source
      obtain ⟨asked, -, found⟩ := List.mem_filterMap.mp listed
      obtain ⟨provider, named, rfl⟩ := Option.map_eq_some_iff.mp found
      exact ⟨⟨source, provider⟩, StoreTable.mem_ofSource.mp (List.mem_of_find?_eq_some named), rfl⟩
  | networkNames | tuning | services | serviceNames | regions | networkLcns => exact linked

theorem linked_write {store : Store} (linked : store.Linked) (source : String) (write : StoreWrite) :
    (store.write source write).Linked := by
  rcases write_cases source store write with same | ⟨batch, inserted⟩ | ⟨rows, replaced⟩
  · rw [same]
    exact linked
  · rw [inserted]
    exact linked_insert linked source batch
  · rw [replaced]
    exact linked

theorem linked_writeAll {store : Store} (linked : store.Linked) (source : String) (writes : List StoreWrite) :
    (store.writeAll source writes).Linked := by
  induction writes generalizing store with
  | nil => exact linked
  | cons write rest ih => exact ih (linked_write linked source write)

/-- In a store that was written from nothing, under whichever sources, no link is without its provider. -/
theorem linked_of_history (history : List (String × List StoreWrite)) :
    (history.foldl (fun store entry => store.writeAll entry.1 entry.2) empty).Linked := by
  have kept {store : Store} (linked : store.Linked) :
      (history.foldl (fun store entry => store.writeAll entry.1 entry.2) store).Linked := by
    induction history generalizing store with
    | nil => exact linked
    | cons entry rest ih => exact ih (linked_writeAll linked entry.1 entry.2)
  have nothing : empty.Linked := by
    intro link member
    cases member
  exact kept nothing

/-- A number that is looked up is found before the numbers that were given later. -/
theorem Keeps.providerOf?_eq {source : String} {before after : Store} (keeps : Keeps source before after)
    (linked : before.Linked) (onid serviceId : UInt16) :
    after.providerOf? source onid serviceId = before.providerOf? source onid serviceId := by
  unfold providerOf?
  rw [keeps.providerLinks]
  cases found : (before.providerLinks.ofSource source).find? (·.storeKey == (onid, serviceId)) with
  | none => rfl
  | some link =>
    have stored : ⟨source, link⟩ ∈ before.providerLinks :=
      StoreTable.mem_ofSource.mp (List.mem_of_find?_eq_some found)
    obtain ⟨provider, numbered, same⟩ := linked _ stored
    have present : (before.providerNames.find? (·.row.id == link.providerId)).isSome = true :=
      List.find?_isSome.mpr ⟨provider, numbered, beq_iff_eq.mpr same⟩
    obtain ⟨later, appended⟩ := keeps.numbers
    obtain ⟨known, first⟩ := Option.isSome_iff_exists.mp present
    have still : after.providerNames.find? (·.row.id == link.providerId) = some known := by
      rw [← appended, List.find?_append, first]
      rfl
    simp only [Option.bind_eq_bind, Option.bind_some, first, still]

theorem Keeps.answersAlike {source : String} {before after : Store} (keeps : Keeps source before after) :
    AnswersAlike source after before := by
  have networkLcns : after.networkLcnsOf source = before.networkLcnsOf source := by
    unfold Store.networkLcnsOf
    rw [keeps.networkLcns]
  have byService (serviceId : UInt16) :
      after.onidByServiceId? source serviceId = before.onidByServiceId? source serviceId := by
    unfold Store.onidByServiceId?
    rw [keeps.services]
  have byNetwork (networkId serviceId : UInt16) :
      after.onidByNetworkAndService? source networkId serviceId =
        before.onidByNetworkAndService? source networkId serviceId := by
    unfold Store.onidByNetworkAndService?
    rw [keeps.transportServices]
  constructor
  case networkLcnsOf => exact networkLcns
  case onidByServiceId? => exact byService
  case onidByNetworkAndService? => exact byNetwork
  case networkIdByName? =>
    intro name
    unfold Store.networkIdByName?
    rw [keeps.networkNames]
  case regionByName? =>
    intro bouquetId name
    unfold Store.regionByName?
    rw [keeps.regions]
  case networkIds =>
    unfold Store.networkIds
    rw [keeps.networkNames]
  case tuning? =>
    intro onid tsid
    unfold Store.tuning?
    rw [keeps.tunings]
  case clientLcnsOf =>
    unfold Store.clientLcnsOf
    rw [keeps.clientLcns]
  case resolve =>
    intro networkId region lookup fallbacks
    have onids (serviceId : UInt16) : Lineup.onid? after source networkId lookup serviceId =
        Lineup.onid? before source networkId lookup serviceId := by
      cases lookup with
      | byServiceId => exact byService serviceId
      | byNetworkAndService => exact byNetwork networkId serviceId
    unfold Lineup.resolve
    simp only [networkLcns, onids]
  case serviceNames => exact keeps.serviceNames
  case providerCell =>
    intro id
    unfold Store.providerCell
    rw [keeps.providerNames]

theorem Keeps.sourceNames_subperm {source : String} {before after : Store} (keeps : Keeps source before after) :
    before.sourceNames.Subperm after.sourceNames := by
  have sorted : before.sourceNames.Perm before.sources := List.mergeSort_perm _ _
  have sorted' : after.sourceNames.Perm after.sources := List.mergeSort_perm _ _
  exact sorted.subperm.trans (keeps.sources.sublist.subperm.trans sorted'.symm.subperm)

/-- Whatever is written under one source, every question to another one is answered as before, and no source is lost.
A service keeps its provider, where links are to numbers that are given, as they always are. -/
theorem answersAlike_of_writes {source other : String} (different : other ≠ source) (store : Store)
    (writes : List StoreWrite) :
    let after := store.writeAll source writes
    AnswersAlike other after store ∧
      (store.Linked → after.Linked ∧
        ∀ onid serviceId, after.providerOf? other onid serviceId = store.providerOf? other onid serviceId) ∧
      store.sourceNames.Subperm after.sourceNames := by
  intro after
  have keeps := keeps_writeAll different store writes
  refine ⟨keeps.answersAlike, fun linked => ?_, keeps.sourceNames_subperm⟩
  exact ⟨linked_writeAll linked source writes, keeps.providerOf?_eq linked⟩

namespace TwoSources

/-- Two sources give a provider the same name, and each has its own number for it. -/
def shared : Store :=
  { empty with
    sources := ["aerial", "dish"]
    networkNames := [⟨"aerial", ⟨12289, "North"⟩⟩]
    providerNames := [⟨"aerial", ⟨1, "BBC"⟩⟩, ⟨"dish", ⟨2, "BBC"⟩⟩]
    nextProvider := 3
    providerLinks := [⟨"aerial", ⟨9018, 4171, 1⟩⟩, ⟨"dish", ⟨9018, 4171, 2⟩⟩] }

def writes : List StoreWrite :=
  [.insert (.providerNames ["ITV", "BBC"]), .insert (.serviceProviders [⟨9018, 4171, "ITV"⟩]),
    .insert (.networkNames [⟨12289, "South"⟩]), .resolveAndStore "South" none .byServiceId .standard,
    .replaceClientLcns [⟨1, 9018, 4171, 0, 0⟩]]

theorem answersAlike_writes :
    let after := shared.writeAll "dish" writes
    ("aerial" ≠ "dish" ∧ shared.Linked) ∧
      (AnswersAlike "aerial" after shared ∧
        (shared.Linked → after.Linked ∧ ∀ onid serviceId,
          after.providerOf? "aerial" onid serviceId = shared.providerOf? "aerial" onid serviceId) ∧
        shared.sourceNames.Subperm after.sourceNames) ∧
      after.providerOf? "aerial" 9018 4171 = some "BBC" ∧ after.providerOf? "dish" 9018 4171 = some "ITV" :=
  ⟨by decide, answersAlike_of_writes (by decide) shared writes, by decide +kernel, by decide +kernel⟩

end TwoSources

end Store

end DvbScan
