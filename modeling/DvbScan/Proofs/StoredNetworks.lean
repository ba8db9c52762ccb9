import DvbScan.Proofs.CollectedTopology
import DvbScan.Proofs.Commit
import DvbScan.Store.Lineup

/-!
# Networks and bouquets in the store

The store has one name for an identifier, and the identifiers of networks and bouquets are separate. So where
a network and a bouquet share an identifier, the name of the bouquet takes the place of that of the network. A
transport is stored with one network, the first that was named for it, and the services that other networks or
bouquets list on it are not found through them.
-/

namespace DvbScan

open Finding TopologyAct

variable {source : String}

namespace Topology

variable {names : OrderedMap UInt16 String} {topology : Topology} {row : NetworkNameRow}

/-- The name that the store has for an identifier: that of the bouquet, if there is one. -/
def storedName? (topology : Topology) (id : UInt16) : Option String :=
  (topology.bouquets.get? id).or (topology.networks.get? id)

def nameRows (names : OrderedMap UInt16 String) : List NetworkNameRow :=
  names.entries.map fun entry => ⟨entry.1, entry.2⟩

theorem mem_nameRows : row ∈ nameRows names ↔ names.get? row.networkId = some row.name := by
  rw [← OrderedMap.mem_entries_iff_get?]
  unfold nameRows
  rw [List.mem_map]
  constructor
  · rintro ⟨entry, member, rfl⟩
    exact member
  · intro member
    exact ⟨(row.networkId, row.name), member, rfl⟩

theorem nodup_nameRows (names : OrderedMap UInt16 String) :
    ((nameRows names).map NetworkNameRow.storeKey).Nodup := by
  unfold nameRows
  rw [List.map_map]
  exact names.nodup_keys

theorem networkNameRows_eq (topology : Topology) :
    topology.networkNameRows = nameRows topology.networks ++ nameRows topology.bouquets :=
  List.map_append

theorem mem_ofSource_networkNames {table : StoreTable NetworkNameRow} (blank : table.ofSource source = []) :
    row ∈ (table.putAll NetworkNameRow.storeKey source topology.networkNameRows).ofSource source ↔
      topology.storedName? row.networkId = some row.name := by
  have stages : table.putAll NetworkNameRow.storeKey source topology.networkNameRows =
      (table.putAll NetworkNameRow.storeKey source (nameRows topology.networks)).putAll
        NetworkNameRow.storeKey source (nameRows topology.bouquets) := by
    rw [networkNameRows_eq]
    exact List.foldl_append
  rw [stages, StoreTable.mem_ofSource_putAll_self (nodup_nameRows _),
    StoreTable.mem_ofSource_putAll_self (nodup_nameRows _), blank, mem_nameRows, mem_nameRows]
  unfold storedName?
  cases bouquet : topology.bouquets.get? row.networkId with
  | none =>
    -- no bouquet has the identifier, so that nothing takes the place of the network
    have kept : ∀ new ∈ nameRows topology.bouquets, new.storeKey ≠ row.storeKey := by
      intro new member same
      have found := mem_nameRows.mp member
      rw [show new.networkId = row.networkId from same, bouquet] at found
      cases found
    rw [Option.none_or]
    constructor
    · rintro (⟨⟨⟩⟩ | ⟨known | ⟨⟨⟩, -⟩, -⟩)
      exact known
    · intro known
      exact .inr ⟨.inl known, kept⟩
  | some name =>
    have replaced : ¬∀ new ∈ nameRows topology.bouquets, new.storeKey ≠ row.storeKey :=
      fun kept => kept ⟨row.networkId, name⟩ (mem_nameRows.mpr bouquet) rfl
    simp [replaced]

theorem announced_of_storedName? {acts : List TopologyAct} {id : UInt16} {name : String}
    (stored : (Topology.empty.actAll acts).storedName? id = some name) :
    ∃ kind, .networkName kind id name ∈ findings acts := by
  have announced {kind : NetworkKind} (found : ((empty.actAll acts).names kind).get? id = some name) :
      .networkName kind id name ∈ findings acts :=
    (announced_of_actAll found).resolve_right (by cases kind <;> exact nofun)
  rcases Option.or_eq_some_iff.mp stored with bouquet | ⟨-, network⟩
  · exact ⟨.bouquet, announced bouquet⟩
  · exact ⟨.network, announced network⟩

end Topology

namespace StorageWorker

open DvbScan.Topology

variable {worker : StorageWorker}

theorem mem_networkNames_commit (running : worker.running = true)
    (blank : worker.store.networkNames.ofSource source = []) (topology : Topology) {row : NetworkNameRow} :
    row ∈ (worker.commit source topology.batches).1.store.networkNames.ofSource source ↔
      topology.storedName? row.networkId = some row.name := by
  rw [store_commit running, Store.insertAll_batches]
  exact mem_ofSource_networkNames blank

/-- In a source that had no names, a name is found under the least identifier that it is stored for, which was
announced with it. The name of a bouquet is always found, that of a network if some identifier has kept it. -/
theorem names_of_commit (running : worker.running = true) (source : String)
    (blank : worker.store.networkNames.ofSource source = []) (acts : List TopologyAct) (name : String) :
    let topology := Topology.empty.actAll acts
    let found := (worker.commit source topology.batches).1.store.networkIdByName? source name
    (∀ id, found = some id ↔ topology.storedName? id = some name ∧
      ∀ other, topology.storedName? other = some name → id ≤ other) ∧
    (∀ id, found = some id → ∃ kind, .networkName kind id name ∈ findings acts) ∧
    (found.isSome ↔ ∃ id, topology.storedName? id = some name) ∧
    ((∃ id, topology.bouquets.get? id = some name) → found.isSome) := by
  intro topology found
  have members (id : UInt16) :
      id ∈ (((worker.commit source topology.batches).1.store.networkNames.ofSource source).filter
        (·.name == name)).map (·.networkId) ↔ topology.storedName? id = some name := by
    rw [List.mem_map]
    constructor
    · rintro ⟨row, kept, rfl⟩
      obtain ⟨member, own⟩ := List.mem_filter.mp kept
      rw [← beq_iff_eq.mp own]
      exact (mem_networkNames_commit running blank topology).mp member
    · intro stored
      refine ⟨⟨id, name⟩, List.mem_filter.mpr ⟨?_, beq_self_eq_true _⟩, rfl⟩
      exact (mem_networkNames_commit running blank topology).mpr stored
  obtain ⟨picked, present⟩ := Store.least?_of_members members
  refine ⟨picked, fun id known => ?_, present, fun ⟨id, known⟩ => ?_⟩
  · exact announced_of_storedName? ((picked id).mp known).1
  · exact present.mpr ⟨id, Option.or_eq_some_iff.mpr (.inl known)⟩

end StorageWorker

/-! A network and a bouquet with one identifier. -/

namespace SharedIdentifier

def announced : List TopologyAct :=
  [.find (.networkName .network 1 "North"), .find (.networkName .bouquet 1 "Free")]

def later : List TopologyAct := announced ++ [.find (.networkName .network 5 "North")]

def stored (acts : List TopologyAct) : Store :=
  ((StorageWorker.new .empty).commit "aerial" (Topology.empty.actAll acts).batches).1.store

theorem name_kept_by_another :
    (stored later).networkIdByName? "aerial" "North" = some 5 ∧
      (∃ kind, .networkName kind 5 "North" ∈ findings later) ∧
      ((stored later).networkIdByName? "aerial" "Free").isSome = true := by
  have running : (StorageWorker.new .empty).running = true := rfl
  have found := StorageWorker.names_of_commit running "aerial" rfl later
  have kept : (stored later).networkIdByName? "aerial" "North" = some 5 := by decide
  exact ⟨kept, (found "North").2.1 5 kept, (found "Free").2.2.2 ⟨1, by decide⟩⟩

theorem name_lost_to_bouquet :
    (Topology.empty.actAll announced).networks.get? 1 = some "North" ∧
      (stored announced).networkIdByName? "aerial" "North" = none := by
  decide

end SharedIdentifier

namespace Topology

theorem mem_transportServiceRows {topology : Topology} {row : TransportServiceRow} :
    row ∈ topology.transportServiceRows ↔
      (topology.transportOf ⟨row.onid, row.tsid⟩).networkId = some row.networkId ∧
        row.serviceId ∈ OrderedSet.toList (topology.transportOf ⟨row.onid, row.tsid⟩).serviceIds := by
  unfold transportServiceRows transportOf
  rw [List.mem_flatMap]
  constructor
  · rintro ⟨⟨key, transport⟩, present, member⟩
    rw [OrderedMap.mem_entries_iff_get?] at present
    simp only at member
    split at member
    next networkId network =>
      obtain ⟨serviceId, listed, rfl⟩ := List.mem_map.mp member
      rw [present]
      exact ⟨network, listed⟩
    next => cases member
  · rintro ⟨network, listed⟩
    cases found : topology.transports.get? ⟨row.onid, row.tsid⟩ with
    | none =>
      rw [found] at network
      cases network
    | some transport =>
      rw [found, Option.getD_some] at network listed
      refine ⟨(⟨row.onid, row.tsid⟩, transport), OrderedMap.mem_entries_iff_get?.mpr found, ?_⟩
      simp only [network]
      exact List.mem_map.mpr ⟨row.serviceId, listed, rfl⟩

end Topology

namespace StorageWorker

open DvbScan.Topology

variable {worker : StorageWorker}

theorem mem_transportServices_commit (running : worker.running = true) (acts : List TopologyAct)
    {row : TransportServiceRow} :
    row ∈ (worker.commit source
        (Topology.empty.actAll acts).batches).1.store.transportServices.ofSource source ↔
      (announcer? (findings acts) ⟨row.onid, row.tsid⟩ = some row.networkId ∧
        PutOn (findings acts) ⟨row.onid, row.tsid⟩ row.serviceId) ∨
      row ∈ worker.store.transportServices.ofSource source := by
  rw [store_commit running, Store.insertAll_batches]
  refine StoreTable.mem_ofSource_addAll.trans (or_congr_left ?_)
  rw [mem_transportServiceRows, networkId_actAll, mem_serviceIds_actAll]
  exact and_congr Iff.rfl (or_iff_left List.not_mem_nil)

/-- A service is found through a network that already had it, or that is the first to announce a transport with the
service on it, whoever lists it there; and then under the least network of origin. So the services of a listing are
found if its network is the first to announce the transport. -/
theorem services_of_commit (running : worker.running = true) (source : String)
    (acts : List TopologyAct) (networkId serviceId : UInt16) :
    let found := (worker.commit source (Topology.empty.actAll acts).batches).1.store.onidByNetworkAndService?
      source networkId serviceId
    let related (onid : UInt16) :=
      (∃ tsid, announcer? (findings acts) ⟨onid, tsid⟩ = some networkId ∧
        PutOn (findings acts) ⟨onid, tsid⟩ serviceId) ∨
      ∃ tsid, ⟨onid, networkId, tsid, serviceId⟩ ∈ worker.store.transportServices.ofSource source
    (∀ onid, found = some onid ↔ related onid ∧ ∀ other, related other → onid ≤ other) ∧
    (found.isSome ↔ ∃ onid, related onid) ∧
    ∀ onid tsid services, .transportServices networkId onid tsid services ∈ findings acts →
      serviceId ∈ services.map (·.serviceId) →
      announcer? (findings acts) ⟨onid, tsid⟩ = some networkId → found.isSome := by
  intro found related
  have members (onid : UInt16) :
      onid ∈ (((worker.commit source (Topology.empty.actAll acts).batches).1.store.transportServices.ofSource
        source).filter fun row => row.networkId == networkId && row.serviceId == serviceId).map (·.onid) ↔
      related onid := by
    refine List.mem_map.trans (Iff.trans ?_ exists_or)
    constructor
    · rintro ⟨row, kept, rfl⟩
      obtain ⟨member, own⟩ := List.mem_filter.mp kept
      obtain ⟨rfl, rfl⟩ : row.networkId = networkId ∧ row.serviceId = serviceId := by simpa using own
      exact ⟨row.tsid, (mem_transportServices_commit running acts).mp member⟩
    · rintro ⟨tsid, stored⟩
      refine ⟨⟨onid, networkId, tsid, serviceId⟩, List.mem_filter.mpr ⟨?_, by simp⟩, rfl⟩
      exact (mem_transportServices_commit running acts).mpr stored
  obtain ⟨picked, present⟩ := Store.least?_of_members members
  refine ⟨picked, present, fun onid tsid services told listed first => ?_⟩
  exact present.mpr ⟨onid, .inl ⟨tsid, first, _, told, rfl, listed⟩⟩

end StorageWorker

/-! Two networks list one transport and give a service on it a channel number each. -/

namespace SharedTransport

def heard : List TopologyAct := [
  .find (.transportServices 0x3001 0x233A 4164 [⟨17540, 1⟩]),
  .find (.logicalChannel 0x3001 17540 0xFFFF 1 0),
  .find (.transportServices 0x3002 0x233A 4164 [⟨17540, 1⟩, ⟨17604, 1⟩]),
  .find (.logicalChannel 0x3002 17540 0xFFFF 1 0)]

def stored : Store :=
  ((StorageWorker.new .empty).commit "aerial" (Topology.empty.actAll heard).batches).1.store

def lineup (networkId : UInt16) : List ClientLcn :=
  Lineup.resolve stored "aerial" networkId 0xFFFF .byNetworkAndService .standard

theorem services_of_first_network :
    (stored.onidByNetworkAndService? "aerial" 0x3001 17540).isSome = true ∧
      (stored.onidByNetworkAndService? "aerial" 0x3001 17604).isSome = true := by
  have running : (StorageWorker.new .empty).running = true := rfl
  have found := StorageWorker.services_of_commit running "aerial" heard 0x3001
  have listed : PutOn (findings heard) ⟨0x233A, 4164⟩ 17604 :=
    ⟨.transportServices 0x3002 0x233A 4164 [⟨17540, 1⟩, ⟨17604, 1⟩], by decide, rfl, by decide⟩
  constructor
  · exact (found 17540).2.2 0x233A 4164 [⟨17540, 1⟩] (by decide) (by decide) (by decide)
  · exact (found 17604).2.1.mpr ⟨0x233A, .inl ⟨4164, by decide, listed⟩⟩

theorem service_lost_to_first_network :
    .transportServices 0x3002 0x233A 4164 [⟨17540, 1⟩, ⟨17604, 1⟩] ∈ findings heard ∧
      stored.onidByNetworkAndService? "aerial" 0x3002 17540 = none ∧
      lineup 0x3001 = [⟨1, 0x233A, 17540, 0xFFFF, 0⟩] ∧ lineup 0x3002 = [] := by
  have sorted : stored.networkLcnsOf "aerial" = stored.networkLcns.ofSource "aerial" :=
    List.mergeSort_of_pairwise (by decide)
  unfold lineup Lineup.resolve
  rw [sorted]
  decide

end SharedTransport

end DvbScan
