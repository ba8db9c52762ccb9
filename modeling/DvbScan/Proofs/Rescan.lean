import DvbScan.Proofs.Lookup
import DvbScan.Proofs.CollectedTopology
import DvbScan.Proofs.LineupMeaning
import DvbScan.Proofs.RepeatedCommit

/-!
# Scanning again

Channel numbers are kept by network, service and region, and a commit takes out only the rows whose keys it writes
anew. So a number that has moved to another service is still given to the service that had it before, and the lineup
has to choose between the two: it takes the smaller one.
-/

namespace DvbScan

def NetworkLcnRow.lcnKey (row : NetworkLcnRow) : LcnKey := ⟨row.networkId, row.serviceId, row.region⟩

namespace Topology

/-- In a region of a network a topology gives a number to one service only. -/
structure GivesAlone (topology : Topology) (networkId region number serviceId freesatId : UInt16) : Prop where
  gives : topology.lcns.get? ⟨networkId, serviceId, region⟩ = some ⟨number, freesatId⟩
  alone : ∀ other freesat, topology.lcns.get? ⟨networkId, other, region⟩ = some ⟨number, freesat⟩ →
    other = serviceId

variable {topology : Topology} {row : NetworkLcnRow}

theorem mem_networkLcnRows :
    row ∈ topology.networkLcnRows ↔ topology.lcns.get? row.lcnKey = some ⟨row.number, row.freesatId⟩ := by
  rw [← OrderedMap.mem_entries_iff_get?]
  unfold networkLcnRows
  rw [List.mem_map]
  constructor
  · intro ⟨entry, listed, same⟩
    subst same
    exact listed
  · intro listed
    exact ⟨_, listed, rfl⟩

theorem nodup_networkLcnRows (topology : Topology) :
    (topology.networkLcnRows.map NetworkLcnRow.storeKey).Nodup := by
  unfold networkLcnRows
  rw [List.map_map]
  apply List.Nodup.of_map fun key : UInt16 × UInt16 × UInt16 => LcnKey.mk key.1 key.2.1 key.2.2
  rw [List.map_map]
  exact topology.lcns.nodup_keys

theorem storeKey_ne_iff : (∀ new ∈ topology.networkLcnRows, new.storeKey ≠ row.storeKey) ↔
    topology.lcns.get? row.lcnKey = none := by
  constructor
  · intro others
    cases found : topology.lcns.get? row.lcnKey with
    | none => rfl
    | some assignment =>
      let new : NetworkLcnRow := { row with number := assignment.number, freesatId := assignment.freesatId }
      have listed : new ∈ topology.networkLcnRows := mem_networkLcnRows.mpr found
      exact absurd rfl (others new listed)
  · intro absent new listed same
    have keys : new.lcnKey = row.lcnKey := congrArg (fun key => LcnKey.mk key.1 key.2.1 key.2.2) same
    have found := mem_networkLcnRows.mp listed
    rw [keys, absent] at found
    cases found

end Topology

namespace Lineup

/-- A row that gives a number in a region, and that a topology does not write anew. -/
structure Leftover (store : Store) (source : String) (topology : Topology) (networkId region number : UInt16)
    (row : NetworkLcnRow) : Prop where
  assigns : Assigns store source networkId number row
  region : row.region = region
  unwritten : topology.lcns.get? row.lcnKey = none

theorem Leftover.serviceId_ne {store : Store} {source : String} {topology : Topology}
    {networkId region number serviceId freesatId : UInt16} {row : NetworkLcnRow}
    (left : Leftover store source topology networkId region number row)
    (moved : topology.GivesAlone networkId region number serviceId freesatId) : row.serviceId ≠ serviceId := by
  intro same
  have key : row.lcnKey = ⟨networkId, serviceId, region⟩ := by
    unfold NetworkLcnRow.lcnKey
    rw [left.assigns.2.1, same, left.region]
  have unwritten := left.unwritten
  rw [key, moved.gives] at unwritten
  cases unwritten

end Lineup

namespace StorageWorker

open Lineup

variable {worker : StorageWorker} {source : String} {topology : Topology}
  {networkId region number serviceId freesatId : UInt16}

theorem keyed_commit (running : worker.running = true) (keyed : worker.store.Keyed) (source : String)
    (batches : List Batch) : (worker.commit source batches).1.store.Keyed := by
  rw [store_commit running]
  exact keyed.insertAll source batches

/-- After a commit a row is one of the topology, or one from before whose key the topology does not have. -/
theorem mem_networkLcns_commit (running : worker.running = true) (source : String) (topology : Topology)
    (row : NetworkLcnRow) :
    row ∈ (worker.commit source topology.batches).1.store.networkLcns.ofSource source ↔
      topology.lcns.get? row.lcnKey = some ⟨row.number, row.freesatId⟩ ∨
        row ∈ worker.store.networkLcns.ofSource source ∧ topology.lcns.get? row.lcnKey = none := by
  rw [store_commit running, Store.insertAll_batches,
    StoreTable.mem_ofSource_putAll_self topology.nodup_networkLcnRows, Topology.mem_networkLcnRows,
    Topology.storeKey_ne_iff]

theorem assigns_commit_iff (running : worker.running = true)
    (moved : topology.GivesAlone networkId region number serviceId freesatId) (source : String)
    (row : NetworkLcnRow) :
    Assigns (worker.commit source topology.batches).1.store source networkId number row ∧ row.region = region ↔
      row = ⟨networkId, serviceId, region, number, freesatId⟩ ∨
        Leftover worker.store source topology networkId region number row := by
  unfold Assigns
  rw [mem_networkLcns_commit running]
  constructor
  · intro ⟨⟨origin, network, given⟩, regional⟩
    rcases origin with told | ⟨stored, unwritten⟩
    · left
      obtain ⟨network', service, region', number', freesat⟩ := row
      subst network given regional
      obtain rfl : service = serviceId := moved.alone service freesat told
      have same : (⟨number', freesat⟩ : LcnAssignment) = ⟨number', freesatId⟩ :=
        Option.some.inj (told.symm.trans moved.gives)
      cases same
      rfl
    · right
      exact ⟨⟨stored, network, given⟩, regional, unwritten⟩
  · intro split
    rcases split with rfl | left
    · exact ⟨⟨.inl moved.gives, rfl, rfl⟩, rfl⟩
    · exact ⟨⟨.inr ⟨left.assigns.1, left.unwritten⟩, left.assigns.2⟩, left.region⟩

/-- The preferred row of the number is the one of the topology, or a leftover for a smaller service. -/
theorem preferred_of_commit (running : worker.running = true)
    (moved : topology.GivesAlone networkId region number serviceId freesatId) {later : List UInt16}
    {row : NetworkLcnRow}
    (preferred : IsPreferred (worker.commit source topology.batches).1.store source networkId (region :: later)
      number row) :
    row = ⟨networkId, serviceId, region, number, freesatId⟩ ∨
      Leftover worker.store source topology networkId region number row ∧ row.serviceId < serviceId := by
  have rows := assigns_commit_iff running moved source
  let new : NetworkLcnRow := ⟨networkId, serviceId, region, number, freesatId⟩
  obtain ⟨assigns, regional⟩ := (rows new).mpr (.inl rfl)
  have own : row.region = region := preferred.region_eq assigns regional
  rcases (rows row).mp ⟨preferred.assigns, own⟩ with same | left
  · exact .inl same
  · right
    have atMost : row.serviceId ≤ serviceId := preferred.least new assigns own.symm
    exact ⟨left, UInt16.lt_of_le_of_ne atMost (left.serviceId_ne moved)⟩

/-- After a second scan is committed, a number that it gives to one service belongs to that service if and only if no
row is left from before that gives the number to a smaller one. Otherwise it belongs to such a service, or to
none. -/
theorem lineup_of_rescan (running : worker.running = true) (keyed : worker.store.Keyed) (source : String)
    (earlier later : Topology) (lookup : OnidLookup) (fallbacks : FallbackRegions)
    (moved : later.GivesAlone networkId region number serviceId freesatId) :
    let once := (worker.commit source earlier.batches).1
    let twice := (once.commit source later.batches).1
    let lineup := Lineup.resolve twice.store source networkId region lookup fallbacks
    (∃ onid, HasOnid twice.store source networkId serviceId onid lookup) →
      ((∃ channel ∈ lineup, channel.number = number ∧ channel.serviceId = serviceId) ↔
        ∀ row, Leftover once.store source later networkId region number row → serviceId < row.serviceId) ∧
      ∀ channel ∈ lineup, channel.number = number → channel.serviceId = serviceId ∨
        ∃ row, Leftover once.store source later networkId region number row ∧
          row.serviceId = channel.serviceId ∧ row.serviceId < serviceId := by
  intro once twice lineup known
  have still : once.running = true := (worker.running_commit source earlier.batches).trans running
  have kept : twice.store.Keyed := keyed_commit still (keyed_commit running keyed source _) source _
  have rows := assigns_commit_iff still moved source
  refine ⟨⟨?_, ?_⟩, ?_⟩
  · intro ⟨channel, listed, given, service⟩ old left
    obtain ⟨row, preferred, -, same, -⟩ := (mem_resolve_iff kept).mp listed
    rw [given] at preferred
    -- the leftover outlasts the second commit too, so the preferred row is for no greater service
    obtain ⟨assigns, regional⟩ := (rows old).mpr (.inr left)
    have own : row.region = region := preferred.region_eq assigns regional
    have atMost : serviceId ≤ old.serviceId := by
      rw [← service, same]
      exact preferred.least old assigns (regional.trans own.symm)
    exact UInt16.lt_of_le_of_ne atMost (Ne.symm (left.serviceId_ne moved))
  · intro greater
    obtain ⟨assigns, -⟩ := (rows ⟨networkId, serviceId, region, number, freesatId⟩).mpr (.inl rfl)
    have tried : region ∈ fallbacks.tried region := List.mem_cons_self
    obtain ⟨row, chosen⟩ := exists_isPreferred assigns tried
    have preferred := isPreferred_of_preferredRow? chosen
    rcases preferred_of_commit still moved preferred with rfl | ⟨left, less⟩
    · obtain ⟨onid, found⟩ := Option.isSome_iff_exists.mp
        ((onid?_spec twice.store source networkId serviceId lookup).2.mpr known)
      let channel : ClientLcn := { number, onid, serviceId, region, freesatId }
      have listed : channel ∈ lineup := (mem_resolve_iff kept).mpr ⟨_, preferred, found, rfl, rfl, rfl⟩
      exact ⟨channel, listed, rfl, rfl⟩
    · exact absurd (greater row left) (UInt16.lt_asymm less)
  · intro channel listed given
    obtain ⟨row, preferred, -, same, -⟩ := (mem_resolve_iff kept).mp listed
    rw [given] at preferred
    rcases preferred_of_commit still moved preferred with rfl | ⟨left, less⟩
    · exact .inl same
    · exact .inr ⟨row, left, same.symm, less⟩

end StorageWorker

/-! In two scans of a network one channel number belongs to different services. -/

namespace MovedNumber

def scan (serviceId : UInt16) : Topology :=
  Topology.empty.actAll [
    .find (.transportServices 0x3001 0x233A 4100 [⟨serviceId, 1⟩]),
    .find (.logicalChannel 0x3001 serviceId 0 1 0)]

def committed (former : UInt16) : StorageWorker :=
  ((StorageWorker.new .empty).commit "aerial" (scan former).batches).1

def stored (former latter : UInt16) : Store :=
  ((committed former).commit "aerial" (scan latter).batches).1.store

def lineup (former latter : UInt16) : List ClientLcn :=
  Lineup.resolve (stored former latter) "aerial" 0x3001 0 .byNetworkAndService .standard

theorem scan_givesAlone (serviceId : UInt16) : (scan serviceId).GivesAlone 0x3001 0 1 serviceId 0 := by
  have lcns : (scan serviceId).lcns = OrderedMap.insert .empty ⟨0x3001, serviceId, 0⟩ ⟨1, 0⟩ := rfl
  constructor
  · rw [lcns, OrderedMap.get?_insert_self]
  · intro other freesat found
    by_contra different
    have keys : (⟨0x3001, other, 0⟩ : LcnKey) ≠ ⟨0x3001, serviceId, 0⟩ :=
      fun same => different (congrArg LcnKey.serviceId same)
    rw [lcns, OrderedMap.get?_insert_of_ne keys] at found
    cases found

theorem number_moves_to_smaller_service : ∃ channel ∈ lineup 4172 4171, channel.number = 1 ∧
    channel.serviceId = 4171 := by
  have running : (StorageWorker.new .empty).running = true := rfl
  have known : ∃ onid, Lineup.HasOnid (stored 4172 4171) "aerial" 0x3001 4171 onid .byNetworkAndService :=
    ⟨0x233A, ⟨0x233A, 0x3001, 4100, 4171⟩, by decide, by decide⟩
  have rescan := StorageWorker.lineup_of_rescan running Store.keyed_empty "aerial" (scan 4172) (scan 4171)
    .byNetworkAndService .standard (scan_givesAlone 4171) known
  apply rescan.1.mpr
  intro row left
  have rows : (committed 4172).store.networkLcns.ofSource "aerial" = [⟨0x3001, 4172, 0, 1, 0⟩] := by decide
  have listed : row ∈ (committed 4172).store.networkLcns.ofSource "aerial" := left.assigns.1
  rw [rows, List.mem_singleton] at listed
  rw [listed]
  decide

theorem number_kept_by_smaller_service :
    (scan 4172).GivesAlone 0x3001 0 1 4172 0 ∧
      (∃ onid, Lineup.HasOnid (stored 4171 4172) "aerial" 0x3001 4172 onid .byNetworkAndService) ∧
      lineup 4171 4172 = [⟨1, 0x233A, 4171, 0, 0⟩] ∧
      ¬ ∃ channel ∈ lineup 4171 4172, channel.number = 1 ∧ channel.serviceId = 4172 := by
  have sorted : (stored 4171 4172).networkLcnsOf "aerial" = (stored 4171 4172).networkLcns.ofSource "aerial" :=
    List.mergeSort_of_pairwise (by decide)
  have kept : lineup 4171 4172 = [⟨1, 0x233A, 4171, 0, 0⟩] := by
    unfold lineup Lineup.resolve
    rw [sorted]
    decide
  refine ⟨scan_givesAlone 4172, ⟨0x233A, ⟨0x233A, 0x3001, 4100, 4172⟩, by decide, by decide⟩, kept, ?_⟩
  rw [kept]
  decide

end MovedNumber

end DvbScan
