import DvbScan.Proofs.LineupMeaning
import DvbScan.Proofs.SourceIsolation

/-!
# Lineups that are kept

A lineup is resolved for names and kept as the client channels of its source. Either the network has no such name and
nothing happens, or the channels of the source are the lineup and everything else is as before. As the lineup is read
from other tables than the one it is kept in, doing it again comes to the same.
-/

namespace DvbScan

namespace StoreTable

variable {α : Type}

theorem ofSource_map_self (source : String) (rows : List α) : ofSource (rows.map (Stored.mk source)) source = rows := by
  unfold ofSource
  rw [List.filter_eq_self.mpr]
  · rw [List.map_map]
    exact List.map_id rows
  · intro stored member
    obtain ⟨row, -, rfl⟩ := List.mem_map.mp member
    exact beq_self_eq_true source

end StoreTable

namespace Store

variable {source : String} {rows : List ClientLcn}

theorem ofSource_replaceClientLcns (store : Store) (source : String) (rows : List ClientLcn) :
    (store.replaceClientLcns source rows).clientLcns.ofSource source = rows := by
  unfold replaceClientLcns
  rw [StoreTable.ofSource_append, StoreTable.ofSource_erase_self, StoreTable.ofSource_map_self,
    List.filter_eq_nil_iff.mpr (by simp), List.nil_append]

theorem clientLcnsOf_replaceClientLcns (store : Store) (source : String)
    (ordered : rows.Pairwise (·.number < ·.number)) :
    (store.replaceClientLcns source rows).clientLcnsOf source = rows := by
  unfold clientLcnsOf
  rw [ofSource_replaceClientLcns]
  apply List.mergeSort_of_pairwise
  apply ordered.imp
  intro first second less
  exact decide_eq_true (UInt16.le_of_lt less)

theorem replaceClientLcns_replaceClientLcns (store : Store) (source : String) (former rows : List ClientLcn) :
    (store.replaceClientLcns source former).replaceClientLcns source rows = store.replaceClientLcns source rows := by
  have gone : StoreTable.erase (former.map (Stored.mk source)) source (fun _ => true) = [] := by
    apply List.filter_eq_nil_iff.mpr
    intro stored member
    obtain ⟨row, -, rfl⟩ := List.mem_map.mp member
    simp
  unfold replaceClientLcns
  simp only
  rw [StoreTable.erase_append, StoreTable.erase_erase fun _ picked => picked, gone, List.append_nil]

theorem networkIdByName?_spec (store : Store) (source name : String) :
    (∀ id, store.networkIdByName? source name = some id ↔
        ⟨id, name⟩ ∈ store.networkNames.ofSource source ∧
          ∀ other, ⟨other, name⟩ ∈ store.networkNames.ofSource source → id ≤ other) ∧
      ((store.networkIdByName? source name).isSome = true ↔
        ∃ id, ⟨id, name⟩ ∈ store.networkNames.ofSource source) := by
  apply least?_of_members
  intro id
  rw [List.mem_map]
  constructor
  · intro ⟨row, kept, own⟩
    obtain ⟨member, named⟩ := List.mem_filter.mp kept
    rw [← own, ← beq_iff_eq.mp named]
    exact member
  · intro member
    exact ⟨_, List.mem_filter.mpr ⟨member, beq_self_eq_true name⟩, rfl⟩

theorem regionByName?_spec (store : Store) (source : String) (bouquetId : UInt16) (name : String) :
    (∀ region, store.regionByName? source bouquetId name = some region ↔
        ⟨bouquetId, region, name⟩ ∈ store.regions.ofSource source ∧
          ∀ other, ⟨bouquetId, other, name⟩ ∈ store.regions.ofSource source → region ≤ other) ∧
      ((store.regionByName? source bouquetId name).isSome = true ↔
        ∃ region, ⟨bouquetId, region, name⟩ ∈ store.regions.ofSource source) := by
  apply least?_of_members
  intro region
  rw [List.mem_map]
  constructor
  · intro ⟨row, kept, own⟩
    obtain ⟨member, named⟩ := List.mem_filter.mp kept
    rw [Bool.and_eq_true, beq_iff_eq, beq_iff_eq] at named
    rw [← own, ← named.1, ← named.2]
    exact member
  · intro member
    exact ⟨_, List.mem_filter.mpr ⟨member, by simp⟩, rfl⟩

end Store

namespace Lineup

variable {store : Store} {source network : String} {networkId : UInt16}

/-- A network of the source with the name, and no other one with it is less. -/
structure IsNetwork (store : Store) (source network : String) (networkId : UInt16) : Prop where
  named : ⟨networkId, network⟩ ∈ store.networkNames.ofSource source
  least : ∀ other, ⟨other, network⟩ ∈ store.networkNames.ofSource source → networkId ≤ other

/-- The region that is meant: the least one with the name in the network, or else the default one. -/
inductive IsRegion (store : Store) (source : String) (networkId : UInt16) (fallbacks : FallbackRegions) :
    Option String → UInt16 → Prop
  | absent : IsRegion store source networkId fallbacks none fallbacks.default
  | unknown {name : String} (unnamed : ∀ region, ⟨networkId, region, name⟩ ∉ store.regions.ofSource source) :
      IsRegion store source networkId fallbacks (some name) fallbacks.default
  | known {name : String} {region : UInt16}
      (named : ⟨networkId, region, name⟩ ∈ store.regions.ofSource source)
      (least : ∀ other, ⟨networkId, other, name⟩ ∈ store.regions.ofSource source → region ≤ other) :
      IsRegion store source networkId fallbacks (some name) region

theorem isRegion_regionOf (store : Store) (source : String) (networkId : UInt16) (region : Option String)
    (fallbacks : FallbackRegions) :
    IsRegion store source networkId fallbacks region (regionOf store source networkId region fallbacks) := by
  cases region with
  | none => exact .absent
  | some name =>
    obtain ⟨meaning, present⟩ := store.regionByName?_spec source networkId name
    unfold regionOf
    rw [Option.bind_some]
    cases found : store.regionByName? source networkId name with
    | none =>
      apply IsRegion.unknown
      intro region named
      have some := present.mpr ⟨region, named⟩
      rw [found] at some
      cases some
    | some code =>
      obtain ⟨named, least⟩ := (meaning code).mp found
      exact .known named least

theorem resolveAndStore_of_network (named : store.networkIdByName? source network = some networkId)
    (region : Option String) (lookup : OnidLookup) (fallbacks : FallbackRegions) (kept : List ClientLcn) :
    let rows := resolve store source networkId (regionOf store source networkId region fallbacks) lookup fallbacks
    resolveAndStore (store.replaceClientLcns source kept) source network region lookup fallbacks =
      .ok (store.replaceClientLcns source rows, rows) := by
  have still : (store.replaceClientLcns source kept).networkIdByName? source network = some networkId := named
  unfold resolveAndStore
  rw [still]
  simp only
  rw [Store.replaceClientLcns_replaceClientLcns]
  rfl

theorem write_of_refused {region : Option String} {lookup : OnidLookup} {fallbacks : FallbackRegions}
    {error : StoreError}
    (refused : resolveAndStore store source network region lookup fallbacks = .error error) :
    store.write source (.resolveAndStore network region lookup fallbacks) = store := by
  simp only [Store.write, refused]

theorem write_of_resolved {region : Option String} {lookup : OnidLookup} {fallbacks : FallbackRegions}
    {stored : Store} {rows : List ClientLcn}
    (resolved : resolveAndStore store source network region lookup fallbacks = .ok (stored, rows)) :
    store.write source (.resolveAndStore network region lookup fallbacks) = stored := by
  simp only [Store.write, resolved]

/-- A lineup for an unknown network is refused and nothing is written. For a known one it is that of the least network
with the name and of the region that is meant; the channels of the source are then exactly the lineup, whatever they
were before, nothing else is changed, and doing it again comes to the same lineup and the same store. -/
theorem kept_or_refused (store : Store) (source network : String) (region : Option String) (lookup : OnidLookup)
    (fallbacks : FallbackRegions) :
    let attempt (store : Store) := resolveAndStore store source network region lookup fallbacks
    let after := store.write source (.resolveAndStore network region lookup fallbacks)
    ((∀ id, ⟨id, network⟩ ∉ store.networkNames.ofSource source) →
      attempt store = .error (.notFound ("network '" ++ network ++ "' in " ++ source)) ∧ after = store) ∧
    ((∃ id, ⟨id, network⟩ ∈ store.networkNames.ofSource source) →
      ∃ networkId regionCode, IsNetwork store source network networkId ∧
        IsRegion store source networkId fallbacks region regionCode ∧
        let rows := resolve store source networkId regionCode lookup fallbacks
        attempt store = .ok (after, rows) ∧
          after.clientLcnsOf source = rows ∧
          (∀ other, other ≠ source → after.clientLcns.ofSource other = store.clientLcns.ofSource other) ∧
          after = { store with clientLcns := after.clientLcns } ∧
          attempt after = .ok (after, rows)) := by
  intro attempt after
  obtain ⟨meaning, present⟩ := store.networkIdByName?_spec source network
  constructor
  · intro unknown
    have absent : store.networkIdByName? source network = none := by
      rw [← Option.not_isSome_iff_eq_none, present]
      exact fun ⟨id, named⟩ => unknown id named
    have refused : attempt store = .error (.notFound ("network '" ++ network ++ "' in " ++ source)) := by
      simp only [attempt, resolveAndStore, absent]
    exact ⟨refused, write_of_refused refused⟩
  · intro known
    obtain ⟨networkId, found⟩ := Option.isSome_iff_exists.mp (present.mpr known)
    obtain ⟨named, least⟩ := (meaning networkId).mp found
    let regionCode := regionOf store source networkId region fallbacks
    let rows := resolve store source networkId regionCode lookup fallbacks
    have done : attempt store = .ok (store.replaceClientLcns source rows, rows) := by
      simp only [attempt, resolveAndStore, found]
      rfl
    have written : after = store.replaceClientLcns source rows := write_of_resolved done
    have again := resolveAndStore_of_network found region lookup fallbacks rows
    have ordered := pairwise_resolve store source networkId regionCode lookup fallbacks
    refine ⟨networkId, regionCode, ⟨named, least⟩, isRegion_regionOf store source networkId region fallbacks, ?_⟩
    rw [written]
    refine ⟨done, store.clientLcnsOf_replaceClientLcns source ordered, ?_, rfl, again⟩
    intro other different
    exact (Store.keeps_replaceClientLcns different store rows).clientLcns

end Lineup

/-! Two networks have one name, the region is unknown, and the source has old channels. -/

namespace NamedLineup

def store : Store :=
  { Store.empty with
    networkNames := [⟨"aerial", ⟨12340, "London"⟩⟩, ⟨"aerial", ⟨12339, "London"⟩⟩]
    transportServices := [⟨"aerial", ⟨0x233A, 12339, 0x1004, 4171⟩⟩]
    regions := [⟨"aerial", ⟨12339, 5, "Kent"⟩⟩]
    networkLcns := [⟨"aerial", ⟨12339, 4171, 0, 1, 0⟩⟩]
    clientLcns := [⟨"aerial", ⟨9, 0x233A, 4172, 0, 0⟩⟩, ⟨"dish", ⟨101, 2, 6301, 12, 0⟩⟩] }

def after (network : String) : Store :=
  store.write "aerial" (.resolveAndStore network (some "Nowhere") .byNetworkAndService .standard)

theorem kept_for_london :
    ((∃ id, ⟨id, "London"⟩ ∈ store.networkNames.ofSource "aerial") ∧
      (after "London").clientLcnsOf "aerial" = [⟨1, 0x233A, 4171, 0, 0⟩] ∧
      (after "London").clientLcns.ofSource "dish" = [⟨101, 2, 6301, 12, 0⟩]) ∧
    (∀ id, ⟨id, "Paris"⟩ ∉ store.networkNames.ofSource "aerial") ∧ after "Paris" = store := by
  have london : ∃ id, ⟨id, "London"⟩ ∈ store.networkNames.ofSource "aerial" := ⟨12339, by decide⟩
  have paris : ∀ id, ⟨id, "Paris"⟩ ∉ store.networkNames.ofSource "aerial" := by
    intro id
    simp [store, StoreTable.ofSource]
  have kept := Lineup.kept_or_refused store "aerial" "London" (some "Nowhere") .byNetworkAndService .standard
  have refused := Lineup.kept_or_refused store "aerial" "Paris" (some "Nowhere") .byNetworkAndService .standard
  obtain ⟨networkId, regionCode, network, region, -, channels, others, -⟩ := kept.2 london
  have least : networkId = 12339 := by
    have named : networkId = 12340 ∨ networkId = 12339 := by
      simpa [store, StoreTable.ofSource] using network.named
    rcases named with rfl | rfl
    · exact absurd (network.least 12339 (by decide)) (by decide)
    · rfl
  have fallback : regionCode = 0 := by
    cases region with
    | unknown => rfl
    | known named => simp [store, StoreTable.ofSource] at named
  have sorted : store.networkLcnsOf "aerial" = [⟨12339, 4171, 0, 1, 0⟩] :=
    List.mergeSort_of_pairwise (by decide)
  have lineup : Lineup.resolve store "aerial" networkId regionCode .byNetworkAndService .standard =
      [⟨1, 0x233A, 4171, 0, 0⟩] := by
    unfold Lineup.resolve
    rw [sorted, least, fallback]
    decide
  exact ⟨⟨london, channels.trans lineup, others "dish" (by decide)⟩, paris, (refused.1 paris).2⟩

end NamedLineup

end DvbScan
