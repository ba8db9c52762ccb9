import DvbScan.Proofs.WriteHistory
import DvbScan.Store.Lineup
import Mathlib.Data.List.Sort

/-!
# What a lineup says

A lineup is read off the rows of a network in the order of their numbers. Which rows are there decides it, and
not the order in which they were written: a number has one preferred row at most, and the preferred row together
with the networks of origin that its service is known under says what the channel is.
-/

namespace DvbScan

/-- The regions in which a row for a number is looked for, the first with one deciding. -/
def FallbackRegions.tried (fallbacks : FallbackRegions) (region : UInt16) : List UInt16 :=
  [region, fallbacks.universal, fallbacks.default]

namespace Store

/-! ## The order of the rows -/

theorem atMost_trans {first second third : List Nat} (former : atMost first second = true)
    (latter : atMost second third = true) : atMost first third = true := by
  induction first generalizing second third with
  | nil => rfl
  | cons head tail ih =>
    cases second with
    | nil => cases former
    | cons head' tail' =>
      cases third with
      | nil => cases latter
      | cons head'' tail'' =>
        simp only [atMost, Bool.or_eq_true, decide_eq_true_eq, Bool.and_eq_true, beq_iff_eq] at *
        rcases former with less | ⟨rfl, former⟩
        · left
          omega
        · exact latter.imp_right fun ⟨same, latter⟩ => ⟨same, ih former latter⟩

theorem atMost_total (first second : List Nat) : (atMost first second || atMost second first) = true := by
  induction first generalizing second with
  | nil => rfl
  | cons head tail ih =>
    cases second with
    | nil => rfl
    | cons head' tail' =>
      have rest := ih tail'
      simp only [atMost, Bool.or_eq_true, decide_eq_true_eq, Bool.and_eq_true, beq_iff_eq] at *
      rcases lt_trichotomy head head' with less | same | more
      · exact .inl (.inl less)
      · exact rest.imp (fun former => .inr ⟨same, former⟩) fun latter => .inr ⟨same.symm, latter⟩
      · exact .inr (.inl more)

variable {store : Store} {source : String} {row : NetworkLcnRow}

theorem mem_networkLcnsOf : row ∈ store.networkLcnsOf source ↔ row ∈ store.networkLcns.ofSource source := by
  unfold networkLcnsOf
  exact List.mem_mergeSort

/-- Of two rows of a network the first has the smaller number, or the same one; and if they have one region too,
the smaller service. -/
structure Precedes (first second : NetworkLcnRow) : Prop where
  number : first.number ≤ second.number
  service : first.number = second.number → first.region = second.region → first.serviceId ≤ second.serviceId

theorem pairwise_networkLcnsOf (store : Store) (source : String) (networkId : UInt16) :
    ((store.networkLcnsOf source).filter (·.networkId == networkId)).Pairwise Precedes := by
  let order (row : NetworkLcnRow) : List Nat :=
    [row.networkId.toNat, row.number.toNat, row.region.toNat, row.serviceId.toNat]
  have sorted : (store.networkLcnsOf source).Pairwise fun first second =>
      atMost (order first) (order second) = true :=
    @List.pairwise_mergeSort _ (fun first second => atMost (order first) (order second))
      (fun _ _ _ => atMost_trans) (fun _ _ => atMost_total _ _) _
  apply List.pairwise_filter.mpr
  apply sorted.imp
  intro first second ordered own own'
  have network : first.networkId = second.networkId := (beq_iff_eq.mp own).trans (beq_iff_eq.mp own').symm
  simp only [order, atMost, network, Nat.lt_irrefl, decide_false, Bool.false_or, beq_self_eq_true, Bool.true_and,
    Bool.or_eq_true, decide_eq_true_eq, Bool.and_eq_true, beq_iff_eq] at ordered
  constructor
  · rw [UInt16.le_iff_toNat_le]
    omega
  · intro number region
    rw [UInt16.le_iff_toNat_le]
    simp only [number, region] at ordered
    omega

end Store

namespace Lineup

variable {store : Store} {source : String} {networkId region number serviceId onid : UInt16}
  {lookup : OnidLookup} {fallbacks : FallbackRegions} {regions : List UInt16} {row other : NetworkLcnRow}
  {rows : List NetworkLcnRow}

/-! ## Numbers -/

theorem mem_numbers : number ∈ numbers rows ↔ ∃ row ∈ rows, row.number = number := by
  fun_induction numbers rows with
  | case1 => simp
  | case2 row => simp [eq_comm]
  | case3 row next rest same ih =>
    rw [ih]
    simp [same]
  | case4 row next rest different ih =>
    rw [List.mem_cons, ih]
    simp [eq_comm]

theorem pairwise_numbers (ordered : rows.Pairwise Store.Precedes) : (numbers rows).Pairwise (· < ·) := by
  fun_induction numbers rows with
  | case1 => exact .nil
  | case2 row => exact List.pairwise_singleton _ _
  | case3 row next rest same ih => exact ih ordered.of_cons
  | case4 row next rest different ih =>
    obtain ⟨first, later⟩ := List.pairwise_cons.mp ordered
    refine List.pairwise_cons.mpr ⟨?_, ih later⟩
    intro number listed
    obtain ⟨owner, member, rfl⟩ := mem_numbers.mp listed
    have less : row.number < next.number :=
      UInt16.lt_of_le_of_ne (first next List.mem_cons_self).number different
    apply UInt16.lt_of_lt_of_le less
    rcases List.mem_cons.mp member with rfl | behind
    · exact UInt16.le_refl _
    · exact ((List.pairwise_cons.mp later).1 owner behind).number

/-! ## Preferred rows -/

def Assigns (store : Store) (source : String) (networkId number : UInt16) (row : NetworkLcnRow) : Prop :=
  row ∈ store.networkLcns.ofSource source ∧ row.networkId = networkId ∧ row.number = number

/-- Of the rows that give a number, one for the first region with any, and there the one for the least service. -/
structure IsPreferred (store : Store) (source : String) (networkId : UInt16) (regions : List UInt16)
    (number : UInt16) (row : NetworkLcnRow) : Prop where
  assigns : Assigns store source networkId number row
  region : row.region ∈ regions
  first : ∀ other, Assigns store source networkId number other →
    regions.idxOf row.region ≤ regions.idxOf other.region
  least : ∀ other, Assigns store source networkId number other → other.region = row.region →
    row.serviceId ≤ other.serviceId

theorem IsPreferred.eq (keyed : store.Keyed) (former : IsPreferred store source networkId regions number row)
    (latter : IsPreferred store source networkId regions number other) : row = other := by
  have regions : row.region = other.region := by
    apply (List.idxOf_inj former.region).mp
    exact Nat.le_antisymm (former.first other latter.assigns) (latter.first row former.assigns)
  have services : row.serviceId = other.serviceId := by
    apply UInt16.le_antisymm
    · exact former.least other latter.assigns regions.symm
    · exact latter.least row former.assigns regions
  have networks : row.networkId = other.networkId := former.assigns.2.1.trans latter.assigns.2.1.symm
  apply keyed.networkLcns.eq former.assigns.1 latter.assigns.1
  unfold NetworkLcnRow.storeKey
  rw [networks, services, regions]

theorem IsPreferred.region_eq {first : UInt16}
    (preferred : IsPreferred store source networkId (first :: regions) number row)
    (assigns : Assigns store source networkId number other) (own : other.region = first) : row.region = first := by
  have before := preferred.first other assigns
  rw [own, List.idxOf_cons_self] at before
  apply (List.idxOf_inj preferred.region).mp
  rw [List.idxOf_cons_self]
  exact Nat.le_zero.mp before

def assigning (store : Store) (source : String) (networkId number : UInt16) : List NetworkLcnRow :=
  ((store.networkLcnsOf source).filter (·.networkId == networkId)).filter (·.number == number)

theorem mem_assigning : row ∈ assigning store source networkId number ↔
    Assigns store source networkId number row := by
  unfold assigning Assigns
  rw [List.mem_filter, List.mem_filter, Store.mem_networkLcnsOf, beq_iff_eq, beq_iff_eq, and_assoc]

theorem isPreferred_of_preferredRow?
    (found : preferredRow? regions (assigning store source networkId number) = some row) :
    IsPreferred store source networkId regions number row := by
  unfold preferredRow? at found
  obtain ⟨before, region, behind, rfl, hit, misses⟩ := List.findSome?_eq_some_iff.mp found
  obtain ⟨own, passed, rest, parts, others⟩ := List.find?_eq_some_iff_append.mp hit
  obtain rfl : row.region = region := beq_iff_eq.mp own
  have assigns : Assigns store source networkId number row := mem_assigning.mp (List.mem_of_find?_eq_some hit)
  -- a region with a row is not among those that were tried in vain
  have outside : ∀ other, Assigns store source networkId number other → other.region ∉ before := by
    intro other assigned tried
    have missed := List.find?_eq_none.mp (misses other.region tried) other (mem_assigning.mpr assigned)
    exact missed (beq_self_eq_true _)
  refine ⟨assigns, List.mem_append_right _ List.mem_cons_self, ?_, ?_⟩
  · intro other assigned
    rw [List.idxOf_append_of_notMem (outside row assigns), List.idxOf_append_of_notMem (outside other assigned),
      List.idxOf_cons_self]
    omega
  · intro other assigned same
    have ordered := (store.pairwise_networkLcnsOf source networkId).filter (·.number == number)
    change (assigning store source networkId number).Pairwise Store.Precedes at ordered
    have member := mem_assigning.mpr assigned
    rw [parts] at ordered member
    rcases List.mem_append.mp member with early | late
    · have different := others other early
      simp [same] at different
    · rcases List.mem_cons.mp late with rfl | behind
      · exact UInt16.le_refl _
      · have after := (List.pairwise_append.mp ordered).2.1
        have precedes := (List.pairwise_cons.mp after).1 other behind
        exact precedes.service (assigns.2.2.trans assigned.2.2.symm) same.symm

theorem exists_isPreferred (assigns : Assigns store source networkId number row) (known : row.region ∈ regions) :
    ∃ preferred, preferredRow? regions (assigning store source networkId number) = some preferred := by
  apply Option.isSome_iff_exists.mp
  unfold preferredRow?
  rw [List.findSome?_isSome_iff]
  refine ⟨row.region, known, ?_⟩
  rw [List.find?_isSome]
  exact ⟨row, mem_assigning.mpr assigns, beq_self_eq_true _⟩

theorem preferredRow?_eq_some_iff (keyed : store.Keyed) :
    preferredRow? regions (assigning store source networkId number) = some row ↔
      IsPreferred store source networkId regions number row := by
  constructor
  · exact isPreferred_of_preferredRow?
  · intro preferred
    obtain ⟨found, chosen⟩ := exists_isPreferred preferred.assigns preferred.region
    rw [chosen, (isPreferred_of_preferredRow? chosen).eq keyed preferred]

/-! ## Networks of origin -/

def HasOnid (store : Store) (source : String) (networkId serviceId onid : UInt16) : OnidLookup → Prop
  | .byServiceId => ∃ row ∈ store.services.ofSource source, row.serviceId = serviceId ∧ row.onid = onid
  | .byNetworkAndService => ∃ row ∈ store.transportServices.ofSource source,
      (row.networkId = networkId ∧ row.serviceId = serviceId) ∧ row.onid = onid

/-- The least network of origin is taken, and there is one to take unless the service has none. -/
theorem onid?_spec (store : Store) (source : String) (networkId serviceId : UInt16) (lookup : OnidLookup) :
    (∀ onid, onid? store source networkId lookup serviceId = some onid ↔
        HasOnid store source networkId serviceId onid lookup ∧
          ∀ other, HasOnid store source networkId serviceId other lookup → onid ≤ other) ∧
      ((onid? store source networkId lookup serviceId).isSome = true ↔
        ∃ onid, HasOnid store source networkId serviceId onid lookup) := by
  cases lookup with
  | byServiceId =>
    apply Store.least?_of_members
    intro onid
    simp [HasOnid, and_assoc]
  | byNetworkAndService =>
    apply Store.least?_of_members
    intro onid
    simp [HasOnid, and_assoc]

/-! ## Channels -/

/-- The channel of a number, if it has a preferred row and the service of that a network of origin. -/
def channel? (store : Store) (source : String) (networkId region : UInt16) (lookup : OnidLookup)
    (fallbacks : FallbackRegions) (number : UInt16) : Option ClientLcn := do
  let row ← preferredRow? (fallbacks.tried region) (assigning store source networkId number)
  let onid ← onid? store source networkId lookup row.serviceId
  some { number, onid, serviceId := row.serviceId, region, freesatId := row.freesatId }

theorem resolve_eq (store : Store) (source : String) (networkId region : UInt16) (lookup : OnidLookup)
    (fallbacks : FallbackRegions) :
    resolve store source networkId region lookup fallbacks =
      (numbers ((store.networkLcnsOf source).filter (·.networkId == networkId))).filterMap
        (channel? store source networkId region lookup fallbacks) := rfl

theorem channel?_eq_some_iff (keyed : store.Keyed) {channel : ClientLcn} :
    channel? store source networkId region lookup fallbacks number = some channel ↔
      channel.number = number ∧
        ∃ row, IsPreferred store source networkId (fallbacks.tried region) number row ∧
          onid? store source networkId lookup row.serviceId = some channel.onid ∧
          channel.serviceId = row.serviceId ∧ channel.region = region ∧ channel.freesatId = row.freesatId := by
  unfold channel?
  constructor
  · intro found
    obtain ⟨row, chosen, found⟩ := Option.bind_eq_some_iff.mp found
    obtain ⟨onid, known, found⟩ := Option.bind_eq_some_iff.mp found
    cases found
    exact ⟨rfl, row, isPreferred_of_preferredRow? chosen, known, rfl, rfl, rfl⟩
  · intro ⟨own, row, preferred, known, service, regional, freesat⟩
    apply Option.bind_eq_some_iff.mpr
    refine ⟨row, (preferredRow?_eq_some_iff keyed).mpr preferred, ?_⟩
    apply Option.bind_eq_some_iff.mpr
    refine ⟨channel.onid, known, ?_⟩
    subst own
    rw [← service, ← freesat, ← regional]

theorem number_of_channel? {channel : ClientLcn}
    (found : channel? store source networkId region lookup fallbacks number = some channel) :
    channel.number = number := by
  obtain ⟨row, -, found⟩ := Option.bind_eq_some_iff.mp found
  obtain ⟨onid, -, found⟩ := Option.bind_eq_some_iff.mp found
  cases found
  rfl

theorem pairwise_resolve (store : Store) (source : String) (networkId region : UInt16) (lookup : OnidLookup)
    (fallbacks : FallbackRegions) :
    (resolve store source networkId region lookup fallbacks).Pairwise (·.number < ·.number) := by
  rw [resolve_eq]
  have rising := pairwise_numbers (store.pairwise_networkLcnsOf source networkId)
  apply rising.filterMap
  intro number number' less channel found channel' found'
  rw [number_of_channel? found, number_of_channel? found']
  exact less

theorem mem_resolve_iff (keyed : store.Keyed) {channel : ClientLcn} :
    channel ∈ resolve store source networkId region lookup fallbacks ↔
      ∃ row, IsPreferred store source networkId (fallbacks.tried region) channel.number row ∧
        onid? store source networkId lookup row.serviceId = some channel.onid ∧
        channel.serviceId = row.serviceId ∧ channel.region = region ∧ channel.freesatId = row.freesatId := by
  rw [resolve_eq, List.mem_filterMap]
  constructor
  · intro ⟨number, _, found⟩
    obtain ⟨rfl, meaning⟩ := (channel?_eq_some_iff keyed).mp found
    exact meaning
  · intro meaning
    refine ⟨channel.number, ?_, (channel?_eq_some_iff keyed).mpr ⟨rfl, meaning⟩⟩
    obtain ⟨row, preferred, -⟩ := meaning
    obtain ⟨member, given⟩ := List.mem_filter.mp (mem_assigning.mpr preferred.assigns)
    exact mem_numbers.mpr ⟨row, member, beq_iff_eq.mp given⟩

theorem mem_numbers_resolve_iff (keyed : store.Keyed) :
    number ∈ (resolve store source networkId region lookup fallbacks).map (·.number) ↔
      ∃ preferred, IsPreferred store source networkId (fallbacks.tried region) number preferred ∧
        ∃ onid, HasOnid store source networkId preferred.serviceId onid lookup := by
  rw [List.mem_map]
  constructor
  · intro ⟨channel, listed, own⟩
    obtain ⟨row, preferred, known, -⟩ := (mem_resolve_iff keyed).mp listed
    rw [own] at preferred
    have has := ((onid?_spec store source networkId row.serviceId lookup).1 _).mp known
    exact ⟨row, preferred, channel.onid, has.1⟩
  · intro ⟨row, preferred, has⟩
    obtain ⟨onid, known⟩ := Option.isSome_iff_exists.mp
      ((onid?_spec store source networkId row.serviceId lookup).2.mpr has)
    let channel : ClientLcn := { number, onid, serviceId := row.serviceId, region, freesatId := row.freesatId }
    exact ⟨channel, (mem_resolve_iff keyed).mpr ⟨row, preferred, known, rfl, rfl, rfl⟩, rfl⟩

/-! ## The order of writing -/

/-- Two stores have the same rows of a source in the tables that lineups are read from. -/
structure SameRows (store store' : Store) (source : String) : Prop where
  lcns : ∀ row, row ∈ store.networkLcns.ofSource source ↔ row ∈ store'.networkLcns.ofSource source
  services : ∀ row, row ∈ store.services.ofSource source ↔ row ∈ store'.services.ofSource source
  transportServices : ∀ row, row ∈ store.transportServices.ofSource source ↔
    row ∈ store'.transportServices.ofSource source

namespace SameRows

variable {store' : Store}

theorem isPreferred_eq (same : SameRows store store' source) :
    IsPreferred store source networkId regions number = IsPreferred store' source networkId regions number := by
  have assigned : Assigns store source networkId number = Assigns store' source networkId number := by
    funext row
    unfold Assigns
    rw [same.lcns row]
  funext row
  apply propext
  constructor
  · intro ⟨assigns, region, first, least⟩
    exact ⟨assigned ▸ assigns, region, assigned ▸ first, assigned ▸ least⟩
  · intro ⟨assigns, region, first, least⟩
    exact ⟨assigned.symm ▸ assigns, region, assigned.symm ▸ first, assigned.symm ▸ least⟩

theorem onid?_eq (same : SameRows store store' source) (networkId serviceId : UInt16) (lookup : OnidLookup) :
    onid? store source networkId lookup serviceId = onid? store' source networkId lookup serviceId := by
  have has : ∀ onid, HasOnid store source networkId serviceId onid lookup ↔
      HasOnid store' source networkId serviceId onid lookup := by
    intro onid
    cases lookup with
    | byServiceId => simp only [HasOnid, same.services]
    | byNetworkAndService => simp only [HasOnid, same.transportServices]
  ext onid
  rw [(onid?_spec store source networkId serviceId lookup).1, (onid?_spec store' source networkId serviceId lookup).1]
  simp only [has]

theorem resolve_eq (same : SameRows store store' source) (keyed : store.Keyed) (keyed' : store'.Keyed)
    (networkId region : UInt16) (lookup : OnidLookup) (fallbacks : FallbackRegions) :
    resolve store source networkId region lookup fallbacks =
      resolve store' source networkId region lookup fallbacks := by
  let before (first second : ClientLcn) : Prop := first.number < second.number
  have irreflexive : Std.Irrefl before := ⟨fun _ => UInt16.lt_irrefl _⟩
  have antisymmetric : Std.Antisymm before := ⟨fun _ _ less more => absurd less (UInt16.lt_asymm more)⟩
  apply List.Pairwise.eq_of_mem_iff (r := before)
  · exact pairwise_resolve store source networkId region lookup fallbacks
  · exact pairwise_resolve store' source networkId region lookup fallbacks
  · intro channel
    rw [mem_resolve_iff keyed, mem_resolve_iff keyed', same.isPreferred_eq]
    simp only [same.onid?_eq]

end SameRows

theorem sameRows_of_reordered (store : Store) {history history' : List (String × Batch)}
    (lcns : Reordered NetworkLcnRow.storeKey (Batch.rowsUnder source Batch.networkLcnRows history)
      (Batch.rowsUnder source Batch.networkLcnRows history'))
    (services : Reordered ServiceRow.storeKey (Batch.rowsUnder source Batch.serviceRows history)
      (Batch.rowsUnder source Batch.serviceRows history'))
    (transportServices : Reordered id (Batch.rowsUnder source Batch.transportServiceRows history)
      (Batch.rowsUnder source Batch.transportServiceRows history')) :
    SameRows (store.insertEach history) (store.insertEach history') source where
  lcns := (store.updates_networkLcns source history).mem_iff (store.updates_networkLcns source history') lcns
  services := (store.updates_services source history).mem_iff (store.updates_services source history') services
  transportServices := (store.updates_transportServices source history).mem_iff
    (store.updates_transportServices source history') transportServices

/-- A lineup means what the rows of the source say: its numbers go up; a number is in it if and only if a row gives
it in one of the regions that are tried, and the service of the preferred row has a network of origin; its channel is
that service, under the least of its networks of origin. The order in which rows with different keys were written
makes no difference to it. -/
theorem resolve_meaning (keyed : store.Keyed) (source : String) (networkId region : UInt16) (lookup : OnidLookup)
    (fallbacks : FallbackRegions) :
    let lineup := resolve store source networkId region lookup fallbacks
    let regions := [region, fallbacks.universal, fallbacks.default]
    lineup.Pairwise (·.number < ·.number) ∧
    (∀ number row, Assigns store source networkId number row → row.region ∈ regions →
      ∃! preferred, IsPreferred store source networkId regions number preferred) ∧
    (∀ number, number ∈ lineup.map (·.number) ↔
      (∃ row, Assigns store source networkId number row ∧ row.region ∈ regions) ∧
        ∃ preferred, IsPreferred store source networkId regions number preferred ∧
          ∃ onid, HasOnid store source networkId preferred.serviceId onid lookup) ∧
    (∀ channel ∈ lineup, ∃ preferred,
      IsPreferred store source networkId regions channel.number preferred ∧
      HasOnid store source networkId preferred.serviceId channel.onid lookup ∧
      (∀ onid, HasOnid store source networkId preferred.serviceId onid lookup → channel.onid ≤ onid) ∧
      channel.serviceId = preferred.serviceId ∧ channel.region = region ∧
      channel.freesatId = preferred.freesatId) ∧
    ∀ history history' : List (String × Batch),
      Reordered NetworkLcnRow.storeKey (Batch.rowsUnder source Batch.networkLcnRows history)
        (Batch.rowsUnder source Batch.networkLcnRows history') →
      Reordered ServiceRow.storeKey (Batch.rowsUnder source Batch.serviceRows history)
        (Batch.rowsUnder source Batch.serviceRows history') →
      Reordered id (Batch.rowsUnder source Batch.transportServiceRows history)
        (Batch.rowsUnder source Batch.transportServiceRows history') →
      resolve (store.insertEach history) source networkId region lookup fallbacks =
        resolve (store.insertEach history') source networkId region lookup fallbacks := by
  intro lineup regions
  refine ⟨pairwise_resolve store source networkId region lookup fallbacks, ?_, ?_, ?_, ?_⟩
  · intro number row assigns known
    obtain ⟨preferred, chosen⟩ := exists_isPreferred assigns known
    have own := isPreferred_of_preferredRow? chosen
    exact ⟨preferred, own, fun other latter => latter.eq keyed own⟩
  · intro number
    apply (mem_numbers_resolve_iff keyed).trans
    constructor
    · intro ⟨row, preferred, has⟩
      exact ⟨⟨row, preferred.assigns, preferred.region⟩, row, preferred, has⟩
    · intro ⟨_, preferred⟩
      exact preferred
  · intro channel listed
    obtain ⟨row, preferred, known, rest⟩ := (mem_resolve_iff keyed).mp listed
    have least := ((onid?_spec store source networkId row.serviceId lookup).1 _).mp known
    exact ⟨row, preferred, least.1, least.2, rest⟩
  · intro history history' lcns services transportServices
    have same := sameRows_of_reordered store lcns services transportServices
    exact same.resolve_eq (keyed.insertEach history) (keyed.insertEach history') networkId region lookup fallbacks

end Lineup

/-! A number is given for all regions and for one of them, and another number for no region. -/

namespace RegionalNumbers

def assigned : List NetworkLcnRow := [
  ⟨0x100C, 6351, 12, 101, 0⟩, ⟨0x100C, 6301, 0xFFFF, 101, 0⟩, ⟨0x100C, 6940, 0, 106, 0⟩,
  ⟨0x100C, 8500, 3, 700, 0⟩]

def services : List ServiceRow := [
  ⟨2, none, 6301, some 1, false⟩, ⟨2, none, 6351, some 1, false⟩, ⟨2, none, 6940, some 1, false⟩]

def history : List (String × Batch) := [
  ("freesat", .networkLcns assigned), ("freesat", .services services)]

def backwards : List (String × Batch) := [
  ("freesat", .services services.reverse), ("freesat", .networkLcns assigned.reverse)]

def lineup : List ClientLcn :=
  Lineup.resolve (Store.empty.insertEach history) "freesat" 0x100C 12 .byServiceId .standard

/-- The number of two regions goes to the service of the client's own, in whichever order the rows were written. -/
theorem resolve_meaning_regional :
    (Store.empty.insertEach history).Keyed ∧ ⟨101, 2, 6351, 12, 0⟩ ∈ lineup ∧
      (∃ preferred, Lineup.IsPreferred (Store.empty.insertEach history) "freesat" 0x100C [12, 0xFFFF, 0] 101
        preferred ∧ preferred.serviceId = 6351) ∧
      lineup = Lineup.resolve (Store.empty.insertEach backwards) "freesat" 0x100C 12 .byServiceId .standard := by
  have keyed : (Store.empty.insertEach history).Keyed := Store.keyed_empty.insertEach history
  have sorted : (Store.empty.insertEach history).networkLcnsOf "freesat" = assigned :=
    List.mergeSort_of_pairwise (by decide)
  have listed : ⟨101, 2, 6351, 12, 0⟩ ∈ lineup := by
    unfold lineup Lineup.resolve
    rw [sorted]
    decide
  have meaning := Lineup.resolve_meaning keyed "freesat" 0x100C 12 .byServiceId .standard
  refine ⟨keyed, listed, ?_, ?_⟩
  · obtain ⟨preferred, own, -, -, service, -⟩ := meaning.2.2.2.1 _ listed
    exact ⟨preferred, own, service.symm⟩
  · have unordered := Lineup.resolve_meaning Store.keyed_empty "freesat" 0x100C 12 .byServiceId .standard
    apply unordered.2.2.2.2
    · exact reordered_of_perm (by decide) (by decide)
    · exact reordered_of_perm (by decide) (by decide)
    · exact .refl []

end RegionalNumbers

end DvbScan
