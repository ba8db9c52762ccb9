import DvbScan.Proofs.CollectedTopology
import DvbScan.Proofs.TuneHarvest

/-!
# Topologies only grow

What a sweep does to its topology is to take findings, to note the tuning of the channel that is heard, and to
settle transports that wait. None of it loses a key, replaces the tuning or the network of a transport, or takes
a status back. And a transport that waits no more was named as the one being received, or it was settled for a
reason that its tuning has.
-/

namespace DvbScan

namespace OrderedMap

variable {κ α : Type} [Ranked κ] {map first second third : OrderedMap κ α} {related : α → α → Prop}

/-- Every key is still there, with a value that is related to the earlier one. -/
def Grows (related : α → α → Prop) (earlier later : OrderedMap κ α) : Prop :=
  ∀ key value, earlier.get? key = some value → ∃ grown, later.get? key = some grown ∧ related value grown

theorem Grows.refl (same : ∀ value, related value value) (map : OrderedMap κ α) : Grows related map map :=
  fun _ value found => ⟨value, found, same value⟩

theorem Grows.trans
    (chain : ∀ {first second third}, related first second → related second third → related first third)
    (former : Grows related first second) (latter : Grows related second third) : Grows related first third := by
  intro key value found
  obtain ⟨middle, present, before⟩ := former key value found
  obtain ⟨last, present, after⟩ := latter key middle present
  exact ⟨last, present, chain before after⟩

theorem grows_alter (same : ∀ value, related value value) (key : κ) {change : Option α → α}
    (changed : ∀ value, related value (change (some value))) : Grows related map (map.alter key change) := by
  intro other value found
  by_cases own : other = key
  · subst own
    exact ⟨_, get?_alter_self change, found ▸ changed value⟩
  · exact ⟨value, (get?_alter_of_ne own change).trans found, same value⟩

theorem grows_mapValues {change : κ → α → α}
    (changed : ∀ key value, map.get? key = some value → related value (change key value)) :
    Grows related map (map.mapValues change) := by
  intro key value found
  refine ⟨change key value, ?_, changed key value found⟩
  rw [get?_mapValues, found]
  rfl

theorem keys_subset_insert (map : OrderedMap κ α) (key : κ) (value : α) :
    map.keys ⊆ (map.insert key value).keys := by
  intro other member
  obtain ⟨known, found⟩ := mem_keys_iff_get?.mp member
  have grown : Grows (fun _ _ => True) map (map.insert key value) :=
    grows_alter (fun _ => trivial) key fun _ => trivial
  obtain ⟨kept, present, -⟩ := grown other known found
  exact mem_keys_iff_get?.mpr ⟨kept, present⟩

end OrderedMap

/-- From waiting a transport comes to be given up or received, and from being given up to be received. -/
inductive TransportStatus.Advances : TransportStatus → TransportStatus → Prop
  | stays (status : TransportStatus) : Advances status status
  | givenUp : Advances .pending .failed
  | received (status : TransportStatus) : Advances status .scanned

theorem TransportStatus.Advances.trans {first second third : TransportStatus}
    (former : first.Advances second) (latter : second.Advances third) : first.Advances third := by
  cases latter with
  | stays => exact former
  | received => exact .received first
  | givenUp =>
    cases former with
    | stays => exact .givenUp

namespace Transport

structure Grows (earlier later : Transport) : Prop where
  tuning : ∀ tuning, earlier.tuning = some tuning → later.tuning = some tuning
  networkId : ∀ id, earlier.networkId = some id → later.networkId = some id
  serviceIds : OrderedSet.toList earlier.serviceIds ⊆ OrderedSet.toList later.serviceIds
  status : earlier.status.Advances later.status

theorem Grows.refl (transport : Transport) : transport.Grows transport :=
  ⟨fun _ => id, fun _ => id, List.Subset.refl _, .stays _⟩

theorem Grows.trans {first second third : Transport} (former : first.Grows second)
    (latter : second.Grows third) : first.Grows third where
  tuning tuning known := latter.tuning tuning (former.tuning tuning known)
  networkId id known := latter.networkId id (former.networkId id known)
  serviceIds := List.Subset.trans former.serviceIds latter.serviceIds
  status := former.status.trans latter.status

theorem grows_revise (finding : Finding) (locked : Option Tuning) (transport : Transport) :
    transport.Grows (finding.revise locked transport) where
  tuning tuning known := by
    cases finding with
    | transportTuning | currentTransport => exact Option.or_eq_some_iff.mpr (.inl known)
    | _ => exact known
  networkId id known := by
    rw [Finding.networkId_revise, known]
    rfl
  serviceIds _ member := Finding.mem_serviceIds_revise.mpr (.inr member)
  status := by
    cases finding with
    | currentTransport => exact .received _
    | _ => exact .stays _

theorem grows_settled {transport : Transport} (waits : transport.status = .pending) (status : TransportStatus) :
    transport.Grows { transport with status } where
  tuning _ := id
  networkId _ := id
  serviceIds := List.Subset.refl _
  status := by
    rw [waits]
    cases status with
    | pending => exact .stays _
    | scanned => exact .received _
    | failed => exact .givenUp

end Transport

namespace Service

/-- What was known of a service is known, though it may have been told anew. -/
structure Grows (earlier later : Service) : Prop where
  scanned : earlier.scanned = true → later.scanned = true
  name : earlier.name.isSome = true → later.name.isSome = true
  provider : earlier.provider.isSome = true → later.provider.isSome = true
  serviceType : earlier.serviceType.isSome = true → later.serviceType.isSome = true
  tsid : earlier.tsid.isSome = true → later.tsid.isSome = true

theorem Grows.refl (service : Service) : service.Grows service := ⟨id, id, id, id, id⟩

theorem Grows.trans {first second third : Service} (former : first.Grows second)
    (latter : second.Grows third) : first.Grows third where
  scanned := latter.scanned ∘ former.scanned
  name := latter.name ∘ former.name
  provider := latter.provider ∘ former.provider
  serviceType := latter.serviceType ∘ former.serviceType
  tsid := latter.tsid ∘ former.tsid

end Service

namespace Topology

structure Grows (earlier later : Topology) : Prop where
  networks : earlier.networks.keys ⊆ later.networks.keys
  bouquets : earlier.bouquets.keys ⊆ later.bouquets.keys
  transports : earlier.transports.Grows Transport.Grows later.transports
  services : earlier.services.Grows Service.Grows later.services
  lcns : earlier.lcns.keys ⊆ later.lcns.keys
  regions : earlier.regions.keys ⊆ later.regions.keys

theorem Grows.of_entries {topology : Topology} {transports : OrderedMap TransportKey Transport}
    {services : OrderedMap ServiceKey Service} (carried : topology.transports.Grows Transport.Grows transports)
    (offered : topology.services.Grows Service.Grows services) (locked : Option Tuning) :
    topology.Grows { topology with transports, services, locked } where
  networks := List.Subset.refl _
  bouquets := List.Subset.refl _
  transports := carried
  services := offered
  lcns := List.Subset.refl _
  regions := List.Subset.refl _

theorem grows_listen (topology : Topology) (locked : Option Tuning) : topology.Grows { topology with locked } :=
  .of_entries (.refl Transport.Grows.refl _) (.refl Service.Grows.refl _) locked

theorem Grows.refl (topology : Topology) : topology.Grows topology :=
  topology.grows_listen topology.locked

theorem Grows.trans {first second third : Topology} (former : first.Grows second)
    (latter : second.Grows third) : first.Grows third where
  networks := List.Subset.trans former.networks latter.networks
  bouquets := List.Subset.trans former.bouquets latter.bouquets
  transports := .trans Transport.Grows.trans former.transports latter.transports
  services := .trans Service.Grows.trans former.services latter.services
  lcns := List.Subset.trans former.lcns latter.lcns
  regions := List.Subset.trans former.regions latter.regions

theorem grows_withTransport (topology : Topology) (onid tsid : UInt16) {change : Transport → Transport}
    (changed : ∀ transport : Transport, transport.Grows (change transport)) :
    topology.Grows (topology.withTransport onid tsid change) := by
  refine .of_entries ?_ (.refl Service.Grows.refl _) _
  exact OrderedMap.grows_alter Transport.Grows.refl _ changed

theorem grows_withService (topology : Topology) (onid serviceId : UInt16) {change : Service → Service}
    (changed : ∀ service : Service, service.Grows (change service)) :
    topology.Grows (topology.withService onid serviceId change) := by
  refine .of_entries (.refl Transport.Grows.refl _) ?_ _
  exact OrderedMap.grows_alter Service.Grows.refl _ changed

theorem grows_listServices (onid tsid : UInt16) (services : List ServiceListEntry) (topology : Topology) :
    topology.Grows (services.foldl (listService onid tsid) topology) := by
  induction services generalizing topology with
  | nil => exact .refl topology
  | cons entry rest ih =>
    refine Grows.trans (grows_withService topology onid entry.serviceId fun service => ?_) (ih _)
    refine ⟨id, id, id, fun known => ?_, fun known => ?_⟩
    · rw [Option.isSome_or, known, Bool.true_or]
    · rw [Option.isSome_or, known, Bool.true_or]

theorem grows_apply (topology : Topology) (finding : Finding) : topology.Grows (topology.apply finding) := by
  have revised (onid tsid : UInt16) :=
    topology.grows_withTransport onid tsid (Transport.grows_revise finding topology.locked)
  cases finding with
  | networkName kind id name =>
    cases kind with
    | network => exact { Grows.refl topology with networks := OrderedMap.keys_subset_insert _ _ _ }
    | bouquet => exact { Grows.refl topology with bouquets := OrderedMap.keys_subset_insert _ _ _ }
  | transportTuning networkId onid tsid tuning => exact revised onid tsid
  | transportServices networkId onid tsid services =>
    exact (revised onid tsid).trans (grows_listServices onid tsid services _)
  | service onid tsid serviceId info =>
    unfold apply
    refine (revised onid tsid).trans (grows_withService _ onid serviceId fun service => ?_)
    refine ⟨fun _ => rfl, fun known => ?_, fun known => ?_, fun known => ?_, fun _ => rfl⟩
    · rw [Option.isSome_or, known, Bool.or_true]
    · rw [Option.isSome_or, known, Bool.or_true]
    · rw [Option.isSome_or, known, Bool.or_true]
  | logicalChannel => exact { Grows.refl topology with lcns := OrderedMap.keys_subset_insert _ _ _ }
  | region => exact { Grows.refl topology with regions := OrderedMap.keys_subset_insert _ _ _ }
  | currentTransport onid tsid => exact revised onid tsid

def Awaits (topology : Topology) (test : TransportKey → Transport → Bool) (keys : EquivalenceKey → Prop) :
    Prop :=
  ∀ key transport, topology.transports.get? key = some transport → test key transport = true →
    ∃ tuning, transport.waiting? = some tuning ∧ keys tuning.equivalence

theorem waiting?_eq_some_iff {transport : Transport} {tuning : Tuning} :
    transport.waiting? = some tuning ↔ transport.status = .pending ∧ transport.tuning = some tuning := by
  unfold Transport.waiting?
  split
  next waits => exact (and_iff_right waits).symm
  next settled => exact iff_of_false nofun fun both => settled both.1

theorem grows_settleWhere {topology : Topology} {test : TransportKey → Transport → Bool}
    {keys : EquivalenceKey → Prop} (awaits : topology.Awaits test keys) (status : TransportStatus) :
    topology.Grows (topology.settleWhere status test) := by
  refine .of_entries ?_ (.refl Service.Grows.refl _) _
  refine OrderedMap.grows_mapValues fun key transport found => ?_
  split
  next picked =>
    obtain ⟨tuning, waits, -⟩ := awaits key transport found picked
    exact Transport.grows_settled (waiting?_eq_some_iff.mp waits).1 status
  next => exact .refl transport

/-- A topology becomes another: it takes findings that were told, it notes what is heard, and it gives a status to
transports that wait on channels whose keys give reason to. -/
inductive Evolves (told : Finding → Prop) (reason : TransportStatus → EquivalenceKey → Prop) :
    Topology → Topology → Prop
  | refl (topology : Topology) : Evolves told reason topology topology
  | find {topology later : Topology} {finding : Finding} (given : told finding)
      (rest : Evolves told reason (topology.apply finding) later) : Evolves told reason topology later
  | listen {topology later : Topology} (locked : Option Tuning)
      (rest : Evolves told reason { topology with locked } later) : Evolves told reason topology later
  | settle {topology later : Topology} {status : TransportStatus} {test : TransportKey → Transport → Bool}
      (awaits : topology.Awaits test (reason status))
      (rest : Evolves told reason (topology.settleWhere status test) later) : Evolves told reason topology later

namespace Evolves

variable {told told' : Finding → Prop} {reason reason' : TransportStatus → EquivalenceKey → Prop}
  {first second third : Topology}

theorem trans (former : Evolves told reason first second) (latter : Evolves told reason second third) :
    Evolves told reason first third := by
  induction former with
  | refl => exact latter
  | find given _ ih => exact .find given (ih latter)
  | listen locked _ ih => exact .listen locked (ih latter)
  | settle awaits _ ih => exact .settle awaits (ih latter)

theorem mono (evolves : Evolves told reason first second) (tells : ∀ finding, told finding → told' finding)
    (reasons : ∀ status key, reason status key → reason' status key) : Evolves told' reason' first second := by
  induction evolves with
  | refl => exact .refl _
  | find given _ ih => exact .find (tells _ given) ih
  | listen locked _ ih => exact .listen locked ih
  | settle awaits _ ih =>
    refine .settle (fun key transport found picked => ?_) ih
    obtain ⟨tuning, waits, given⟩ := awaits key transport found picked
    exact ⟨tuning, waits, reasons _ _ given⟩

theorem applyAll {findings : List Finding} (tells : ∀ finding ∈ findings, told finding) (topology : Topology) :
    Evolves told reason topology (topology.applyAll findings) := by
  induction findings generalizing topology with
  | nil => exact .refl topology
  | cons finding rest ih =>
    refine .find (tells finding List.mem_cons_self) (ih (fun other member => ?_) _)
    exact tells other (List.mem_cons_of_mem _ member)

theorem grows (evolves : Evolves told reason first second) : first.Grows second := by
  induction evolves with
  | refl => exact .refl _
  | find _ _ ih => exact (grows_apply _ _).trans ih
  | listen locked _ ih => exact (grows_listen _ locked).trans ih
  | settle awaits _ ih => exact (grows_settleWhere awaits _).trans ih

end Evolves

/-- There is a reason for the status of a transport: it waits, it was named as the one being received, or its tuning
gives reason to. -/
def Accounted (told : Finding → Prop) (reason : TransportStatus → EquivalenceKey → Prop) (key : TransportKey)
    (transport : Transport) : Prop :=
  transport.status ≠ .pending →
    (transport.status = .scanned ∧ told (.currentTransport key.onid key.tsid)) ∨
      ∃ tuning, transport.tuning = some tuning ∧ reason transport.status tuning.equivalence

section

variable {told : Finding → Prop} {reason : TransportStatus → EquivalenceKey → Prop} {key : TransportKey}

theorem accounted_revise {finding : Finding} (given : told finding) (own : finding.transport? = some key)
    (locked : Option Tuning) {transport : Transport} (accounted : Accounted told reason key transport) :
    Accounted told reason key (finding.revise locked transport) := by
  intro settled
  cases finding with
  | currentTransport onid tsid =>
    cases own
    exact .inl ⟨rfl, given⟩
  | transportTuning networkId onid tsid tuning =>
    refine (accounted settled).imp_right fun ⟨known, tuned, cause⟩ => ⟨known, ?_, cause⟩
    exact Option.or_eq_some_iff.mpr (.inl tuned)
  | _ => exact accounted settled

theorem accounted_settleWhere {topology : Topology} {status : TransportStatus}
    {test : TransportKey → Transport → Bool} (awaits : topology.Awaits test (reason status))
    (accounted : Accounted told reason key (topology.transportOf key)) :
    Accounted told reason key ((topology.settleWhere status test).transportOf key) := by
  unfold transportOf settleWhere at *
  simp only [OrderedMap.get?_mapValues] at *
  cases found : topology.transports.get? key with
  | none => exact fun settled => absurd rfl settled
  | some transport =>
    rw [found] at accounted
    simp only [Option.map_some, Option.getD_some] at accounted ⊢
    split
    next picked =>
      obtain ⟨tuning, waits, cause⟩ := awaits key transport found picked
      exact fun _ => .inr ⟨tuning, (waiting?_eq_some_iff.mp waits).2, cause⟩
    next => exact accounted

theorem Evolves.accounted {first second : Topology} (evolves : Evolves told reason first second)
    (before : ∀ key, Accounted told reason key (first.transportOf key)) (key : TransportKey) :
    Accounted told reason key (second.transportOf key) := by
  induction evolves with
  | refl => exact before key
  | find given _ ih =>
    refine ih fun key => ?_
    rw [transportOf_apply]
    split
    next own => exact accounted_revise given own _ (before key)
    next => exact before key
  | listen locked _ ih => exact ih before
  | settle awaits _ ih => exact ih fun key => accounted_settleWhere awaits (before key)

end

end Topology

end DvbScan
