import DvbScan.Proofs.GrowingTopology
import DvbScan.Proofs.ToldTopology

/-!
# Services and the transports that carry them

A topology keeps its services in two places: each transport has the services that are put on it, and each service
has an entry that names a transport. A list of services leaves the transport that an entry already names, a service
table replaces it, and the service stays in the set of the transport that it leaves. The two places agree all the
same: what a transport lists has an entry, and the transport that an entry names lists the service.
-/

namespace DvbScan

namespace Topology

open Finding TopologyAct

variable {topology : Topology} {serviceId : UInt16}

def Lists (topology : Topology) (key : TransportKey) (serviceId : UInt16) : Prop :=
  ∃ transport, topology.transports.get? key = some transport ∧ serviceId ∈ OrderedSet.toList transport.serviceIds

theorem lists_iff {key : TransportKey} :
    topology.Lists key serviceId ↔ serviceId ∈ OrderedSet.toList (topology.transportOf key).serviceIds := by
  unfold Lists transportOf
  cases topology.transports.get? key with
  | none =>
    apply iff_of_false
    · intro lists
      obtain ⟨transport, found, -⟩ := lists
      cases found
    · exact List.not_mem_nil
  | some transport =>
    simp only [Option.some.injEq, exists_eq_left', Option.getD_some]

/-- What transports list and what entries name agree. -/
structure Consistent (topology : Topology) : Prop where
  /-- A service that a transport lists has an entry. -/
  known : ∀ onid tsid serviceId, topology.Lists ⟨onid, tsid⟩ serviceId →
    ∃ service, topology.services.get? ⟨onid, serviceId⟩ = some service
  /-- The entry of a service names a transport, and that lists the service. -/
  carried : ∀ onid serviceId service, topology.services.get? ⟨onid, serviceId⟩ = some service →
    ∃ tsid, service.tsid = some tsid ∧ topology.Lists ⟨onid, tsid⟩ serviceId

theorem consistent_empty : empty.Consistent where
  known onid tsid serviceId lists := by
    obtain ⟨transport, found, -⟩ := lists
    cases found
  carried onid serviceId service found := by cases found

theorem services_withService (topology : Topology) (onid changed : UInt16) (change : Service → Service)
    (key : ServiceKey) :
    (topology.withService onid changed change).services.get? key =
      if key = ⟨onid, changed⟩ then some (change ((topology.services.get? key).getD .unknown))
      else topology.services.get? key := by
  unfold withService
  split
  next own =>
    rw [own]
    exact OrderedMap.get?_alter_self _
  next other => exact OrderedMap.get?_alter_of_ne other _

theorem known_withService (topology : Topology) (onid serviceId : UInt16) (change : Service → Service) :
    ∃ service, (topology.withService onid serviceId change).services.get? ⟨onid, serviceId⟩ = some service := by
  rw [services_withService, if_pos rfl]
  exact ⟨_, rfl⟩

/-- A listed service that names no transport names the one of the list; every other entry names what it named. -/
theorem tsid_of_listService {onid tsid : UInt16} {entry : ServiceListEntry} {key : ServiceKey} {service : Service}
    (found : (listService onid tsid topology entry).services.get? key = some service) :
    (key = ⟨onid, entry.serviceId⟩ ∧ service.tsid = some tsid) ∨
      ∃ former, topology.services.get? key = some former ∧ service.tsid = former.tsid := by
  unfold listService at found
  rw [services_withService] at found
  split at found
  next own =>
    cases found
    cases topology.services.get? key with
    | none => exact .inl ⟨own, rfl⟩
    | some former =>
      cases named : former.tsid with
      | none => exact .inl ⟨own, by simp [named]⟩
      | some first => exact .inr ⟨former, rfl, by simp [named]⟩
  next => exact .inr ⟨service, found, rfl⟩

theorem tsid_of_listServices {onid tsid : UInt16} {services : List ServiceListEntry} {key : ServiceKey}
    {service : Service}
    (found : (services.foldl (listService onid tsid) topology).services.get? key = some service) :
    (key.onid = onid ∧ key.serviceId ∈ services.map (·.serviceId) ∧ service.tsid = some tsid) ∨
      ∃ former, topology.services.get? key = some former ∧ service.tsid = former.tsid := by
  induction services generalizing topology with
  | nil => exact .inr ⟨service, found, rfl⟩
  | cons entry rest ih =>
    rcases ih found with ⟨network, listed, named⟩ | ⟨middle, found, same⟩
    · exact .inl ⟨network, List.mem_cons_of_mem _ listed, named⟩
    · rcases tsid_of_listService found with ⟨rfl, named⟩ | ⟨former, known, before⟩
      · exact .inl ⟨rfl, List.mem_cons_self, same.trans named⟩
      · exact .inr ⟨former, known, same.trans before⟩

/-- After a finding the entry of a service names a transport that the finding puts it on, or what it named before. -/
theorem tsid_of_apply {finding : Finding} {key : ServiceKey} {service : Service}
    (found : (topology.apply finding).services.get? key = some service) :
    (∃ tsid, service.tsid = some tsid ∧ PutOn [finding] ⟨key.onid, tsid⟩ key.serviceId) ∨
      ∃ former, topology.services.get? key = some former ∧ service.tsid = former.tsid := by
  cases finding with
  | networkName kind id name => cases kind <;> exact .inr ⟨service, found, rfl⟩
  | transportServices networkId onid tsid services =>
    rcases tsid_of_listServices found with ⟨rfl, listed, named⟩ | before
    · exact .inl ⟨tsid, named, _, List.mem_singleton_self _, rfl, listed⟩
    · exact .inr before
  | service onid tsid serviceId info =>
    unfold apply at found
    rw [services_withService] at found
    split at found
    next own =>
      subst own
      cases found
      exact .inl ⟨tsid, rfl, _, List.mem_singleton_self _, rfl, List.mem_singleton_self _⟩
    next => exact .inr ⟨service, found, rfl⟩
  | transportTuning | logicalChannel | region | currentTransport => exact .inr ⟨service, found, rfl⟩

theorem known_of_listServices {onid tsid : UInt16} {services : List ServiceListEntry}
    (listed : serviceId ∈ services.map (·.serviceId)) (topology : Topology) :
    ∃ service, (services.foldl (listService onid tsid) topology).services.get? ⟨onid, serviceId⟩ = some service := by
  induction services generalizing topology with
  | nil => exact absurd listed List.not_mem_nil
  | cons entry rest ih =>
    rcases List.mem_cons.mp listed with rfl | later
    · -- the rest of the list takes no entry out
      obtain ⟨service, written⟩ := known_withService topology onid entry.serviceId _
      obtain ⟨grown, present, -⟩ := (grows_listServices onid tsid rest _).services _ service written
      exact ⟨grown, present⟩
    · exact ih later _

theorem known_of_putOn {finding : Finding} {onid tsid : UInt16} (put : PutOn [finding] ⟨onid, tsid⟩ serviceId)
    (topology : Topology) : ∃ service, (topology.apply finding).services.get? ⟨onid, serviceId⟩ = some service := by
  obtain ⟨_, member, about, put⟩ := put
  cases List.mem_singleton.mp member
  cases finding with
  | transportServices =>
    cases about
    exact known_of_listServices put _
  | service =>
    cases about
    cases List.mem_singleton.mp put
    exact known_withService ..
  | _ => exact absurd put List.not_mem_nil

theorem lists_apply {finding : Finding} {key : TransportKey} :
    (topology.apply finding).Lists key serviceId ↔
      PutOn [finding] key serviceId ∨ topology.Lists key serviceId := by
  rw [lists_iff, lists_iff, mem_serviceIds_apply]

theorem lists_settleWhere (status : TransportStatus) (test : TransportKey → Transport → Bool) {key : TransportKey} :
    (topology.settleWhere status test).Lists key serviceId ↔ topology.Lists key serviceId := by
  rw [lists_iff, lists_iff]
  obtain ⟨settled, same⟩ := transportOf_settleWhere topology status test key
  rw [same]

namespace Consistent

theorem apply (consistent : topology.Consistent) (finding : Finding) : (topology.apply finding).Consistent where
  known onid tsid serviceId lists := by
    rcases lists_apply.mp lists with put | before
    · exact known_of_putOn put topology
    · obtain ⟨service, known⟩ := consistent.known onid tsid serviceId before
      obtain ⟨grown, present, -⟩ := (grows_apply topology finding).services _ service known
      exact ⟨grown, present⟩
  carried onid serviceId service found := by
    rcases tsid_of_apply found with ⟨tsid, named, put⟩ | ⟨former, known, same⟩
    · exact ⟨tsid, named, lists_apply.mpr (.inl put)⟩
    · obtain ⟨tsid, named, lists⟩ := consistent.carried onid serviceId former known
      exact ⟨tsid, same.trans named, lists_apply.mpr (.inr lists)⟩

theorem listen (consistent : topology.Consistent) (locked : Option Tuning) :
    { topology with locked }.Consistent :=
  ⟨consistent.known, consistent.carried⟩

theorem settleWhere (consistent : topology.Consistent) (status : TransportStatus)
    (test : TransportKey → Transport → Bool) : (topology.settleWhere status test).Consistent where
  known onid tsid serviceId lists :=
    consistent.known onid tsid serviceId ((lists_settleWhere status test).mp lists)
  carried onid serviceId service found := by
    obtain ⟨tsid, named, lists⟩ := consistent.carried onid serviceId service found
    exact ⟨tsid, named, (lists_settleWhere status test).mpr lists⟩

theorem act (consistent : topology.Consistent) (act : TopologyAct) : (topology.act act).Consistent := by
  cases act with
  | find finding => exact consistent.apply finding
  | beginChannel tuning => exact consistent.listen (some tuning)
  | endChannel => exact consistent.listen none
  | settle status test => exact consistent.settleWhere status test

theorem actAll (consistent : topology.Consistent) (acts : List TopologyAct) : (topology.actAll acts).Consistent := by
  induction acts generalizing topology with
  | nil => exact consistent
  | cons act rest ih => exact ih (consistent.act act)

end Consistent

theorem setStatus_eq_act (topology : Topology) (key : TransportKey) (status : TransportStatus) :
    topology.setStatus key status = topology.act (.settle status fun other _ => other == key) := rfl

theorem settleEquivalent_eq_act (topology : Topology) (tuning : Tuning) (status : TransportStatus) :
    topology.settleEquivalent tuning status =
      topology.act (.settle status fun _ transport => transport.waitsOn tuning.equivalence) := rfl

/-- Whatever a topology is told and whichever statuses are set, what its transports list has entries, and what its
entries name lists them. -/
theorem consistent_of_acts (acts : List TopologyAct) : (empty.actAll acts).Consistent :=
  consistent_empty.actAll acts

end Topology

namespace Sweep

variable {ι : Type} [CandidateSource ι]

theorem consistent_of_run (platform : Platform) (candidates : ι) (timeouts : Timeouts) (receiver : Receiver)
    (acts : List SweepAct) :
    ((new platform candidates timeouts).actAll receiver acts).topology.Consistent := by
  obtain ⟨changes, made, -⟩ := collects_of_run platform candidates timeouts receiver acts
  rw [made]
  exact Topology.consistent_empty.actAll changes

end Sweep

end DvbScan
