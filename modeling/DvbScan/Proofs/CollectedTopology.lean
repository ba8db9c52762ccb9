import DvbScan.Proofs.Lookup
import DvbScan.Scan.Topology

/-!
# What a topology has collected

In a sweep a topology takes findings, it is told which channel is heard, and transports are given a status. After
any such run a transport belongs to the first network that a finding names for it, its services are all those
that findings put on it, and every name was announced for its identifier.
-/

namespace DvbScan

inductive TopologyAct where
  | find (finding : Finding)
  | beginChannel (tuning : Tuning)
  | endChannel
  /-- Gives a status to the transports that a test picks. -/
  | settle (status : TransportStatus) (test : TransportKey → Transport → Bool)

namespace TopologyAct

def finding? : TopologyAct → Option Finding
  | find finding => some finding
  | beginChannel _ | endChannel | settle _ _ => none

def findings (acts : List TopologyAct) : List Finding := acts.filterMap finding?

theorem findings_cons (act : TopologyAct) (rest : List TopologyAct) :
    findings (act :: rest) = findings [act] ++ findings rest :=
  List.filterMap_append (l := [act])

end TopologyAct

namespace Topology

def act (topology : Topology) : TopologyAct → Topology
  | .find finding => topology.apply finding
  | .beginChannel tuning => topology.beginChannel tuning
  | .endChannel => topology.endChannel
  | .settle status test => topology.settleWhere status test

def actAll (topology : Topology) (acts : List TopologyAct) : Topology := acts.foldl act topology

end Topology

namespace Finding

def transport? : Finding → Option TransportKey
  | .transportTuning _ onid tsid _ | .transportServices _ onid tsid _ | .service onid tsid _ _
  | .currentTransport onid tsid => some ⟨onid, tsid⟩
  | .networkName _ _ _ | .logicalChannel _ _ _ _ _ | .region _ _ _ => none

def network? : Finding → Option UInt16
  | .transportTuning networkId _ _ _ | .transportServices networkId _ _ _ => some networkId
  | _ => none

def services : Finding → List UInt16
  | .transportServices _ _ _ services => services.map (·.serviceId)
  | .service _ _ serviceId _ => [serviceId]
  | _ => []

def revise (locked : Option Tuning) (transport : Transport) : Finding → Transport
  | .transportTuning networkId _ _ tuning =>
    { transport with
      networkId := transport.networkId.or (some networkId)
      tuning := transport.tuning.or (some tuning) }
  | .transportServices networkId _ _ services =>
    { transport with
      networkId := transport.networkId.or (some networkId)
      serviceIds := OrderedSet.insertAll transport.serviceIds (services.map (·.serviceId)) }
  | .service _ _ serviceId _ =>
    { transport with serviceIds := OrderedSet.insert transport.serviceIds serviceId }
  | .currentTransport _ _ =>
    { transport with tuning := transport.tuning.or locked, status := .scanned }
  | .networkName _ _ _ | .logicalChannel _ _ _ _ _ | .region _ _ _ => transport

variable {finding : Finding} {locked : Option Tuning} {transport : Transport} {serviceId : UInt16}

theorem networkId_revise (finding : Finding) (locked : Option Tuning) (transport : Transport) :
    (finding.revise locked transport).networkId = transport.networkId.or finding.network? := by
  cases finding with
  | transportTuning | transportServices => rfl
  | _ => exact Option.or_none.symm

theorem mem_serviceIds_revise :
    serviceId ∈ OrderedSet.toList (finding.revise locked transport).serviceIds ↔
      serviceId ∈ finding.services ∨ serviceId ∈ OrderedSet.toList transport.serviceIds := by
  cases finding with
  | transportServices => exact OrderedSet.mem_toList_insertAll
  | service =>
    refine OrderedSet.mem_toList_insert.trans (or_congr_left ?_)
    exact List.mem_singleton.symm
  | _ => exact (or_iff_right List.not_mem_nil).symm

def announcer? (findings : List Finding) (key : TransportKey) : Option UInt16 :=
  (findings.filter (·.transport? == some key)).findSome? network?

def PutOn (findings : List Finding) (key : TransportKey) (serviceId : UInt16) : Prop :=
  ∃ finding ∈ findings, finding.transport? = some key ∧ serviceId ∈ finding.services

theorem announcer?_append (first second : List Finding) (key : TransportKey) :
    announcer? (first ++ second) key = (announcer? first key).or (announcer? second key) := by
  unfold announcer?
  rw [List.filter_append, List.findSome?_append]

theorem not_putOn_nil {key : TransportKey} : ¬PutOn [] key serviceId :=
  fun ⟨_, member, _⟩ => List.not_mem_nil member

theorem putOn_append {first second : List Finding} {key : TransportKey} :
    PutOn (first ++ second) key serviceId ↔ PutOn first key serviceId ∨ PutOn second key serviceId := by
  unfold PutOn
  simp only [List.mem_append, or_and_right, exists_or]

end Finding

namespace Topology

open Finding TopologyAct

variable {key : TransportKey} {serviceId : UInt16}

theorem foldl_listService_eq (onid tsid : UInt16) (services : List ServiceListEntry)
    (topology : Topology) :
    ∃ known, services.foldl (listService onid tsid) topology = { topology with services := known } := by
  induction services generalizing topology with
  | nil => exact ⟨topology.services, rfl⟩
  | cons entry rest ih => exact ih (listService onid tsid topology entry)

theorem apply_transportServices (topology : Topology) (networkId onid tsid : UInt16)
    (services : List ServiceListEntry) :
    let finding : Finding := .transportServices networkId onid tsid services
    ∃ known, topology.apply finding =
      { topology.withTransport onid tsid (finding.revise topology.locked ·) with services := known } :=
  foldl_listService_eq onid tsid services _

@[simp]
theorem locked_apply (topology : Topology) (finding : Finding) :
    (topology.apply finding).locked = topology.locked := by
  cases finding with
  | networkName kind id name => cases kind <;> rfl
  | transportServices networkId onid tsid services =>
    obtain ⟨known, applied⟩ := topology.apply_transportServices networkId onid tsid services
    rw [applied]
    rfl
  | _ => rfl

@[simp]
theorem locked_applyAll (topology : Topology) (findings : List Finding) :
    (topology.applyAll findings).locked = topology.locked := by
  induction findings generalizing topology with
  | nil => rfl
  | cons finding rest ih =>
    change ((topology.apply finding).applyAll rest).locked = _
    rw [ih, locked_apply]

/-- A finding changes the entry of the transport that it is about, and no other. -/
theorem transports_apply (topology : Topology) (finding : Finding) :
    (topology.apply finding).transports = match finding.transport? with
      | some key => topology.transports.alter key fun known => finding.revise topology.locked (known.getD .unknown)
      | none => topology.transports := by
  cases finding with
  | networkName kind => cases kind <;> rfl
  | transportServices networkId onid tsid services =>
    obtain ⟨known, applied⟩ := topology.apply_transportServices networkId onid tsid services
    rw [applied]
    rfl
  | _ => rfl

def transportOf (topology : Topology) (key : TransportKey) : Transport :=
  (topology.transports.get? key).getD .unknown

theorem transportOf_withTransport (topology : Topology) (onid tsid : UInt16)
    (change : Transport → Transport) (key : TransportKey) :
    (topology.withTransport onid tsid change).transportOf key =
      if some ⟨onid, tsid⟩ = some key then change (topology.transportOf key)
      else topology.transportOf key := by
  unfold withTransport transportOf
  by_cases own : key = ⟨onid, tsid⟩
  · subst own
    rw [if_pos rfl]
    simp only [OrderedMap.get?_alter_self, Option.getD_some]
  · rw [if_neg fun same => own (Option.some.inj same).symm]
    simp only [OrderedMap.get?_alter_of_ne own]

theorem transportOf_apply (topology : Topology) (finding : Finding) (key : TransportKey) :
    (topology.apply finding).transportOf key =
      if finding.transport? = some key then finding.revise topology.locked (topology.transportOf key)
      else topology.transportOf key := by
  have changed (onid tsid : UInt16) :=
    transportOf_withTransport topology onid tsid (finding.revise topology.locked ·) key
  cases finding with
  | networkName kind id name => cases kind <;> rfl
  | transportTuning _ onid tsid _ | service onid tsid _ _ | currentTransport onid tsid =>
    exact changed onid tsid
  | transportServices networkId onid tsid services =>
    obtain ⟨known, applied⟩ := topology.apply_transportServices networkId onid tsid services
    exact (congrArg (·.transportOf key) applied).trans (changed onid tsid)
  | logicalChannel | region => rfl

theorem transportOf_settleWhere (topology : Topology) (status : TransportStatus)
    (test : TransportKey → Transport → Bool) (key : TransportKey) :
    ∃ settled, (topology.settleWhere status test).transportOf key =
      { topology.transportOf key with status := settled } := by
  unfold transportOf settleWhere
  simp only [OrderedMap.get?_mapValues]
  cases topology.transports.get? key with
  | none => exact ⟨_, rfl⟩
  | some transport =>
    simp only [Option.map_some, Option.getD_some]
    split
    · exact ⟨status, rfl⟩
    · exact ⟨transport.status, rfl⟩

theorem networkId_apply (topology : Topology) (finding : Finding) (key : TransportKey) :
    ((topology.apply finding).transportOf key).networkId =
      (topology.transportOf key).networkId.or (announcer? [finding] key) := by
  unfold announcer?
  rw [transportOf_apply]
  by_cases own : finding.transport? = some key
  · simp [own, networkId_revise]
  · simp [own]

theorem mem_serviceIds_apply {topology : Topology} {finding : Finding} :
    serviceId ∈ OrderedSet.toList ((topology.apply finding).transportOf key).serviceIds ↔
      PutOn [finding] key serviceId ∨
        serviceId ∈ OrderedSet.toList (topology.transportOf key).serviceIds := by
  unfold PutOn
  rw [transportOf_apply]
  by_cases own : finding.transport? = some key
  · simp [own, mem_serviceIds_revise]
  · simp [own]

theorem networkId_act (topology : Topology) (act : TopologyAct) (key : TransportKey) :
    ((topology.act act).transportOf key).networkId =
      (topology.transportOf key).networkId.or (announcer? (findings [act]) key) := by
  cases act with
  | find finding => exact networkId_apply topology finding key
  | beginChannel | endChannel => exact Option.or_none.symm
  | settle status test =>
    obtain ⟨settled, same⟩ := transportOf_settleWhere topology status test key
    exact (congrArg Transport.networkId same).trans Option.or_none.symm

/-- A transport belongs to the first network that is named for it. -/
theorem networkId_actAll (topology : Topology) (acts : List TopologyAct) (key : TransportKey) :
    ((topology.actAll acts).transportOf key).networkId =
      (topology.transportOf key).networkId.or (announcer? (findings acts) key) := by
  induction acts generalizing topology with
  | nil => exact Option.or_none.symm
  | cons act rest ih =>
    rw [findings_cons, announcer?_append, ← Option.or_assoc, ← networkId_act]
    exact ih (topology.act act)

theorem mem_serviceIds_act {topology : Topology} {act : TopologyAct} :
    serviceId ∈ OrderedSet.toList ((topology.act act).transportOf key).serviceIds ↔
      PutOn (findings [act]) key serviceId ∨
        serviceId ∈ OrderedSet.toList (topology.transportOf key).serviceIds := by
  cases act with
  | find finding => exact mem_serviceIds_apply
  | beginChannel | endChannel => exact (or_iff_right not_putOn_nil).symm
  | settle status test =>
    obtain ⟨settled, same⟩ := transportOf_settleWhere topology status test key
    have kept := congrArg Transport.serviceIds same
    exact (iff_of_eq (congrArg (serviceId ∈ OrderedSet.toList ·) kept)).trans
      (or_iff_right not_putOn_nil).symm

theorem mem_serviceIds_actAll {topology : Topology} {acts : List TopologyAct} :
    serviceId ∈ OrderedSet.toList ((topology.actAll acts).transportOf key).serviceIds ↔
      PutOn (findings acts) key serviceId ∨
        serviceId ∈ OrderedSet.toList (topology.transportOf key).serviceIds := by
  induction acts generalizing topology with
  | nil => exact (or_iff_right not_putOn_nil).symm
  | cons act rest ih =>
    rw [findings_cons, putOn_append, or_comm (a := PutOn (findings [act]) key serviceId), or_assoc,
      ← mem_serviceIds_act]
    exact ih

def names (topology : Topology) : NetworkKind → OrderedMap UInt16 String
  | .network => topology.networks
  | .bouquet => topology.bouquets

/-- A name that a finding has left was there, or the finding announces it. -/
theorem announced_of_apply {topology : Topology} {finding : Finding} {kind : NetworkKind} {id : UInt16}
    {name : String} (found : ((topology.apply finding).names kind).get? id = some name) :
    finding = .networkName kind id name ∨ (topology.names kind).get? id = some name := by
  cases finding with
  | networkName kind' id' name' =>
    by_cases own : kind' = kind ∧ id' = id
    · obtain ⟨rfl, rfl⟩ := own
      have written : ((topology.apply (.networkName kind' id' name')).names kind').get? id' = some name' := by
        cases kind' <;> exact OrderedMap.get?_insert_self _
      rw [written] at found
      exact .inl (by rw [Option.some.inj found])
    · refine .inr (found ▸ ?_)
      cases kind' <;> cases kind
      case network.bouquet | bouquet.network => rfl
      case network.network | bouquet.bouquet =>
        exact (OrderedMap.get?_insert_of_ne (fun same => own ⟨rfl, same.symm⟩) _).symm
  | transportServices networkId onid tsid services =>
    obtain ⟨known, applied⟩ := topology.apply_transportServices networkId onid tsid services
    rw [applied] at found
    exact .inr (by cases kind <;> exact found)
  | _ => exact .inr (by cases kind <;> exact found)

theorem announced_of_act {topology : Topology} {act : TopologyAct} {kind : NetworkKind} {id : UInt16}
    {name : String} (found : ((topology.act act).names kind).get? id = some name) :
    .networkName kind id name ∈ findings [act] ∨ (topology.names kind).get? id = some name := by
  cases act with
  | find finding =>
    rcases announced_of_apply found with rfl | known
    · exact .inl (List.mem_singleton.mpr rfl)
    · exact .inr known
  | beginChannel | endChannel | settle => exact .inr (by cases kind <;> exact found)

theorem announced_of_actAll {topology : Topology} {acts : List TopologyAct} {kind : NetworkKind}
    {id : UInt16} {name : String} (found : ((topology.actAll acts).names kind).get? id = some name) :
    .networkName kind id name ∈ findings acts ∨ (topology.names kind).get? id = some name := by
  induction acts generalizing topology with
  | nil => exact .inr found
  | cons act rest ih =>
    rw [findings_cons, List.mem_append]
    rcases @ih (topology.act act) found with later | before
    · exact .inl (.inr later)
    · rcases announced_of_act before with now | known
      · exact .inl (.inl now)
      · exact .inr known

end Topology

end DvbScan
