import DvbScan.Proofs.CollectedTopology

/-!
# Findings that are heard again

Every channel repeats what others have told, so a topology takes the same findings again and again. Some of what a
finding tells is written over what was known, and some only fills a gap. All findings of a run together do no more to
a single value: one of them may be written over it, and another may fill it if it is missing, whatever else the
topology holds. What is told a second time finds all of that done.
-/

namespace DvbScan

/-- What is made of a value that may be missing. -/
structure Revision (α : Type) where
  /-- What replaces the value. -/
  written : Option α
  /-- What takes its place if it is missing. -/
  filled : Option α

namespace Revision

variable {α : Type}

def unchanged : Revision α := ⟨none, none⟩

def writing (value : α) : Revision α := ⟨some value, none⟩

def filling (value : α) : Revision α := ⟨none, some value⟩

def on (revision : Revision α) (known : Option α) : Option α :=
  revision.written.or (known.or revision.filled)

/-- What is written last counts, and what fills first. -/
def andThen (first second : Revision α) : Revision α where
  written := second.written.or first.written
  filled := first.filled.or second.filled

theorem on_unchanged (known : Option α) : unchanged.on known = known := Option.or_none

theorem on_andThen (first second : Revision α) (known : Option α) :
    (first.andThen second).on known = second.on (first.on known) := by
  obtain ⟨written, filled⟩ := first
  cases written with
  | none => simp only [on, andThen, Option.or_none, Option.none_or, Option.or_assoc]
  | some value => simp only [on, andThen, Option.or_assoc, Option.some_or]

theorem on_on (revision : Revision α) (known : Option α) :
    revision.on (revision.on known) = revision.on known := by
  obtain ⟨written, filled⟩ := revision
  cases written with
  | some value => rfl
  | none =>
    change (known.or filled).or filled = known.or filled
    rw [Option.or_assoc, Option.or_self]

end Revision

namespace OrderedMap

variable {κ α β : Type} [Ranked κ]

theorem bind_get?_alter {field : α → Option β} {change : Option α → α} {revision : Revision β} (key other : κ)
    (changed : ∀ known, field (change known) = revision.on (known.bind field)) :
    ∃ revision : Revision β, ∀ map : OrderedMap κ α,
      ((map.alter key change).get? other).bind field = revision.on ((map.get? other).bind field) := by
  by_cases own : other = key
  · refine ⟨revision, fun map => ?_⟩
    rw [own, get?_alter_self]
    exact changed (map.get? key)
  · refine ⟨.unchanged, fun map => ?_⟩
    rw [get?_alter_of_ne own, Revision.on_unchanged]

theorem get?_insert (key other : κ) (value : α) :
    ∃ revision : Revision α, ∀ map : OrderedMap κ α,
      (map.insert key value).get? other = revision.on (map.get? other) := by
  by_cases own : other = key
  · refine ⟨.writing value, fun map => ?_⟩
    rw [own, get?_insert_self]
    rfl
  · refine ⟨.unchanged, fun map => ?_⟩
    rw [get?_insert_of_ne own, Revision.on_unchanged]

end OrderedMap

theorem OrderedSet.mem_toList_iff_get? {κ : Type} [Ranked κ] {set : OrderedSet κ} {key : κ} :
    key ∈ toList set ↔ set.get? key = some () :=
  OrderedMap.mem_keys_iff_get?.trans ⟨fun ⟨_, found⟩ => found, fun found => ⟨(), found⟩⟩

/-- A change of an entry revises a field of it, whether the entry was there or is made by the change. -/
def RevisesField {α β : Type} (unknown : α) (field : α → Option β) (change : α → α) : Prop :=
  ∃ revision : Revision β, ∀ known : Option α, field (change (known.getD unknown)) = revision.on (known.bind field)

theorem revisesField_of_unchanged {α β : Type} {unknown : α} {field : α → Option β} {change : α → α}
    (missing : field unknown = none) (same : ∀ entry, field (change entry) = field entry) :
    RevisesField unknown field change := by
  refine ⟨.unchanged, fun known => ?_⟩
  rw [same, Revision.on_unchanged]
  cases known with
  | none => exact missing
  | some entry => rfl

namespace Transport

def IsRevised {β : Type} (field : Transport → Option β) : Prop :=
  ∀ (finding : Finding) (locked : Option Tuning), RevisesField unknown field (finding.revise locked ·)

theorem tuning_revised : IsRevised (·.tuning) := by
  intro finding locked
  cases finding with
  | transportTuning _ _ _ tuning => exact ⟨.filling tuning, by rintro (_ | _) <;> rfl⟩
  | currentTransport => exact ⟨⟨none, locked⟩, by rintro (_ | _) <;> rfl⟩
  | _ => exact revisesField_of_unchanged rfl fun _ => rfl

theorem networkId_revised : IsRevised (·.networkId) := by
  intro finding locked
  cases finding with
  | transportTuning networkId | transportServices networkId =>
    exact ⟨.filling networkId, by rintro (_ | _) <;> rfl⟩
  | _ => exact revisesField_of_unchanged rfl fun _ => rfl

/-- A new transport waits, and only the one that is being received changes its status. -/
theorem status_revised : IsRevised (some ·.status) := by
  intro finding locked
  cases finding with
  | currentTransport => exact ⟨.writing .scanned, by rintro (_ | _) <;> rfl⟩
  | _ => exact ⟨.filling .pending, by rintro (_ | _) <;> rfl⟩

theorem serviceIds_revised (serviceId : UInt16) : IsRevised (·.serviceIds.get? serviceId) := by
  intro finding locked
  have members (transport : Transport) := @Finding.mem_serviceIds_revise finding locked transport serviceId
  simp only [OrderedSet.mem_toList_iff_get?] at members
  by_cases put : serviceId ∈ finding.services
  · refine ⟨.filling (), fun known => ((members _).mpr (.inl put)).trans ?_⟩
    cases known.bind (·.serviceIds.get? serviceId) <;> rfl
  · refine revisesField_of_unchanged rfl fun transport => Option.ext fun present => ?_
    exact (members transport).trans (or_iff_right put)

theorem eq_of_fields {first second : Option Transport}
    (status : first.bind (some ·.status) = second.bind (some ·.status))
    (tuning : first.bind (·.tuning) = second.bind (·.tuning))
    (networkId : first.bind (·.networkId) = second.bind (·.networkId))
    (serviceIds : ∀ serviceId, first.bind (·.serviceIds.get? serviceId) =
      second.bind (·.serviceIds.get? serviceId)) : first = second := by
  cases first with
  | none => cases second with
    | none => rfl
    | some second => cases status
  | some first => cases second with
    | none => cases status
    | some second =>
      obtain ⟨_, _, ids, _⟩ := first
      obtain ⟨_, _, ids', _⟩ := second
      obtain rfl : ids = ids' := OrderedMap.ext_get? serviceIds
      cases tuning
      cases networkId
      cases Option.some.inj status
      rfl

end Transport

def ServiceListEntry.revise (tsid : UInt16) (entry : ServiceListEntry) (service : Service) : Service :=
  { service with
    serviceType := service.serviceType.or (some entry.serviceType)
    tsid := service.tsid.or (some tsid) }

def ServiceInfo.revise (tsid : UInt16) (info : ServiceInfo) (service : Service) : Service :=
  { name := info.name.or service.name
    provider := info.provider.or service.provider
    serviceType := info.serviceType.or service.serviceType
    freeCa := info.freeCa
    scanned := true
    tsid := some tsid }

namespace Service

structure IsRevised {β : Type} (field : Service → Option β) : Prop where
  listed : ∀ tsid (entry : ServiceListEntry), RevisesField unknown field (entry.revise tsid)
  told : ∀ tsid (info : ServiceInfo), RevisesField unknown field (info.revise tsid)

theorem name_revised : IsRevised (·.name) where
  listed _ _ := revisesField_of_unchanged rfl fun _ => rfl
  told _ info := ⟨⟨info.name, none⟩, by rintro (_ | _) <;> simp [Revision.on, ServiceInfo.revise, unknown]⟩

theorem provider_revised : IsRevised (·.provider) where
  listed _ _ := revisesField_of_unchanged rfl fun _ => rfl
  told _ info := ⟨⟨info.provider, none⟩, by rintro (_ | _) <;> simp [Revision.on, ServiceInfo.revise, unknown]⟩

theorem serviceType_revised : IsRevised (·.serviceType) where
  listed _ entry := ⟨.filling entry.serviceType, by rintro (_ | _) <;> rfl⟩
  told _ info := ⟨⟨info.serviceType, none⟩, by rintro (_ | _) <;> simp [Revision.on, ServiceInfo.revise, unknown]⟩

theorem tsid_revised : IsRevised (·.tsid) where
  listed tsid _ := ⟨.filling tsid, by rintro (_ | _) <;> rfl⟩
  told tsid _ := ⟨.writing tsid, by rintro (_ | _) <;> rfl⟩

theorem freeCa_revised : IsRevised (some ·.freeCa) where
  listed _ _ := ⟨.filling false, by rintro (_ | _) <;> rfl⟩
  told _ info := ⟨.writing info.freeCa, by rintro (_ | _) <;> rfl⟩

theorem scanned_revised : IsRevised (some ·.scanned) where
  listed _ _ := ⟨.filling false, by rintro (_ | _) <;> rfl⟩
  told _ _ := ⟨.writing true, by rintro (_ | _) <;> rfl⟩

theorem eq_of_fields {first second : Option Service} (name : first.bind (·.name) = second.bind (·.name))
    (provider : first.bind (·.provider) = second.bind (·.provider))
    (serviceType : first.bind (·.serviceType) = second.bind (·.serviceType))
    (freeCa : first.bind (some ·.freeCa) = second.bind (some ·.freeCa))
    (scanned : first.bind (some ·.scanned) = second.bind (some ·.scanned))
    (tsid : first.bind (·.tsid) = second.bind (·.tsid)) : first = second := by
  cases first with
  | none => cases second with
    | none => rfl
    | some second => cases scanned
  | some first => cases second with
    | none => cases scanned
    | some second =>
      obtain ⟨⟩ := first
      obtain ⟨⟩ := second
      cases name
      cases provider
      cases serviceType
      cases Option.some.inj freeCa
      cases Option.some.inj scanned
      cases tsid
      rfl

end Service

namespace Topology

variable {α : Type} {locked : Option Tuning} {reading : Topology → Option α}

/-- The step makes one revision of a reading of every topology with this tuning of the channel that is heard, which it
leaves. -/
def Revises (locked : Option Tuning) (reading : Topology → Option α) (step : Topology → Topology) : Prop :=
  ∃ revision : Revision α, ∀ topology, topology.locked = locked →
    (step topology).locked = locked ∧ reading (step topology) = revision.on (reading topology)

namespace Revises

variable {first second step : Topology → Topology}

theorem of_same (listens : ∀ topology, (step topology).locked = topology.locked)
    (same : ∀ topology, reading (step topology) = reading topology) : Revises locked reading step := by
  refine ⟨.unchanged, fun topology heard => ⟨(listens topology).trans heard, ?_⟩⟩
  rw [same, Revision.on_unchanged]

theorem comp (latter : Revises locked reading second) (former : Revises locked reading first) :
    Revises locked reading (second ∘ first) := by
  obtain ⟨before, former⟩ := former
  obtain ⟨after, latter⟩ := latter
  refine ⟨before.andThen after, fun topology heard => ?_⟩
  obtain ⟨kept, revised⟩ := former topology heard
  obtain ⟨still, again⟩ := latter (first topology) kept
  refine ⟨still, ?_⟩
  rw [Revision.on_andThen, ← revised]
  exact again

theorem foldl {β : Type} {steps : Topology → β → Topology} (each : ∀ item, Revises locked reading (steps · item))
    (items : List β) : Revises locked reading (items.foldl steps ·) := by
  induction items with
  | nil => exact of_same (fun _ => rfl) fun _ => rfl
  | cons item rest ih => exact ih.comp (each item)

/-- A step that is done twice does no more to the reading than a step that is done once. -/
theorem twice {topology : Topology} (revises : Revises topology.locked reading step) :
    reading (step (step topology)) = reading (step topology) := by
  obtain ⟨revision, revises⟩ := revises
  obtain ⟨kept, revised⟩ := revises topology rfl
  rw [(revises (step topology) kept).2, revised, Revision.on_on]

end Revises

theorem revises_of_same {finding : Finding}
    (same : ∀ topology, reading (topology.apply finding) = reading topology) :
    Revises locked reading (·.apply finding) :=
  .of_same (locked_apply · finding) same

theorem revises_list (apart : ∀ (topology : Topology) transports services,
    reading { topology with transports, services } = reading topology) (networkId onid tsid : UInt16)
    (services : List ServiceListEntry) :
    Revises locked reading (·.apply (.transportServices networkId onid tsid services)) := by
  refine revises_of_same fun topology => ?_
  obtain ⟨known, applied⟩ := topology.apply_transportServices networkId onid tsid services
  rw [applied]
  exact apart topology _ known

theorem revises_name (kind : NetworkKind) (id : UInt16) (finding : Finding) :
    Revises locked (fun topology => (topology.names kind).get? id) (·.apply finding) := by
  cases finding with
  | networkName kind' id' name =>
    obtain ⟨revision, inserted⟩ := OrderedMap.get?_insert id' id name
    cases kind <;> cases kind'
    case network.network => exact ⟨revision, fun topology heard => ⟨heard, inserted topology.networks⟩⟩
    case bouquet.bouquet => exact ⟨revision, fun topology heard => ⟨heard, inserted topology.bouquets⟩⟩
    case network.bouquet | bouquet.network => exact revises_of_same fun _ => rfl
  | transportServices => exact revises_list (fun _ _ _ => by cases kind <;> rfl) ..
  | _ => exact revises_of_same fun _ => by cases kind <;> rfl

theorem revises_lcn (key : LcnKey) (finding : Finding) :
    Revises locked (·.lcns.get? key) (·.apply finding) := by
  cases finding with
  | logicalChannel networkId serviceId region number freesatId =>
    obtain ⟨revision, inserted⟩ := OrderedMap.get?_insert (LcnKey.mk networkId serviceId region) key
      (LcnAssignment.mk number freesatId)
    exact ⟨revision, fun topology heard => ⟨heard, inserted topology.lcns⟩⟩
  | networkName kind => exact revises_of_same fun _ => by cases kind <;> rfl
  | transportServices => exact revises_list (fun _ _ _ => rfl) ..
  | _ => exact revises_of_same fun _ => rfl

theorem revises_region (key : RegionKey) (finding : Finding) :
    Revises locked (·.regions.get? key) (·.apply finding) := by
  cases finding with
  | region bouquetId region name =>
    obtain ⟨revision, inserted⟩ := OrderedMap.get?_insert (RegionKey.mk bouquetId region) key name
    exact ⟨revision, fun topology heard => ⟨heard, inserted topology.regions⟩⟩
  | networkName kind => exact revises_of_same fun _ => by cases kind <;> rfl
  | transportServices => exact revises_list (fun _ _ _ => rfl) ..
  | _ => exact revises_of_same fun _ => rfl

theorem revises_transport {field : Transport → Option α} (revised : Transport.IsRevised field) (key : TransportKey)
    (finding : Finding) : Revises locked (fun topology => (topology.transports.get? key).bind field)
      (·.apply finding) := by
  cases about : finding.transport? with
  | none =>
    refine revises_of_same fun topology => ?_
    rw [transports_apply, about]
  | some own =>
    obtain ⟨_, changed⟩ := revised finding locked
    obtain ⟨revision, altered⟩ := OrderedMap.bind_get?_alter own key changed
    refine ⟨revision, fun topology heard => ⟨(locked_apply topology finding).trans heard, ?_⟩⟩
    change ((topology.apply finding).transports.get? key).bind field = _
    rw [transports_apply, about, heard]
    exact altered topology.transports

theorem revises_withService {field : Service → Option α} {change : Service → Service}
    (changed : RevisesField .unknown field change) (onid serviceId : UInt16) (key : ServiceKey) :
    Revises locked (fun topology => (topology.services.get? key).bind field) (·.withService onid serviceId change) := by
  obtain ⟨_, changed⟩ := changed
  obtain ⟨revision, altered⟩ := OrderedMap.bind_get?_alter (ServiceKey.mk onid serviceId) key changed
  exact ⟨revision, fun topology heard => ⟨heard, altered topology.services⟩⟩

theorem revises_service {field : Service → Option α} (revised : Service.IsRevised field) (key : ServiceKey)
    (finding : Finding) : Revises locked (fun topology => (topology.services.get? key).bind field)
      (·.apply finding) := by
  have carried (onid tsid : UInt16) (change : Transport → Transport) :
      Revises locked (fun topology => (topology.services.get? key).bind field) (·.withTransport onid tsid change) :=
    .of_same (fun _ => rfl) fun _ => rfl
  cases finding with
  | transportServices networkId onid tsid services =>
    refine (Revises.foldl (fun entry => ?_) services).comp (carried onid tsid _)
    exact revises_withService (revised.listed tsid entry) onid entry.serviceId key
  | service onid tsid serviceId info =>
    exact (revises_withService (revised.told tsid info) onid serviceId key).comp (carried onid tsid _)
  | networkName kind => exact revises_of_same fun _ => by cases kind <;> rfl
  | _ => exact revises_of_same fun _ => rfl

/-- Whatever a topology holds and whichever channel is heard, findings that are taken twice in a row leave what they
leave when they are taken once. -/
theorem applyAll_twice (topology : Topology) (findings : List Finding) :
    (topology.applyAll findings).applyAll findings = topology.applyAll findings := by
  have again {α : Type} {reading : Topology → Option α}
      (revises : ∀ finding, Revises topology.locked reading (·.apply finding)) :
      reading ((topology.applyAll findings).applyAll findings) = reading (topology.applyAll findings) :=
    (Revises.foldl revises findings).twice
  have names (kind : NetworkKind) : ((topology.applyAll findings).applyAll findings).names kind =
      (topology.applyAll findings).names kind :=
    OrderedMap.ext_get? fun id => again (revises_name kind id)
  have transports : ((topology.applyAll findings).applyAll findings).transports =
      (topology.applyAll findings).transports :=
    OrderedMap.ext_get? fun key => Transport.eq_of_fields (again (revises_transport Transport.status_revised key))
      (again (revises_transport Transport.tuning_revised key))
      (again (revises_transport Transport.networkId_revised key))
      fun serviceId => again (revises_transport (Transport.serviceIds_revised serviceId) key)
  have services : ((topology.applyAll findings).applyAll findings).services =
      (topology.applyAll findings).services :=
    OrderedMap.ext_get? fun key => Service.eq_of_fields (again (revises_service Service.name_revised key))
      (again (revises_service Service.provider_revised key))
      (again (revises_service Service.serviceType_revised key))
      (again (revises_service Service.freeCa_revised key))
      (again (revises_service Service.scanned_revised key))
      (again (revises_service Service.tsid_revised key))
  have lcns : ((topology.applyAll findings).applyAll findings).lcns = (topology.applyAll findings).lcns :=
    OrderedMap.ext_get? fun key => again (revises_lcn key)
  have regions : ((topology.applyAll findings).applyAll findings).regions = (topology.applyAll findings).regions :=
    OrderedMap.ext_get? fun key => again (revises_region key)
  exact Topology.mk.injEq .. ▸
    ⟨names .network, names .bouquet, transports, services, lcns, regions, locked_applyAll _ _⟩

end Topology

end DvbScan
