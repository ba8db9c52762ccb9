import DvbScan.Proofs.BoundedRun
import DvbScan.Proofs.ChannelStep
import DvbScan.Proofs.ServiceReader
import Mathlib.Data.List.Nodup

/-!
# Filters do not disturb each other

The filters of a channel deliver in any order, and some of their tables are read by one reader. All the
same what a filter comes to depends on its own deliveries alone. A channel that hears all filters and one that
hears a single filter are compared: whatever the others deliver, the tables and the status of that filter stay
the same in both.
-/

namespace DvbScan

/-! ## What a role depends on -/

def TableRole.service? : TableRole → Option Bool
  | servicesActual => some true
  | servicesOther => some false
  | network | bouquet => none

/-- What is delivered is no section, or a section with the table identifier. -/
def Delivery.isOf (tableId : UInt8) : Delivery → Bool
  | .bytes data => (Section.parse data).toOption.all fun whole => whole.header.tableId == tableId
  | .stopped | .failed _ => true

def Delivery.Suits (delivery : Delivery) (role : TableRole) : Prop :=
  ∀ isActual bytes whole, role.service? = some isActual → delivery = .bytes bytes →
    Section.parse bytes = .ok whole →
      ServiceTableReader.isActual? whole.header.tableId = some isActual

namespace Channel

/-- What the reading of one role depends on. -/
def view (role : TableRole) (channel : Channel) :
    DescriptorTable × DescriptorTable × (OrderedMap UInt16 NetworkProgress ⊕ TableTracker) :=
  (channel.table, channel.services.table, match role with
    | .network => .inl channel.networks
    | .bouquet => .inl channel.bouquets
    | .servicesActual => .inr (channel.services.trackerOf true)
    | .servicesOther => .inr (channel.services.trackerOf false))

theorem processServices_eq {services : ServiceTableReader} {role : TableRole} {whole : Section}
    {isActual : Bool} (own : role.service? = some isActual)
    (known : ServiceTableReader.isActual? whole.header.tableId = some isActual) :
    processServices services role whole =
      match ServiceSection.parse whole services.table with
      | .error error => (services, .error error)
      | .ok parsed =>
        let tracked := (services.trackerOf isActual).track whole.header
        (services.withTracker isActual tracked.1,
          .ok (tracked.2, tracked.1.isComplete,
            if tracked.2.isFresh then parsed.findings isActual else [])) := by
  unfold processServices
  cases reading : ServiceSection.parse whole services.table with
  | error error => rw [ServiceTableReader.process_of_malformed known reading]
  | ok parsed =>
    rw [ServiceTableReader.process_of_parsed known reading]
    cases role with
    | network => cases own
    | bouquet => cases own
    | servicesActual => cases own; rfl
    | servicesOther => cases own; rfl

theorem view_of_service {role : TableRole} {isActual : Bool} (own : role.service? = some isActual)
    (channel : Channel) :
    channel.view role =
      (channel.table, channel.services.table, .inr (channel.services.trackerOf isActual)) := by
  cases role <;> cases own <;> rfl

theorem processWhole_of_service {role : TableRole} {isActual : Bool}
    (own : role.service? = some isActual) (channel : Channel) (whole : Section) :
    channel.processWhole role whole =
      ({ channel with services := (processServices channel.services role whole).1 },
        (processServices channel.services role whole).2) := by
  cases role <;> cases own <;> rfl

/-- Reading a section for one role leaves what the other roles depend on. -/
theorem view_processWhole_of_ne {role other : TableRole} (different : other ≠ role)
    (channel : Channel) {whole : Section}
    (suits : ∀ isActual, other.service? = some isActual →
      ServiceTableReader.isActual? whole.header.tableId = some isActual) :
    (channel.processWhole other whole).1.view role = channel.view role := by
  cases kind : other.service? with
  | none => cases other <;> cases kind <;> cases role <;> first | rfl | exact absurd rfl different
  | some isActual =>
    rw [processWhole_of_service kind, processServices_eq kind (suits isActual kind)]
    cases ServiceSection.parse whole channel.services.table with
    | error error => rfl
    | ok parsed =>
      unfold view
      simp only [ServiceTableReader.table_withTracker]
      cases other <;> cases kind <;> cases role <;> first | rfl | exact absurd rfl different

theorem processWhole_of_view {role : TableRole} {first second : Channel}
    (same : first.view role = second.view role) {whole : Section}
    (suits : ∀ isActual, role.service? = some isActual →
      ServiceTableReader.isActual? whole.header.tableId = some isActual) :
    (first.processWhole role whole).1.view role = (second.processWhole role whole).1.view role ∧
      (first.processWhole role whole).2 = (second.processWhole role whole).2 := by
  cases kind : role.service? with
  | some isActual =>
    rw [view_of_service kind, view_of_service kind, Prod.mk.injEq, Prod.mk.injEq, Sum.inr.injEq] at same
    obtain ⟨table, services, tracker⟩ := same
    have known := suits isActual kind
    rw [processWhole_of_service kind, processWhole_of_service kind, processServices_eq kind known,
      processServices_eq kind known, services, tracker]
    rw [view_of_service kind, view_of_service kind]
    cases ServiceSection.parse whole second.services.table with
    | error error => exact ⟨by simp only [table, services, tracker], rfl⟩
    | ok parsed => exact ⟨by simp [table, services], rfl⟩
  | none =>
    cases role with
    | network =>
      simp only [view, Prod.mk.injEq, Sum.inl.injEq] at same
      obtain ⟨table, services, networks⟩ := same
      unfold processWhole view
      simp only [table, services, networks]
      exact ⟨trivial, trivial⟩
    | bouquet =>
      simp only [view, Prod.mk.injEq, Sum.inl.injEq] at same
      obtain ⟨table, services, bouquets⟩ := same
      unfold processWhole view
      simp only [table, services, bouquets]
      exact ⟨trivial, trivial⟩
    | servicesActual => cases kind
    | servicesOther => cases kind

theorem view_read_of_ne {role other : TableRole} (different : other ≠ role) (channel : Channel)
    {delivery : Delivery} (suits : delivery.Suits other) :
    (channel.read other delivery).1.view role = channel.view role := by
  cases delivery with
  | stopped => rfl
  | failed error => rfl
  | bytes bytes =>
    change (channel.process other bytes).1.view role = _
    cases framing : Section.parse bytes with
    | error fault => rw [process_of_unframed channel other framing]
    | ok whole =>
      rw [process_of_framed channel other framing]
      exact view_processWhole_of_ne different channel fun isActual kind =>
        suits isActual bytes whole kind rfl framing

/-- Two channels that look alike to a role, and on which its filter has the same status, read a delivery
for it alike. -/
theorem read_of_view {role : TableRole} {first second : Channel}
    (same : first.view role = second.view role)
    (status : first.filterStatus? role = second.filterStatus? role) {delivery : Delivery}
    (suits : delivery.Suits role) :
    (first.read role delivery).1.view role = (second.read role delivery).1.view role ∧
      (first.read role delivery).2 = (second.read role delivery).2 := by
  cases delivery with
  | stopped => exact ⟨same, rfl⟩
  | failed error => exact ⟨same, rfl⟩
  | bytes bytes =>
    change (first.process role bytes).1.view role = (second.process role bytes).1.view role ∧
      (first.process role bytes).2 = (second.process role bytes).2
    cases framing : Section.parse bytes with
    | error fault =>
      rw [process_of_unframed first role framing, process_of_unframed second role framing]
      exact ⟨same, rfl⟩
    | ok whole =>
      rw [process_of_framed first role framing, process_of_framed second role framing, status]
      obtain ⟨views, answers⟩ := processWhole_of_view same fun isActual kind =>
        suits isActual bytes whole kind rfl framing
      rw [answers]
      exact ⟨views, rfl⟩

theorem view_settle (channel : Channel) (filter : FilterId) (status : FilterStatus) (role : TableRole) :
    (channel.settle filter status).1.view role = channel.view role := rfl

theorem slots_read (channel : Channel) (role : TableRole) (delivery : Delivery) :
    (channel.read role delivery).1.slots = channel.slots := by
  obtain ⟨networks, bouquets, services, read⟩ := channel.read_fst role delivery
  rw [read]

theorem state_read (channel : Channel) (role : TableRole) (delivery : Delivery) :
    (channel.read role delivery).1.state = channel.state := by
  obtain ⟨networks, bouquets, services, read⟩ := channel.read_fst role delivery
  rw [read]

/-! ## One filter alone -/

def untouched (filter : FilterId) (slot : FilterSlot) : FilterSlot :=
  if slot.id = filter then slot else { slot with status := .blank, isOpen := true }

theorem untouched_of_eq {filter : FilterId} {slot : FilterSlot} (own : slot.id = filter) :
    untouched filter slot = slot :=
  if_pos own

@[simp]
theorem id_untouched (filter : FilterId) (slot : FilterSlot) :
    (untouched filter slot).id = slot.id := by
  unfold untouched
  split <;> rfl

@[simp]
theorem role_untouched (filter : FilterId) (slot : FilterSlot) :
    (untouched filter slot).role = slot.role := by
  unfold untouched
  split <;> rfl

theorem untouched_settled_of_ne {filter other : FilterId} (different : other ≠ filter)
    (status : FilterStatus) (slot : FilterSlot) :
    untouched filter (settled other status slot) = untouched filter slot := by
  by_cases own : slot.id = filter
  · have elsewhere : slot.id ≠ other := fun same => different (same.symm.trans own)
    rw [settled_of_ne elsewhere]
  · unfold untouched
    rw [id_settled, if_neg own, if_neg own]
    have id := id_settled other status slot
    have role := role_settled other status slot
    cases given : settled other status slot
    rw [given] at id role
    cases slot
    cases id
    cases role
    rfl

theorem untouched_settled (filter : FilterId) (status : FilterStatus) (slot : FilterSlot) :
    untouched filter (settled filter status slot) = settled filter status (untouched filter slot) := by
  by_cases own : slot.id = filter
  · rw [untouched_of_eq own, untouched_of_eq ((id_settled filter status slot).trans own)]
  · rw [settled_of_ne own, settled_of_ne]
    rw [id_untouched]
    exact own

/-- On a channel each filter has a role of its own, and while sections are awaited some filter lacks them. -/
structure Wired (channel : Channel) : Prop where
  paired : ∀ first ∈ channel.wiring, ∀ second ∈ channel.wiring,
    first.1 = second.1 ↔ first.2 = second.2
  lacking : channel.state = .awaitingSections → ∃ slot ∈ channel.slots, slot.status.isTerminal = false

theorem mem_wiring {channel : Channel} {slot : FilterSlot} (present : slot ∈ channel.slots) :
    (slot.id, slot.role) ∈ channel.wiring :=
  List.mem_map.mpr ⟨slot, present, rfl⟩

theorem Wired.handle {channel : Channel} (wired : channel.Wired) (filter : FilterId)
    (delivery : Delivery) : (channel.handle filter delivery).1.Wired := by
  refine ⟨?_, ?_⟩
  · rw [wiring_handle]
    exact wired.paired
  · obtain dropped | ⟨networks, bouquets, services, status, found, read⟩ :=
      channel.handle_cases filter delivery
    · rw [dropped]
      exact wired.lacking
    · rw [read]
      intro awaiting
      rw [state_settle] at awaiting
      split at awaiting
      next => cases awaiting
      next some_lacks => simpa using some_lacks

/-- The second channel is as the first would be if it had heard nothing but the filter. -/
structure Alone (filter : FilterId) (role : TableRole) (full own : Channel) : Prop where
  slots : own.slots = full.slots.map (untouched filter)
  view : full.view role = own.view role
  ended : own.state = .awaitingSections ∨ ∀ slot ∈ own.slots, slot.status.isTerminal = true

namespace Alone

variable {filter other : FilterId} {role : TableRole} {full own : Channel}

theorem of_other (alone : Alone filter role full own) (wired : full.Wired)
    (chosen : (filter, role) ∈ full.wiring) (different : other ≠ filter) {delivery : Delivery}
    (suits : ∀ role, (other, role) ∈ full.wiring → delivery.Suits role) :
    Alone filter role (full.handle other delivery).1 own := by
  by_cases state : full.state = .awaitingSections
  · cases known : full.slots.find? (·.id == other) with
    | none =>
      rw [handle_of_absent known]
      exact alone
    | some sender =>
      have wire : (sender.id, sender.role) ∈ full.wiring := mem_wiring (List.mem_of_find?_eq_some known)
      have number : sender.id = other := by simpa using List.find?_some known
      have another_role : sender.role ≠ role := fun same =>
        different (number.symm.trans ((wired.paired _ wire _ chosen).mpr same))
      rw [handle_of_known state known]
      refine ⟨?_, ?_, alone.ended⟩
      · simp only [slots_settle, slots_read, List.map_map]
        rw [alone.slots]
        exact List.map_congr_left fun twin _ => (untouched_settled_of_ne different _ twin).symm
      · simp only [view_settle]
        rw [view_read_of_ne another_role full (suits sender.role (number ▸ wire))]
        exact alone.view
  · rw [handle_of_not_awaiting state]
    exact alone

theorem awaits (alone : Alone filter role full own) (wired : full.Wired)
    (state : full.state = .awaitingSections) : own.state = .awaitingSections := by
  refine alone.ended.resolve_right fun terminal => ?_
  obtain ⟨slot, present, lacking⟩ := wired.lacking state
  have twin := terminal (untouched filter slot) (by rw [alone.slots]; exact List.mem_map_of_mem present)
  unfold untouched at twin
  split at twin
  · rw [lacking] at twin
    cases twin
  · cases twin

theorem find?_slots (alone : Alone filter role full own) {test : FilterSlot → Bool}
    (blind : ∀ slot, test (untouched filter slot) = test slot) :
    own.slots.find? test = (full.slots.find? test).map (untouched filter) := by
  rw [alone.slots, List.find?_map, show test ∘ untouched filter = test from funext blind]

theorem filterStatus?_eq (alone : Alone filter role full own) (wired : full.Wired)
    (chosen : (filter, role) ∈ full.wiring) : full.filterStatus? role = own.filterStatus? role := by
  unfold filterStatus? slotOf?
  rw [alone.find?_slots (by simp)]
  cases found : full.slots.find? (·.role == role) with
  | none => rfl
  | some first =>
    have wire : (first.id, first.role) ∈ full.wiring := mem_wiring (List.mem_of_find?_eq_some found)
    have named : first.role = role := by simpa using List.find?_some found
    have number : first.id = filter := (wired.paired _ wire _ chosen).mpr named
    simp only [Option.map_some, untouched_of_eq number]

theorem of_own (alone : Alone filter role full own) (wired : full.Wired)
    (chosen : (filter, role) ∈ full.wiring) {delivery : Delivery} (suits : delivery.Suits role)
    (state : full.state = .awaitingSections) :
    Alone filter role (full.handle filter delivery).1 (own.handle filter delivery).1 := by
  obtain ⟨slot, present, shape⟩ := List.mem_map.mp chosen
  cases known : full.slots.find? (·.id == filter) with
  | none =>
    have number : slot.id = filter := congrArg Prod.fst shape
    exact absurd (beq_iff_eq.mpr number) (List.find?_eq_none.mp known slot present)
  | some sender =>
    have wire : (sender.id, sender.role) ∈ full.wiring := mem_wiring (List.mem_of_find?_eq_some known)
    have number : sender.id = filter := by simpa using List.find?_some known
    have named : sender.role = role := (wired.paired _ wire _ chosen).mp number
    have twin : own.slots.find? (·.id == filter) = some sender := by
      rw [alone.find?_slots (by simp), known, Option.map_some, untouched_of_eq number]
    obtain ⟨views, answers⟩ := read_of_view alone.view (alone.filterStatus?_eq wired chosen) suits
    rw [handle_of_known state known, handle_of_known (alone.awaits wired state) twin, named]
    simp only [answers]
    refine ⟨?_, views, ?_⟩
    · simp only [slots_settle, slots_read, alone.slots, List.map_map]
      exact List.map_congr_left fun slot _ => (untouched_settled filter _ slot).symm
    · rw [state_settle, state_read]
      split
      next terminal => exact .inr (by simpa using terminal)
      next => exact .inl (alone.awaits wired state)

end Alone

/-! ## All deliveries of a channel -/

def handleAll (channel : Channel) (events : List (FilterId × Delivery)) : Channel :=
  events.foldl (fun channel event => (channel.handle event.1 event.2).1) channel

def AwaitsAll : Channel → List (FilterId × Delivery) → Prop
  | _, [] => True
  | channel, event :: rest =>
    channel.state = .awaitingSections ∧ (channel.handle event.1 event.2).1.AwaitsAll rest

instance decidableAwaitsAll :
    (channel : Channel) → (events : List (FilterId × Delivery)) → Decidable (channel.AwaitsAll events)
  | _, [] => .isTrue trivial
  | channel, event :: rest =>
    have := decidableAwaitsAll (channel.handle event.1 event.2).1 rest
    inferInstanceAs (Decidable (_ ∧ _))

def statusOf? (channel : Channel) (filter : FilterId) : Option FilterStatus :=
  (channel.slots.find? (·.id == filter)).map (·.status)

theorem Alone.handleAll {filter : FilterId} {role : TableRole} {full own : Channel}
    {events : List (FilterId × Delivery)} (alone : Alone filter role full own) (wired : full.Wired)
    (chosen : (filter, role) ∈ full.wiring) (awaits : full.AwaitsAll events)
    (suits : ∀ event ∈ events, ∀ role, (event.1, role) ∈ full.wiring → event.2.Suits role) :
    Alone filter role (full.handleAll events) (own.handleAll (events.filter (·.1 == filter))) := by
  -- on the deliveries, with both channels: a delivery of another filter is made to the first one only
  induction events generalizing full own with
  | nil => exact alone
  | cons event rest ih =>
    obtain ⟨sender, delivery⟩ := event
    obtain ⟨state, later⟩ := awaits
    have wired' := wired.handle sender delivery
    have chosen' : (filter, role) ∈ (full.handle sender delivery).1.wiring := by
      rw [wiring_handle]
      exact chosen
    have suits' : ∀ event ∈ rest, ∀ role,
        (event.1, role) ∈ (full.handle sender delivery).1.wiring → event.2.Suits role := by
      rw [wiring_handle]
      exact fun event member => suits event (List.mem_cons_of_mem _ member)
    have now := suits (sender, delivery) List.mem_cons_self
    by_cases same : sender = filter
    · subst same
      rw [List.filter_cons_of_pos (by simp)]
      exact ih (alone.of_own wired chosen (now role chosen) state) wired' chosen' later suits'
    · rw [List.filter_cons_of_neg (by simpa using same)]
      exact ih (alone.of_other wired chosen same now) wired' chosen' later suits'

theorem Alone.statusOf?_eq {filter : FilterId} {role : TableRole} {full own : Channel}
    (alone : Alone filter role full own) : full.statusOf? filter = own.statusOf? filter := by
  unfold statusOf?
  rw [alone.find?_slots (by simp)]
  cases found : full.slots.find? (·.id == filter) with
  | none => rfl
  | some slot =>
    have number : slot.id = filter := by simpa using List.find?_some found
    simp only [Option.map_some, untouched_of_eq number]

theorem statusOf?_handle_of_ne {filter other : FilterId} (different : other ≠ filter)
    (channel : Channel) (delivery : Delivery) :
    (channel.handle other delivery).1.statusOf? filter = channel.statusOf? filter := by
  obtain dropped | ⟨networks, bouquets, services, status, found, read⟩ :=
    channel.handle_cases other delivery
  · rw [dropped]
  · rw [read]
    have blind : (fun slot : FilterSlot => slot.id == filter) ∘ settled other status =
        fun slot => slot.id == filter := by
      funext slot
      simp
    unfold statusOf?
    simp only [slots_settle, List.find?_map, blind]
    cases known : channel.slots.find? (·.id == filter) with
    | none => rfl
    | some slot =>
      have number : slot.id = filter := by simpa using List.find?_some known
      have elsewhere : slot.id ≠ other := fun same => different (same.symm.trans number)
      simp only [Option.map_some, settled_of_ne elsewhere]

theorem wiring_handleAll (channel : Channel) (events : List (FilterId × Delivery)) :
    (channel.handleAll events).wiring = channel.wiring := by
  induction events generalizing channel with
  | nil => rfl
  | cons event rest ih => exact (ih _).trans (channel.wiring_handle event.1 event.2)

theorem statusOf?_eq_none {channel : Channel} {filter : FilterId}
    (unknown : ∀ role, (filter, role) ∉ channel.wiring) : channel.statusOf? filter = none := by
  unfold statusOf?
  rw [Option.map_eq_none_iff, List.find?_eq_none]
  intro slot present same
  exact unknown slot.role (beq_iff_eq.mp same ▸ mem_wiring present)

/-! ## From the start of a channel -/

/-- What each filter delivers is of the table that it was opened for. -/
def Fits (opened : List (FilterId × FilterRequest)) (events : List (FilterId × Delivery)) : Prop :=
  ∀ event ∈ events, ∀ entry ∈ opened, entry.1 = event.1 → event.2.isOf entry.2.tableId = true

instance (opened : List (FilterId × FilterRequest)) (events : List (FilterId × Delivery)) :
    Decidable (Fits opened events) :=
  inferInstanceAs (Decidable (∀ event ∈ events, ∀ entry ∈ opened, entry.1 = event.1 →
    event.2.isOf entry.2.tableId = true))

theorem wired_start {channel : Channel} (roles : (channel.filters.map (·.role)).Nodup)
    (receiver : Receiver) (history : List Call) : (channel.start receiver history).1.Wired := by
  obtain ⟨opening, -, opened⟩ := channel.start_spec receiver history
  have state := channel.state_start receiver history
  generalize (channel.start receiver history).1 = started at opened state
  have numbers : (started.wiring.map Prod.fst).Nodup := by
    unfold wiring
    rw [List.map_map]
    exact opened.ordered.imp Nat.ne_of_lt
  have names : (started.wiring.map Prod.snd).Nodup := by
    unfold wiring
    rw [List.map_map]
    exact opened.roles.nodup roles
  refine ⟨fun first there second present => ⟨fun same => ?_, fun same => ?_⟩, fun awaiting => ?_⟩
  · rw [List.inj_on_of_nodup_map numbers there present same]
  · rw [List.inj_on_of_nodup_map names there present same]
  · cases shape : started.slots with
    | nil =>
      rw [state, shape] at awaiting
      cases awaiting
    | cons slot rest =>
      have fresh := opened.fresh slot (by rw [shape]; exact List.mem_cons_self)
      exact ⟨slot, List.mem_cons_self, by rw [fresh.2]; rfl⟩

theorem alone_start (channel : Channel) (receiver : Receiver) (history : List Call)
    (filter : FilterId) (role : TableRole) :
    Alone filter role (channel.start receiver history).1 (channel.start receiver history).1 := by
  obtain ⟨opening, -, opened⟩ := channel.start_spec receiver history
  have state := channel.state_start receiver history
  generalize (channel.start receiver history).1 = started at opened state
  have blank : ∀ slot ∈ started.slots, untouched filter slot = id slot := by
    intro slot present
    obtain ⟨opened, status⟩ := opened.fresh slot present
    unfold untouched
    split
    · rfl
    · cases slot
      cases opened
      cases status
      rfl
  refine ⟨((List.map_congr_left blank).trans (List.map_id _)).symm, rfl, ?_⟩
  cases shape : started.slots with
  | nil => exact .inr nofun
  | cons slot rest =>
    rw [shape] at state
    exact .inl state

theorem suits_of_fits {channel : Channel} {receiver : Receiver} {history : List Call}
    (kinds : ∀ spec ∈ channel.filters, ∀ isActual, spec.role.service? = some isActual →
      ServiceTableReader.isActual? spec.tableId = some isActual)
    {events : List (FilterId × Delivery)}
    (fits : Fits (Call.opened (channel.start receiver history).2.1) events) :
    ∀ event ∈ events, ∀ role, (event.1, role) ∈ (channel.start receiver history).1.wiring →
      event.2.Suits role := by
  obtain ⟨opening, made, opened⟩ := channel.start_spec receiver history
  rw [made, Call.opened_append, opened_cancel, List.nil_append] at fits
  intro event member role wire
  obtain ⟨slot, present, shape⟩ := List.mem_map.mp wire
  obtain ⟨number, named⟩ := Prod.mk.inj shape
  have issued : slot.id ∈ Call.openedFilters opening := by
    rw [opened.filters]
    exact List.mem_map_of_mem present
  obtain ⟨⟨filter, request⟩, chosen, same⟩ := List.mem_map.mp issued
  cases same
  obtain ⟨spec, listed, own, table⟩ := opened.tables slot present request chosen
  intro isActual bytes whole kind given framing
  have known := fits event member _ chosen number
  rw [given] at known
  simp only [Delivery.isOf, framing, Except.toOption, Option.all_some, beq_iff_eq] at known
  rw [known, ← table]
  refine kinds spec listed isActual ?_
  rw [own, named]
  exact kind

end Channel

/-- Whatever the decoders are, a platform has the same filters. -/
theorem Platform.filters_ofKind [HanDecoders] (kind : PlatformKind) :
    (Platform.ofKind kind).filters = (@Platform.ofKind HanDecoders.ascii kind).filters := by
  cases kind <;> rfl

theorem Platform.roles_nodup [HanDecoders] (kind : PlatformKind) :
    ((Platform.ofKind kind).filters.map (·.role)).Nodup := by
  rw [filters_ofKind]
  cases kind <;> decide

theorem Platform.isActual?_of_role [HanDecoders] (kind : PlatformKind) :
    ∀ spec ∈ (Platform.ofKind kind).filters, ∀ isActual, spec.role.service? = some isActual →
      ServiceTableReader.isActual? spec.tableId = some isActual := by
  rw [filters_ofKind]
  cases kind <;> decide

namespace Channel

theorem statusOf?_handleAll [HanDecoders] {kind : PlatformKind} {channel : Channel}
    (platform : channel.filters = (Platform.ofKind kind).filters) {receiver : Receiver}
    {history : List Call} {events : List (FilterId × Delivery)}
    (awaits : (channel.start receiver history).1.AwaitsAll events)
    (fits : Fits (Call.opened (channel.start receiver history).2.1) events) (filter : FilterId) :
    ((channel.start receiver history).1.handleAll events).statusOf? filter =
      ((channel.start receiver history).1.handleAll (events.filter (·.1 == filter))).statusOf?
        filter := by
  have wired := wired_start (platform ▸ Platform.roles_nodup kind) receiver history
  have suits := suits_of_fits (platform ▸ Platform.isActual?_of_role kind) fits
  by_cases known : ∃ role, (filter, role) ∈ (channel.start receiver history).1.wiring
  · obtain ⟨role, chosen⟩ := known
    have alone := channel.alone_start receiver history filter role
    exact (alone.handleAll wired chosen awaits suits).statusOf?_eq
  · have unknown := not_exists.mp known
    rw [statusOf?_eq_none (by rw [wiring_handleAll]; exact unknown),
      statusOf?_eq_none (by rw [wiring_handleAll]; exact unknown)]

/-- On every platform, with any of the filters open, each filter comes to the status that its own deliveries
give it when they come alone, so long as all are made while sections are awaited and sections are of the
tables that the filters are for. So two orders of deliveries that are the same to every filter leave every
filter with the same status, and whatever one filter delivers, the status of each other filter stays. -/
theorem filters_isolated [HanDecoders] (kind : PlatformKind) (channel : Channel)
    (platform : channel.filters = (Platform.ofKind kind).filters) (receiver : Receiver)
    (history : List Call) :
    let started := (channel.start receiver history).1
    let opened := Call.opened (channel.start receiver history).2.1
    (∀ events, started.AwaitsAll events → Fits opened events → ∀ filter,
      (started.handleAll events).statusOf? filter =
        (started.handleAll (events.filter (·.1 == filter))).statusOf? filter) ∧
    (∀ first second, started.AwaitsAll first → Fits opened first → started.AwaitsAll second →
      Fits opened second →
      (∀ filter, first.filter (·.1 == filter) = second.filter (·.1 == filter)) → ∀ filter,
        (started.handleAll first).statusOf? filter = (started.handleAll second).statusOf? filter) ∧
    (∀ events other delivery filter, other ≠ filter →
      (started.handleAll (events ++ [(other, delivery)])).statusOf? filter =
        (started.handleAll events).statusOf? filter) := by
  refine ⟨fun events awaits fits filter => statusOf?_handleAll platform awaits fits filter, ?_, ?_⟩
  · intro first second awaits fits awaits' fits' same filter
    rw [statusOf?_handleAll platform awaits fits, statusOf?_handleAll platform awaits' fits', same filter]
  · intro events other delivery filter different
    unfold handleAll
    rw [List.foldl_append]
    exact statusOf?_handle_of_ne different _ delivery

open scoped HanDecoders

theorem filters_isolated_of_three :
    let channel := Channel.new .standard 5000
    let started := (channel.start .willing []).1
    let events : List (FilterId × Delivery) :=
      [(2, .bytes [0x42, 0xF0, 0x11, 0x10, 0x04, 0xC1, 0x00, 0x00, 0x00, 0x01, 0xFF, 0x00, 0x65, 0xFC,
        0x80, 0x00, 0x00, 0x00, 0x00, 0x00]), (1, .bytes [0x40]), (3, .stopped)]
    (started.AwaitsAll events ∧ Fits (Call.opened (channel.start .willing []).2.1) events) ∧
      (started.handleAll events).statusOf? 2 =
        (started.handleAll (events.filter (·.1 == 2))).statusOf? 2 := by
  intro channel started events
  have awaits : started.AwaitsAll events := by decide +kernel
  have fits : Fits (Call.opened (channel.start .willing []).2.1) events := by decide +kernel
  exact ⟨⟨awaits, fits⟩, (filters_isolated .standard channel rfl .willing []).1 events awaits fits 2⟩

end Channel

end DvbScan
