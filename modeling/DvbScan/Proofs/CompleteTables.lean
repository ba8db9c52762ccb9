import DvbScan.Proofs.SectionsHeard

/-!
# What a complete filter has

The status of a filter is decided when a section arrives, and is not looked at again when a later section of
the same filter says that a table is longer than was known. So a filter that is complete has, of every table
that it has heard of, all sections that were known of when the last new one arrived. It has all that are known
of now exactly if no repeat has told of more.
-/

namespace DvbScan

namespace FilterStatus

theorem isSuccess_of_after_failure {current given : FilterStatus}
    (failure : given = .error ∨ given = .stopped) (success : (current.after given).isSuccess = true) :
    current.isSuccess = true := by
  revert success
  rcases failure with rfl | rfl <;> cases current <;> decide

/-- With a section, a filter without a final status is complete only if all is, or if it was complete and the
section is no news. -/
theorem allComplete_of_success {current : FilterStatus} {arrival : Arrival} {all : Bool}
    (unsettled : current.isClosing = false)
    (success : (current.after (Channel.statusAfter arrival all current)).isSuccess = true) :
    all = true ∨ current.isSuccess = true ∧ arrival.isFresh = false := by
  revert unsettled success
  cases current <;> cases arrival <;> cases all <;> decide

end FilterStatus

namespace Channel

variable {channel : Channel} {sections : List (TableRole × SectionHeader)}

def OnlyOpen : Channel → List (FilterId × Delivery) → Prop
  | _, [] => True
  | channel, event :: rest =>
    (∀ slot ∈ channel.slots, slot.id = event.1 → slot.isOpen = true) ∧
      (channel.handle event.1 event.2).1.OnlyOpen rest

instance decidableOnlyOpen :
    (channel : Channel) → (events : List (FilterId × Delivery)) → Decidable (channel.OnlyOpen events)
  | _, [] => .isTrue trivial
  | channel, event :: rest =>
    have := decidableOnlyOpen (channel.handle event.1 event.2).1 rest
    inferInstanceAs (Decidable (_ ∧ _))

theorem onlyOpen_concat {events : List (FilterId × Delivery)} {event : FilterId × Delivery} :
    channel.OnlyOpen (events ++ [event]) ↔ channel.OnlyOpen events ∧
      ∀ slot ∈ (channel.handleAll events).slots, slot.id = event.1 → slot.isOpen = true := by
  induction events generalizing channel with
  | nil => exact and_comm
  | cons first rest ih =>
    change _ ∧ (channel.handle first.1 first.2).1.OnlyOpen (rest ++ [event]) ↔ _
    rw [ih, ← and_assoc]
    rfl

/-- No filter of another role brings a section of the table of a role. -/
def Unmixed (role : TableRole) : Channel → List (FilterId × Delivery) → Prop
  | _, [] => True
  | channel, event :: rest =>
    (∀ slot ∈ channel.slots, slot.id = event.1 → slot.role ≠ role →
      ∀ heard ∈ channel.heardIn slot.role event.2, heard.1 ≠ role) ∧
        (channel.handle event.1 event.2).1.Unmixed role rest

theorem unmixed_concat {role : TableRole} {events : List (FilterId × Delivery)}
    {event : FilterId × Delivery} :
    channel.Unmixed role (events ++ [event]) ↔ channel.Unmixed role events ∧
      ∀ slot ∈ (channel.handleAll events).slots, slot.id = event.1 → slot.role ≠ role →
        ∀ heard ∈ (channel.handleAll events).heardIn slot.role event.2, heard.1 ≠ role := by
  induction events generalizing channel with
  | nil => exact and_comm
  | cons first rest ih =>
    change _ ∧ (channel.handle first.1 first.2).1.Unmixed role (rest ++ [event]) ↔ _
    rw [ih, ← and_assoc]
    rfl

theorem unmixed_ofNetwork (channel : Channel) (kind : NetworkKind)
    (events : List (FilterId × Delivery)) : channel.Unmixed (.ofNetwork kind) events := by
  induction events generalizing channel with
  | nil => trivial
  | cons event rest ih =>
    refine ⟨fun slot _ _ different heard brought same => ?_, ih _⟩
    obtain ⟨whole, found, -, content⟩ := contents_of_heardIn brought
    exact different ((eq_ofNetwork_iff_of_contents content kind).mp same)

theorem sender_of_heardOn {filter : FilterId} {delivery : Delivery} {heard : TableRole × SectionHeader}
    (member : heard ∈ channel.heardOn filter delivery) :
    channel.state = .awaitingSections ∧ ∃ sender ∈ channel.slots, sender.id = filter ∧
      channel.heardIn sender.role delivery = some heard := by
  by_cases state : channel.state = .awaitingSections
  · cases known : channel.slots.find? (·.id == filter) with
    | none =>
      rw [heardOn_of_unknown known] at member
      cases member
    | some sender =>
      rw [heardOn_of_known state known, Option.mem_toList] at member
      have number : sender.id = filter := by simpa using List.find?_some known
      exact ⟨state, sender, List.mem_of_find?_eq_some known, number, member⟩
  · rw [heardOn_of_not_awaiting state] at member
    cases member

/-- Every table of a complete filter of a role was full when its last new section arrived. -/
def Sound (role : TableRole) (channel : Channel) (sections : List (TableRole × SectionHeader)) : Prop :=
  ∀ slot ∈ channel.slots, slot.role = role → slot.status.isSuccess = true →
    ∀ id past, historyOf role sections id = some past → past.WasFull

theorem Recalls.wasFull_of_stale (recalls : channel.Recalls sections) {role table : TableRole}
    {header : SectionHeader} (stale : (channel.arrivalOf table header).isFresh = false)
    (full : ∀ id past, historyOf role sections id = some past → past.WasFull) {id : UInt16}
    {past : TableHistory} (known : historyOf role (sections ++ [(table, header)]) id = some past) :
    past.WasFull := by
  by_cases own : table = role
  · subst own
    have heard : (historyOf table sections).accepts header = true →
        (historyOf table sections).Heard header := by
      intro counts
      by_contra new
      rw [recalls.isFresh_arrivalOf_iff.mpr ⟨counts, new⟩] at stale
      cases stale
    have related := TrackerHistory.wasFull_record_of_stale heard id
    rw [← historyOf_concat_self, known] at related
    generalize earlier : historyOf table sections id = before at related
    cases related with
    | some kept => exact kept.mpr (full id _ earlier)
  · rw [historyOf_concat_of_ne own] at known
    exact full id past known

/-- The filter that delivers is complete after it only if its tables were full. -/
theorem Sound.read {role : TableRole} (sound : channel.Sound role sections)
    (recalls : channel.Recalls sections) (wired : channel.Wired)
    (numbered : (channel.slots.map (·.id)).Nodup) {slot : FilterSlot} (present : slot ∈ channel.slots)
    (own : slot.role = role) (unsettled : slot.status.isClosing = false) {delivery : Delivery}
    (success : (slot.status.after (channel.read role delivery).2.1).isSuccess = true) {id : UInt16}
    {past : TableHistory}
    (known : historyOf role (sections ++ (channel.heardIn role delivery).toList) id = some past) :
    past.WasFull := by
  obtain ⟨unframed, status, failure, read⟩ | ⟨whole, error, framed, content, read⟩ |
    ⟨whole, table, found, framed, content, read⟩ := read_cases recalls.uniform role delivery
  · rw [read] at success
    rw [heardIn_of_unframed unframed, Option.toList_none, List.append_nil] at known
    exact sound slot present own (FilterStatus.isSuccess_of_after_failure failure success) id past known
  · rw [read] at success
    rw [heardIn_of_unreadable framed content, Option.toList_none, List.append_nil] at known
    exact sound slot present own (FilterStatus.isSuccess_of_after_failure (.inl rfl) success) id past known
  · rw [read, ← own, wired.filterStatus?_eq numbered present] at success
    rw [heardIn_of_readable framed content, Option.toList_some] at known
    obtain all | ⟨former, stale⟩ := FilterStatus.allComplete_of_success unsettled success
    · rw [own] at all
      exact (recalls.tracked table whole.header).wasFull_of_isAllComplete all known
    · exact recalls.wasFull_of_stale stale (sound slot present own former) known

theorem Sound.handle {role : TableRole} (sound : channel.Sound role sections)
    (recalls : channel.Recalls sections) (wired : channel.Wired)
    (numbered : (channel.slots.map (·.id)).Nodup) (shut : ∀ slot ∈ channel.slots, slot.IsShut)
    {filter : FilterId} {delivery : Delivery}
    (isOpen : ∀ slot ∈ channel.slots, slot.id = filter → slot.isOpen = true)
    (unmixed : ∀ slot ∈ channel.slots, slot.id = filter → slot.role ≠ role →
      ∀ heard ∈ channel.heardIn slot.role delivery, heard.1 ≠ role) :
    (channel.handle filter delivery).1.Sound role (sections ++ channel.heardOn filter delivery) := by
  intro slot present given success id past known
  obtain ⟨before, listed, -, same⟩ := mem_slots_handle numbered present
  subst same
  unfold slotAfter at given success
  split at success
  next own =>
    obtain ⟨state, rfl⟩ := own
    rw [if_pos ⟨state, rfl⟩, FilterSlot.role_update] at given
    rw [heardOn_of_known state (find?_id numbered listed), given] at known
    rw [FilterSlot.status_update, given] at success
    have unsettled : before.status.isClosing = false := by
      by_contra final
      rw [Bool.not_eq_false] at final
      have closed := shut before listed final
      rw [isOpen before listed rfl] at closed
      cases closed
    exact sound.read recalls wired numbered listed given unsettled success known
  next elsewhere =>
    rw [if_neg elsewhere] at given
    rw [historyOf_append_of_ne] at known
    · exact sound before listed given success id past known
    · intro heard member
      obtain ⟨state, sender, there, number, brought⟩ := sender_of_heardOn member
      refine unmixed sender there number ?_ heard brought
      -- two filters of one role would be one filter
      intro role
      have wires := wired.paired _ (mem_wiring there) _ (mem_wiring listed)
      exact elsewhere ⟨state, (wires.mpr (role.trans given.symm)).symm.trans number⟩

theorem sound_handleAll {channel : Channel} (roles : (channel.filters.map (·.role)).Nodup)
    (receiver : Receiver) (history : List Call) {role : TableRole} {events : List (FilterId × Delivery)}
    (onlyOpen : (channel.start receiver history).1.OnlyOpen events)
    (unmixed : (channel.start receiver history).1.Unmixed role events) :
    ((channel.start receiver history).1.handleAll events).Sound role
      ((channel.start receiver history).1.heardAll events) := by
  induction events using List.reverseRecOn with
  | nil =>
    intro slot _ _ _ id past known
    cases known
  | append_singleton events event ih =>
    rw [onlyOpen_concat] at onlyOpen
    rw [unmixed_concat] at unmixed
    rw [handleAll_append, heardAll_concat]
    exact Sound.handle (ih onlyOpen.1 unmixed.1) (channel.recalls_handleAll receiver history events)
      ((wired_start roles receiver history).handleAll events)
      (channel.numbered_handleAll receiver history events)
      (channel.isShut_handleAll receiver history events) onlyOpen.2 unmixed.2

/-- On every platform, when no filter delivers anything after it was closed, a filter that is complete had
every section that was known of, of each table that it has heard of, when the last new one arrived. Such a
table is complete now exactly if no repeat has made it longer. Of services that is so if their sections come on
the filter for them. -/
theorem complete_tables [HanDecoders] (kind : PlatformKind) (channel : Channel)
    (platform : channel.filters = (Platform.ofKind kind).filters) (receiver : Receiver)
    (history : List Call) (events : List (FilterId × Delivery)) :
    let started := (channel.start receiver history).1
    let reached := started.handleAll events
    started.OnlyOpen events →
    ∀ slot ∈ reached.slots, slot.status.isSuccess = true →
      (∀ isActual, slot.role = .ofService isActual → started.Unmixed slot.role events) →
      ∀ id past, historyOf slot.role (started.heardAll events) id = some past →
        past.WasFull ∧
          ((reached.trackerFor slot.role id).isTableComplete id = true ↔ past.size = past.sizeAtNews) := by
  intro started reached onlyOpen slot present success services id past known
  have roles : (channel.filters.map (·.role)).Nodup := platform ▸ Platform.roles_nodup kind
  have unmixed : started.Unmixed slot.role events := by
    obtain ⟨group, role⟩ | ⟨isActual, role⟩ := slot.role.ofNetwork_or_ofService
    · rw [role]
      exact unmixed_ofNetwork started group events
    · exact services isActual role
  have full : past.WasFull :=
    sound_handleAll roles receiver history onlyOpen unmixed slot present rfl success id past known
  refine ⟨full, ?_⟩
  rw [(channel.recalls_handleAll receiver history events).isTableComplete_iff, known, ← full.isFull_iff]
  simp

end Channel

/-! A repeat tells of a section more. -/

namespace LongerTable

open QuietNetwork
open scoped HanDecoders

def events : List (FilterId × Delivery) := [(1, first 1 0 true), (1, first 1 1 true)]

/-- The filter stays complete, though a section of its only table is missing. -/
theorem complete_without_second :
    started.OnlyOpen events ∧
      (started.handleAll events).statusOf? 1 = some .complete ∧
      (started.heardAll events).map (fun heard => (heard.1, heard.2.sectionId)) =
        [(.network, 0x3001), (.network, 0x3001)] ∧
      ((started.handleAll events).trackerFor .network 0x3001).isTableComplete 0x3001 = false := by
  decide +kernel

theorem complete_tables_of_longer :
    let reached := started.handleAll events
    let slot : FilterSlot := ⟨1, .network, .complete, true⟩
    (started.OnlyOpen events ∧ slot ∈ reached.slots) ∧
      ∃ past, historyOf .network (started.heardAll events) 0x3001 = some past ∧ past.WasFull ∧
        ((reached.trackerFor .network 0x3001).isTableComplete 0x3001 = true ↔
          past.size = past.sizeAtNews) := by
  intro reached slot
  have onlyOpen : started.OnlyOpen events := by decide +kernel
  have present : slot ∈ reached.slots := by decide +kernel
  have sections : (historyOf .network (started.heardAll events) 0x3001).isSome = true := by decide +kernel
  obtain ⟨past, known⟩ := Option.isSome_iff_exists.mp sections
  have services : ∀ isActual, TableRole.network = .ofService isActual → started.Unmixed .network events :=
    fun isActual same => absurd same (TableRole.ofNetwork_ne_ofService .network isActual)
  exact ⟨⟨onlyOpen, present⟩, past, known, Channel.complete_tables .standard (.new .standard 5000) rfl
    .willing [] events onlyOpen slot present rfl services 0x3001 past known⟩

end LongerTable

end DvbScan
