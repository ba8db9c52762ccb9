import DvbScan.Proofs.SectionsHeard

/-!
# A group that was entered

A network or a bouquet of which a section came without being heard is entered all the same, and counts among
those that have to be complete. A channel on which a group was entered does everything as a channel on which it
was not, until the first section of that group comes on either, but while the group lacks sections the filter
of its table is not complete.
-/

namespace DvbScan

/-- Whether all is complete makes a difference only for a filter without a final status, and only with a
section that completes its table or repeats it when it is complete. -/
theorem FilterSlot.update_statusAfter_congr {slot : FilterSlot} {arrival : Arrival} {all : Bool}
    (indifferent : ¬(slot.status.isClosing = false ∧ arrival.isComplete = true ∧ all = true)) :
    slot.update (Channel.statusAfter arrival all slot.status) =
      slot.update (Channel.statusAfter arrival false slot.status) := by
  obtain ⟨id, role, status, isOpen⟩ := slot
  cases all with
  | false => rfl
  | true =>
    cases arrival <;> first
      | rfl
      | (cases status <;> first | rfl | exact absurd ⟨rfl, rfl, rfl⟩ indifferent)

theorem FilterStatus.after_statusAfter_ne {current : FilterStatus} {arrival : Arrival}
    (unsettled : current.isClosing = false) (complete : arrival.isComplete = true) :
    current.after (Channel.statusAfter arrival true current) ≠
      current.after (Channel.statusAfter arrival false current) := by
  revert unsettled complete
  cases current <;> cases arrival <;> decide

namespace Channel

section Entered

variable (channel : Channel) {kind other : NetworkKind} {id another : UInt16}

theorem withProgress_withProgress (former progress : NetworkProgress) :
    (channel.withProgress kind id former).withProgress kind id progress =
      channel.withProgress kind id progress := by
  unfold withProgress
  rw [groups_withGroups, OrderedMap.insert_insert, withGroups_withGroups]

theorem withProgress_comm (different : other = kind → another ≠ id) (former progress : NetworkProgress) :
    (channel.withProgress kind id former).withProgress other another progress =
      (channel.withProgress other another progress).withProgress kind id former := by
  unfold withProgress
  by_cases same : other = kind
  · subst same
    rw [groups_withGroups, groups_withGroups, withGroups_withGroups, withGroups_withGroups,
      OrderedMap.insert_comm (different rfl)]
  · cases kind <;> cases other <;> first | rfl | exact absurd rfl same

theorem enterGroup_withProgress_self (progress : NetworkProgress) :
    (channel.enterGroup kind id).withProgress kind id progress = channel.withProgress kind id progress :=
  channel.withProgress_withProgress _ progress

theorem enterGroup_withProgress_of_ne (different : other = kind → another ≠ id)
    (progress : NetworkProgress) :
    (channel.enterGroup kind id).withProgress other another progress =
      (channel.withProgress other another progress).enterGroup kind id := by
  unfold enterGroup
  have apart : kind = other → id ≠ another := fun same own => different same.symm own.symm
  rw [channel.withProgress_comm different, channel.progress_withProgress_of_ne apart]

theorem get?_groups_withProgress_of_ne (different : other = kind → another ≠ id)
    (progress : NetworkProgress) :
    ((channel.withProgress other another progress).groups kind).get? id = (channel.groups kind).get? id := by
  unfold withProgress
  by_cases same : other = kind
  · subst same
    rw [groups_withGroups, OrderedMap.get?_insert_of_ne (different rfl).symm]
  · rw [groups_withGroups_of_ne channel (Ne.symm same)]

/-! What is read does not depend on the groups that were entered. -/

theorem contents_enterGroup (role : TableRole) (whole : Section) :
    (channel.enterGroup kind id).contents role whole = channel.contents role whole := by
  cases kind <;> rfl

theorem filterStatus?_enterGroup (role : TableRole) :
    (channel.enterGroup kind id).filterStatus? role = channel.filterStatus? role := by
  cases kind <;> rfl

theorem arrivalOf_enterGroup (table : TableRole) (header : SectionHeader) :
    (channel.enterGroup kind id).arrivalOf table header = channel.arrivalOf table header := by
  unfold arrivalOf
  obtain ⟨own, rfl⟩ | ⟨isActual, rfl⟩ := table.ofNetwork_or_ofService
  · rw [trackerFor_ofNetwork, trackerFor_ofNetwork, progress_enterGroup]
  · rw [trackerFor_ofService, trackerFor_ofService]
    unfold enterGroup
    rw [services_withProgress]

theorem state_enterGroup : (channel.enterGroup kind id).state = channel.state := by
  cases kind <;> rfl

theorem slots_enterGroup : (channel.enterGroup kind id).slots = channel.slots := by
  cases kind <;> rfl

theorem settle_enterGroup (filter : FilterId) (status : FilterStatus) :
    (channel.enterGroup kind id).settle filter status =
      ((channel.settle filter status).1.enterGroup kind id, (channel.settle filter status).2) := by
  cases kind <;> rfl

variable {channel} in
theorem isUniform_enterGroup (uniform : channel.IsUniform) : (channel.enterGroup kind id).IsUniform := by
  intro other another
  rw [progress_enterGroup]
  unfold enterGroup
  rw [table_withProgress]
  exact uniform other another

/-! A section of the same group enters it in any case. A section of another group, or of services, leaves it
entered. -/

theorem tracked_enterGroup_self {header : SectionHeader} (own : header.sectionId = id) :
    (channel.enterGroup kind id).tracked (.ofNetwork kind) header =
      channel.tracked (.ofNetwork kind) header := by
  subst own
  rw [tracked_ofNetwork, tracked_ofNetwork, progress_enterGroup, enterGroup_withProgress_self]

theorem enter_enterGroup_self :
    (channel.enterGroup kind id).enter (.ofNetwork kind) id = channel.enter (.ofNetwork kind) id := by
  rw [enter_ofNetwork, enter_ofNetwork]
  change (channel.enterGroup kind id).withProgress kind id ((channel.enterGroup kind id).progress kind id) =
    channel.withProgress kind id (channel.progress kind id)
  rw [progress_enterGroup, enterGroup_withProgress_self]

theorem tracked_enterGroup_of_ne (table : TableRole) (header : SectionHeader)
    (different : table = .ofNetwork kind → header.sectionId ≠ id) :
    (channel.enterGroup kind id).tracked table header =
        (channel.tracked table header).enterGroup kind id ∧
      ((channel.tracked table header).groups kind).get? id = (channel.groups kind).get? id := by
  obtain ⟨own, rfl⟩ | ⟨isActual, rfl⟩ := table.ofNetwork_or_ofService
  · have apart : own = kind → header.sectionId ≠ id := fun same => different (congrArg _ same)
    rw [tracked_ofNetwork, tracked_ofNetwork, progress_enterGroup]
    exact ⟨enterGroup_withProgress_of_ne channel apart _, get?_groups_withProgress_of_ne channel apart _⟩
  · rw [tracked_ofService, tracked_ofService]
    cases kind <;> exact ⟨rfl, rfl⟩

theorem enter_enterGroup_of_ne {role : TableRole} (different : role = .ofNetwork kind → another ≠ id) :
    (channel.enterGroup kind id).enter role another = (channel.enter role another).enterGroup kind id ∧
      ((channel.enter role another).groups kind).get? id = (channel.groups kind).get? id := by
  obtain ⟨own, rfl⟩ | ⟨isActual, rfl⟩ := role.ofNetwork_or_ofService
  · have apart : own = kind → another ≠ id := fun same => different (congrArg _ same)
    rw [enter_ofNetwork, enter_ofNetwork]
    change (channel.enterGroup kind id).withProgress own another
        ((channel.enterGroup kind id).progress own another) =
      (channel.withProgress own another _).enterGroup kind id ∧ _
    rw [progress_enterGroup]
    exact ⟨enterGroup_withProgress_of_ne channel apart _, get?_groups_withProgress_of_ne channel apart _⟩
  · rw [enter_ofService, enter_ofService]
    exact ⟨rfl, rfl⟩

variable {channel}

theorem isAllComplete_enterGroup_self (absent : (channel.groups kind).get? id = none) :
    (channel.enterGroup kind id).isAllComplete (.ofNetwork kind) = false := by
  have blank : (channel.progress kind id).complete = false := by
    unfold progress
    rw [absent]
    rfl
  rw [isAllComplete_ofNetwork, ← Bool.not_eq_true, OrderedMap.all_values_iff_get?]
  intro all
  have entered : ((channel.enterGroup kind id).groups kind).get? id = some (channel.progress kind id) := by
    unfold enterGroup withProgress
    rw [groups_withGroups, OrderedMap.get?_insert_self]
  rw [all id _ entered] at blank
  cases blank

theorem isAllComplete_enterGroup_of_ne {role : TableRole} (different : role ≠ .ofNetwork kind) :
    (channel.enterGroup kind id).isAllComplete role = channel.isAllComplete role := by
  obtain ⟨own, rfl⟩ | ⟨isActual, rfl⟩ := role.ofNetwork_or_ofService
  · rw [isAllComplete_ofNetwork, isAllComplete_ofNetwork]
    unfold enterGroup withProgress
    rw [groups_withGroups_of_ne channel fun same => different (congrArg _ same)]
  · rw [isAllComplete_ofService, isAllComplete_ofService]
    unfold enterGroup
    rw [services_withProgress]

end Entered

def Enters (channel : Channel) (role : TableRole) (id : UInt16) (filter : FilterId)
    (delivery : Delivery) : Prop :=
  channel.state = .awaitingSections ∧ ∃ slot ∈ channel.slots, slot.id = filter ∧ slot.role = role ∧
    ∃ whole, delivery.section? = some whole ∧ whole.header.sectionId = id

/-- A filter of a role without a final status delivers a section that completes its table or repeats it when
it is complete, and with it all is complete. -/
def Concludes (channel : Channel) (role : TableRole) (filter : FilterId) (delivery : Delivery) : Prop :=
  channel.state = .awaitingSections ∧ ∃ slot ∈ channel.slots, slot.id = filter ∧ slot.role = role ∧
    slot.status.isClosing = false ∧ ∃ table header, channel.heardIn role delivery = some (table, header) ∧
      (channel.arrivalOf table header).isComplete = true ∧
      (channel.tracked table header).isAllComplete role = true

variable {channel : Channel} {kind : NetworkKind} {id : UInt16}

theorem read_enterGroup_self (uniform : channel.IsUniform) {delivery : Delivery} {whole : Section}
    (framed : delivery.section? = some whole) (own : whole.header.sectionId = id) :
    (channel.enterGroup kind id).read (.ofNetwork kind) delivery =
      channel.read (.ofNetwork kind) delivery := by
  have entered : (channel.enterGroup kind id).IsUniform := isUniform_enterGroup uniform
  have same : (channel.enterGroup kind id).contents (.ofNetwork kind) whole =
      channel.contents (.ofNetwork kind) whole := contents_enterGroup channel _ whole
  cases content : channel.contents (.ofNetwork kind) whole with
  | error error =>
    rw [content] at same
    rw [read_of_unreadable entered framed same, read_of_unreadable uniform framed content, own,
      enter_enterGroup_self]
  | ok pair =>
    obtain ⟨table, found⟩ := pair
    rw [content] at same
    obtain rfl : table = .ofNetwork kind := (eq_ofNetwork_iff_of_contents content kind).mpr rfl
    rw [read_of_readable entered framed same, read_of_readable uniform framed content,
      tracked_enterGroup_self channel own, arrivalOf_enterGroup, filterStatus?_enterGroup]

/-- Any other delivery is read alike, but to the filter of the group not all is complete. -/
theorem read_enterGroup_of_ne (uniform : channel.IsUniform) (absent : (channel.groups kind).get? id = none)
    {role : TableRole} {delivery : Delivery}
    (different : ∀ whole, delivery.section? = some whole → role = .ofNetwork kind →
      whole.header.sectionId ≠ id) :
    ((channel.read role delivery).1.groups kind).get? id = none ∧
      ∃ status, (channel.enterGroup kind id).read role delivery =
          ((channel.read role delivery).1.enterGroup kind id, status, (channel.read role delivery).2.2) ∧
        ((role = .ofNetwork kind → channel.heardIn role delivery = none) →
          status = (channel.read role delivery).2.1) ∧
        ∀ table header, role = .ofNetwork kind → channel.heardIn role delivery = some (table, header) →
          status = statusAfter (channel.arrivalOf table header) false
              ((channel.filterStatus? role).getD .blank) ∧
            (channel.read role delivery).2.1 = statusAfter (channel.arrivalOf table header)
              ((channel.tracked table header).isAllComplete role)
              ((channel.filterStatus? role).getD .blank) := by
  have entered : (channel.enterGroup kind id).IsUniform := isUniform_enterGroup uniform
  cases framed : delivery.section? with
  | none =>
    have unheard : channel.heardIn role delivery = none := heardIn_of_unframed framed
    obtain ⟨status, -, read⟩ := read_of_unframed framed
    rw [read, read, unheard]
    exact ⟨absent, status, rfl, fun _ => rfl, nofun⟩
  | some whole =>
    have apart := different whole framed
    have same : (channel.enterGroup kind id).contents role whole = channel.contents role whole :=
      contents_enterGroup channel role whole
    cases content : channel.contents role whole with
    | error error =>
      rw [content] at same
      obtain ⟨after, kept⟩ := enter_enterGroup_of_ne channel apart
      rw [read_of_unreadable entered framed same, read_of_unreadable uniform framed content, after,
        heardIn_of_unreadable framed content]
      exact ⟨kept.trans absent, .error, rfl, fun _ => rfl, nofun⟩
    | ok pair =>
      obtain ⟨table, found⟩ := pair
      rw [content] at same
      obtain ⟨after, kept⟩ := tracked_enterGroup_of_ne channel table whole.header
        fun given => apart ((eq_ofNetwork_iff_of_contents content kind).mp given)
      rw [read_of_readable entered framed same, read_of_readable uniform framed content, after,
        arrivalOf_enterGroup, filterStatus?_enterGroup, heardIn_of_readable framed content]
      refine ⟨kept.trans absent, _, rfl, fun elsewhere => ?_, ?_⟩
      · rw [isAllComplete_enterGroup_of_ne fun group => nomatch elsewhere group]
      · rintro _ _ rfl ⟨⟩
        rw [isAllComplete_enterGroup_self (kept.trans absent)]
        exact ⟨rfl, rfl⟩

theorem handle_enterGroup_of_enters (uniform : channel.IsUniform)
    (numbered : (channel.slots.map (·.id)).Nodup) {filter : FilterId} {delivery : Delivery}
    (enters : channel.Enters (.ofNetwork kind) id filter delivery) :
    (channel.enterGroup kind id).handle filter delivery = channel.handle filter delivery := by
  obtain ⟨state, slot, present, rfl, role, whole, framed, own⟩ := enters
  have known := find?_id numbered present
  have known' : (channel.enterGroup kind id).slots.find? (·.id == slot.id) = some slot := by
    rw [slots_enterGroup]
    exact known
  rw [handle_of_known ((state_enterGroup channel).trans state) known', handle_of_known state known, role,
    read_enterGroup_self uniform framed own]

/-- Any other delivery is handled alike unless it concludes the filter of the group, which is then given
another status. -/
theorem handle_enterGroup_of_ne (uniform : channel.IsUniform) (wired : channel.Wired)
    (numbered : (channel.slots.map (·.id)).Nodup) (absent : (channel.groups kind).get? id = none)
    {filter : FilterId} {delivery : Delivery}
    (other : ¬channel.Enters (.ofNetwork kind) id filter delivery) :
    ((channel.handle filter delivery).1.groups kind).get? id = none ∧
      (¬channel.Concludes (.ofNetwork kind) filter delivery →
        (channel.enterGroup kind id).handle filter delivery =
          ((channel.handle filter delivery).1.enterGroup kind id, (channel.handle filter delivery).2)) ∧
      (channel.Concludes (.ofNetwork kind) filter delivery →
        ((channel.enterGroup kind id).handle filter delivery).1.slots.map (·.status) ≠
          (channel.handle filter delivery).1.slots.map (·.status)) := by
  have state' : (channel.enterGroup kind id).state = channel.state := state_enterGroup channel
  have slots' : (channel.enterGroup kind id).slots = channel.slots := slots_enterGroup channel
  by_cases taken : channel.state = .awaitingSections ∧ ∃ slot ∈ channel.slots, slot.id = filter
  · obtain ⟨state, slot, present, rfl⟩ := taken
    have known := find?_id numbered present
    have current : (channel.filterStatus? slot.role).getD .blank = slot.status := by
      rw [wired.filterStatus?_eq numbered present]
      rfl
    have different : ∀ whole, delivery.section? = some whole → slot.role = .ofNetwork kind →
        whole.header.sectionId ≠ id := fun whole framed role own =>
      other ⟨state, slot, present, rfl, role, whole, framed, own⟩
    obtain ⟨kept, status, read, alike, apart⟩ := read_enterGroup_of_ne uniform absent different
    rw [current] at apart
    rw [handle_of_known state known, handle_of_known (state'.trans state) (slots' ▸ known), read]
    simp only [settle_enterGroup, slots_enterGroup]
    refine ⟨?_, fun indifferent => ?_, ?_⟩
    · cases kind <;> exact kept
    · rw [settle_congr fun twin there number => ?_]
      rw [slots_read] at there
      rw [List.inj_on_of_nodup_map numbered there present number]
      by_cases heard : slot.role = .ofNetwork kind → channel.heardIn slot.role delivery = none
      · rw [alike heard]
      · obtain ⟨role, brings⟩ := Classical.not_imp.mp heard
        obtain ⟨⟨table, header⟩, brought⟩ := Option.ne_none_iff_exists'.mp brings
        obtain ⟨without, given⟩ := apart table header role brought
        rw [without, given]
        refine (FilterSlot.update_statusAfter_congr ?_).symm
        rintro ⟨unsettled, complete, all⟩
        rw [role] at brought all
        exact indifferent
          ⟨state, slot, present, rfl, role, unsettled, table, header, brought, complete, all⟩
    · rintro ⟨-, twin, there, number, role, unsettled, table, header, heard, complete, all⟩ same
      rw [List.inj_on_of_nodup_map numbered there present number] at role unsettled
      rw [← role] at heard all
      obtain ⟨without, given⟩ := apart table header role heard
      rw [slots_settle, slots_settle, slots_read, List.map_map, List.map_map] at same
      have statuses := List.map_inj_left.mp same slot present
      simp only [Function.comp_apply, settled, if_pos, FilterSlot.status_update] at statuses
      rw [without, given, all] at statuses
      exact FilterStatus.after_statusAfter_ne unsettled complete statuses.symm
  · have taken' : ¬((channel.enterGroup kind id).state = .awaitingSections ∧
        ∃ slot ∈ (channel.enterGroup kind id).slots, slot.id = filter) := by
      rw [state', slots']
      exact taken
    rw [handle_of_not_taken taken, handle_of_not_taken taken']
    refine ⟨absent, fun _ => rfl, ?_⟩
    rintro ⟨state, slot, present, number, -⟩
    exact absurd ⟨state, slot, present, number⟩ taken

end Channel

end DvbScan
