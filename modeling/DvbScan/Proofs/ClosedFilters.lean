import DvbScan.Proofs.SectionsHeard

/-!
# Deliveries from closed filters

A filter may have delivered something before it was closed that is taken after it. The channel knows the
filter still, and reads the delivery as it reads any other. What a closed filter delivers is dropped only if
it is no news to the tables and gives the filter no other status. A filter that was closed when its table was
complete can even lose that status, and it then lacks sections for ever.
-/

namespace DvbScan

namespace FilterStatus

theorem after_failure_iff {current given : FilterStatus} (failure : given = .error ∨ given = .stopped) :
    current.after given = current ↔ current.isTerminal = true := by
  rcases failure with rfl | rfl <;> cases current <;> decide

/-- A section that is no news gives a filter another status if it confirms that all is complete, or is
numbered beyond the last one while the filter lacks sections. -/
theorem after_statusAfter_iff {current : FilterStatus} {arrival : Arrival} (stale : arrival.isFresh = false)
    (all : Bool) :
    current.after (Channel.statusAfter arrival all current) = current ↔
      ¬(current.isClosing = false ∧ arrival = .repeatedComplete ∧ all = true) ∧
        ¬(current.isTerminal = false ∧ arrival = .outOfRange) := by
  cases arrival with
  | new => cases stale
  | completing => cases stale
  | repeated => cases current <;> cases all <;> decide
  | repeatedComplete => cases current <;> cases all <;> decide
  | outdated => cases current <;> cases all <;> decide
  | notYetCurrent => cases current <;> cases all <;> decide
  | outOfRange => cases current <;> cases all <;> decide

theorem lacking_of_after {current given : FilterStatus} (lacking : (current.after given).isTerminal = false)
    (enough : current.isTerminal = true) : current = .complete ∧ given = .ok := by
  revert lacking enough
  cases current <;> cases given <;> decide

theorem eq_ok_of_statusAfter {arrival : Arrival} {all : Bool}
    (given : Channel.statusAfter arrival all .complete = .ok) : arrival.isFresh = true := by
  cases arrival <;> cases all <;> first | rfl | cases given

end FilterStatus

namespace Channel

variable {channel : Channel} {sections : List (TableRole × SectionHeader)} {slot : FilterSlot}
  {delivery : Delivery}

theorem handle_eq_self_iff (wired : channel.Wired) (numbered : (channel.slots.map (·.id)).Nodup)
    (state : channel.state = .awaitingSections) (present : slot ∈ channel.slots)
    (closed : slot.isOpen = false) :
    channel.handle slot.id delivery = (channel, [], []) ↔
      (channel.read slot.role delivery).1 = channel ∧ (channel.read slot.role delivery).2.2 = [] ∧
        slot.status.after (channel.read slot.role delivery).2.1 = slot.status := by
  rw [handle_of_known state (find?_id numbered present)]
  obtain ⟨networks, bouquets, services, tables⟩ := channel.read_fst slot.role delivery
  generalize channel.read slot.role delivery = read at tables
  obtain ⟨after, status, found⟩ := read
  simp only at tables ⊢
  subst tables
  constructor
  · intro same
    obtain ⟨unchanged, rest⟩ := Prod.mk.inj same
    refine ⟨?_, (Prod.mk.inj rest).2, ?_⟩
    · have sameNetworks := congrArg Channel.networks unchanged
      have sameBouquets := congrArg Channel.bouquets unchanged
      have sameServices := congrArg Channel.services unchanged
      cases channel
      cases sameNetworks
      cases sameBouquets
      cases sameServices
      rfl
    · have slots := congrArg Channel.slots unchanged
      rw [slots_settle] at slots
      have own : settled slot.id status slot = slot :=
        List.map_inj_left.mp (slots.trans (List.map_id _).symm) slot present
      unfold settled at own
      rw [if_pos rfl] at own
      exact (FilterSlot.fst_update_eq_self_iff closed status).mp own
  · rintro ⟨tables, rfl, kept⟩
    rw [tables, settle_eq_self (wired.lacking state) fun other there same => ?_]
    rw [List.inj_on_of_nodup_map numbered there present same]
    exact Prod.ext ((FilterSlot.fst_update_eq_self_iff closed status).mpr kept)
      (FilterSlot.snd_update_of_closed closed status)

/-- What a delivery from a closed filter brings that is noticed. -/
inductive Stirs (channel : Channel) (sections : List (TableRole × SectionHeader)) (slot : FilterSlot)
    (delivery : Delivery) : Prop
  /-- The first section of a network or a bouquet, be it one that cannot be read. -/
  | enters {whole : Section} (framed : delivery.section? = some whole)
      (first : ¬channel.HasEntry slot.role whole.header.sectionId)
  /-- A section that counts, and is new or makes its table longer. -/
  | learns {table : TableRole} {header : SectionHeader}
      (heard : channel.heardIn slot.role delivery = some (table, header))
      (news : (historyOf table sections).LearnsFrom header)
  /-- A repeat with which all is complete, for a filter without a final status. -/
  | confirms {table : TableRole} {header : SectionHeader}
      (heard : channel.heardIn slot.role delivery = some (table, header))
      (repeats : channel.arrivalOf table header = .repeatedComplete)
      (all : channel.isAllComplete slot.role = true) (unsettled : slot.status.isClosing = false)
  /-- No section, or one that cannot be read or is numbered beyond the last, for a filter that lacks
  sections. -/
  | fails (lacking : slot.status.isTerminal = false)
      (fault : ∀ heard ∈ channel.heardIn slot.role delivery,
        heard.2.isCurrent = true ∧ heard.2.lastNumber < heard.2.number)

theorem stirs_iff_of_unheard (unheard : channel.heardIn slot.role delivery = none) :
    channel.Stirs sections slot delivery ↔
      (∃ whole, delivery.section? = some whole ∧
        ¬channel.HasEntry slot.role whole.header.sectionId) ∨ slot.status.isTerminal = false := by
  constructor
  · intro stirs
    cases stirs with
    | enters framed first => exact .inl ⟨_, framed, first⟩
    | learns heard news => exact nomatch heard.symm.trans unheard
    | confirms heard repeats all unsettled => exact nomatch heard.symm.trans unheard
    | fails lacking fault => exact .inr lacking
  · rintro (⟨whole, framed, first⟩ | lacking)
    · exact .enters framed first
    · refine .fails lacking ?_
      rw [unheard]
      nofun

theorem Recalls.stirs_iff_of_heard (recalls : channel.Recalls sections) {whole : Section}
    {table : TableRole} {found : List Finding} (framed : delivery.section? = some whole)
    (content : channel.contents slot.role whole = .ok (table, found)) :
    channel.Stirs sections slot delivery ↔ channel.tracked table whole.header ≠ channel ∨
      (slot.status.isClosing = false ∧ channel.arrivalOf table whole.header = .repeatedComplete ∧
        channel.isAllComplete slot.role = true) ∨
      (slot.status.isTerminal = false ∧ channel.arrivalOf table whole.header = .outOfRange) := by
  have heard := heardIn_of_readable framed content
  have entry : channel.HasEntry table whole.header.sectionId ↔
      channel.HasEntry slot.role whole.header.sectionId := by
    unfold HasEntry
    simp only [eq_ofNetwork_iff_of_contents content]
  have beyond : channel.arrivalOf table whole.header = .outOfRange ↔
      whole.header.isCurrent = true ∧ whole.header.lastNumber < whole.header.number :=
    recalls.arrivalOf_eq_outOfRange_iff
  rw [Ne, recalls.tracked_eq_self_iff, entry, beyond]
  constructor
  · intro stirs
    cases stirs with
    | enters other first =>
      cases framed.symm.trans other
      exact .inl fun kept => first kept.1
    | learns other news =>
      cases heard.symm.trans other
      exact .inl fun kept => kept.2 news
    | confirms other repeats all unsettled =>
      cases heard.symm.trans other
      exact .inr (.inl ⟨unsettled, repeats, all⟩)
    | fails lacking fault => exact .inr (.inr ⟨lacking, fault _ heard⟩)
  · rintro (changed | ⟨unsettled, repeats, all⟩ | ⟨lacking, fault⟩)
    · by_cases first : channel.HasEntry slot.role whole.header.sectionId
      · exact .learns heard (Classical.not_not.mp fun ignored => changed ⟨first, ignored⟩)
      · exact .enters framed first
    · exact .confirms heard repeats all unsettled
    · refine .fails lacking ?_
      rw [heard]
      rintro _ ⟨⟩
      exact fault

/-- A delivery from a closed filter is dropped exactly if it brings nothing that is noticed. -/
theorem Recalls.handle_eq_self_iff (recalls : channel.Recalls sections) (wired : channel.Wired)
    (numbered : (channel.slots.map (·.id)).Nodup) (state : channel.state = .awaitingSections)
    (present : slot ∈ channel.slots) (closed : slot.isOpen = false) (delivery : Delivery) :
    channel.handle slot.id delivery = (channel, [], []) ↔ ¬channel.Stirs sections slot delivery := by
  rw [Channel.handle_eq_self_iff wired numbered state present closed]
  obtain ⟨unframed, status, failure, read⟩ | ⟨whole, error, framed, content, read⟩ |
    ⟨whole, table, found, framed, content, read⟩ := read_cases recalls.uniform slot.role delivery
  · rw [read, stirs_iff_of_unheard (heardIn_of_unframed unframed)]
    simp [FilterStatus.after_failure_iff failure, unframed]
  · rw [read, stirs_iff_of_unheard (heardIn_of_unreadable framed content)]
    simp [FilterStatus.after_failure_iff (.inl rfl), enter_eq_self_iff, framed]
  · rw [read, recalls.stirs_iff_of_heard framed content]
    by_cases same : channel.tracked table whole.header = channel
    · have stale : (channel.arrivalOf table whole.header).isFresh = false := by
        rw [← Bool.not_eq_true, recalls.isFresh_arrivalOf_iff]
        rintro ⟨counts, new⟩
        exact new (TrackerHistory.heard_of_ignored (recalls.tracked_eq_self_iff.mp same).2 counts)
      rw [wired.filterStatus?_eq numbered present]
      simp [same, stale, FilterStatus.after_statusAfter_iff stale]
    · simp [same]

/-- A section that counts and was not heard before, from a filter that was closed when all was complete. -/
structure Unsettles (channel : Channel) (sections : List (TableRole × SectionHeader)) (slot : FilterSlot)
    (delivery : Delivery) : Prop where
  closed : slot.isOpen = false
  complete : slot.status = .complete
  news : ∃ table header, channel.heardIn slot.role delivery = some (table, header) ∧
    (historyOf table sections).accepts header = true ∧ ¬(historyOf table sections).Heard header

def WasUnsettled (started : Channel) (filter : FilterId) (events : List (FilterId × Delivery)) : Prop :=
  ∃ before delivery after, events = before ++ (filter, delivery) :: after ∧
    ∃ slot ∈ (started.handleAll before).slots, slot.id = filter ∧
      (started.handleAll before).Unsettles (started.heardAll before) slot delivery

theorem WasUnsettled.concat {started : Channel} {filter : FilterId} {events : List (FilterId × Delivery)}
    (earlier : started.WasUnsettled filter events) (event : FilterId × Delivery) :
    started.WasUnsettled filter (events ++ [event]) := by
  obtain ⟨before, delivery, after, split, found⟩ := earlier
  refine ⟨before, delivery, after ++ [event], ?_, found⟩
  rw [split, List.append_assoc, List.cons_append]

theorem Recalls.news_of_ok (recalls : channel.Recalls sections) (wired : channel.Wired)
    (numbered : (channel.slots.map (·.id)).Nodup) (present : slot ∈ channel.slots)
    (complete : slot.status = .complete) (given : (channel.read slot.role delivery).2.1 = .ok) :
    ∃ table header, channel.heardIn slot.role delivery = some (table, header) ∧
      (historyOf table sections).accepts header = true ∧ ¬(historyOf table sections).Heard header := by
  obtain ⟨-, status, failure, read⟩ | ⟨whole, error, -, -, read⟩ |
    ⟨whole, table, found, framed, content, read⟩ := read_cases recalls.uniform slot.role delivery
  · rw [read] at given
    cases given
    rcases failure with same | same <;> cases same
  · rw [read] at given
    cases given
  · rw [read, wired.filterStatus?_eq numbered present, complete] at given
    refine ⟨table, whole.header, heardIn_of_readable framed content, ?_⟩
    exact recalls.isFresh_arrivalOf_iff.mp (FilterStatus.eq_ok_of_statusAfter given)

theorem closed_of_update {given : FilterStatus} (closed : (slot.update given).1.isOpen = false)
    (lacking : (slot.update given).1.status.isTerminal = false) :
    slot.isOpen = false ∧
      (slot.status.isTerminal = false ∨ slot.status = .complete ∧ given = .ok) := by
  rw [FilterSlot.isOpen_update] at closed
  rw [FilterSlot.status_update] at lacking
  have before : slot.isOpen = false := by
    by_contra isOpen
    rw [Bool.not_eq_false] at isOpen
    rw [isOpen] at closed
    revert closed lacking
    cases slot.status <;> cases given <;> decide
  refine ⟨before, ?_⟩
  cases enough : slot.status.isTerminal with
  | false => exact .inl rfl
  | true => exact .inr (FilterStatus.lacking_of_after lacking enough)

/-- A filter that is closed and lacks sections has lost what it had by a delivery that came after its
closing. -/
theorem wasUnsettled_of_closed {channel : Channel} (roles : (channel.filters.map (·.role)).Nodup)
    (receiver : Receiver) (history : List Call) (events : List (FilterId × Delivery)) {slot : FilterSlot}
    (present : slot ∈ ((channel.start receiver history).1.handleAll events).slots)
    (closed : slot.isOpen = false) (lacking : slot.status.isTerminal = false) :
    (channel.start receiver history).1.WasUnsettled slot.id events := by
  -- on the deliveries, the last one first: it is the one, or the filter lacked sections before it
  induction events using List.reverseRecOn generalizing slot with
  | nil =>
    obtain ⟨opening, -, opened⟩ := channel.start_spec receiver history
    have isOpen := (opened.fresh slot present).1
    rw [closed] at isOpen
    cases isOpen
  | append_singleton events event ih =>
    have numbered := channel.numbered_handleAll receiver history events
    have wired := (wired_start roles receiver history).handleAll events
    rw [handleAll_append] at present
    obtain ⟨former, there, same, change⟩ := mem_slots_handle numbered present
    rw [← same]
    unfold slotAfter at change
    split at change
    next own =>
      rw [change] at closed lacking
      obtain ⟨closed, lacks | ⟨complete, given⟩⟩ := closed_of_update closed lacking
      · exact (ih there closed lacks).concat event
      · have news := (channel.recalls_handleAll receiver history events).news_of_ok wired numbered there
          complete given
        refine ⟨events, event.2, [], ?_, former, there, rfl, closed, complete, news⟩
        rw [own.2]
    next =>
      subst change
      exact (ih there closed lacking).concat event

/-- On every platform and at every moment of a run at which sections are awaited, what a closed filter delivers
changes nothing and tells nothing exactly if it brings nothing that is noticed. A closed filter that lacks
sections lost what it had by a section that came after its closing. -/
theorem late_deliveries [HanDecoders] (kind : PlatformKind) (channel : Channel)
    (platform : channel.filters = (Platform.ofKind kind).filters) (receiver : Receiver)
    (history : List Call) (events : List (FilterId × Delivery)) :
    let started := (channel.start receiver history).1
    let reached := started.handleAll events
    ∀ slot ∈ reached.slots, slot.isOpen = false →
      (reached.state = .awaitingSections → ∀ delivery,
        (reached.handle slot.id delivery = (reached, [], []) ↔
          ¬reached.Stirs (started.heardAll events) slot delivery)) ∧
      (slot.status.isTerminal = false → started.WasUnsettled slot.id events) := by
  intro started reached slot present closed
  have roles : (channel.filters.map (·.role)).Nodup := platform ▸ Platform.roles_nodup kind
  refine ⟨fun state delivery => ?_, wasUnsettled_of_closed roles receiver history events present closed⟩
  exact (channel.recalls_handleAll receiver history events).handle_eq_self_iff
    ((wired_start roles receiver history).handleAll events)
    (channel.numbered_handleAll receiver history events) state present closed delivery

end Channel

/-! A network is complete, its filter fails, and then a section of another network comes. -/

namespace LateSection

open QuietNetwork
open scoped HanDecoders

def failure : Delivery := .failed ⟨0x0010, 0x40, ⟨.other, "overflow"⟩⟩

def late : Delivery :=
  .bytes [0x40, 0xF0, 0x10, 0x30, 0x02, 0xC1, 0x00, 0x01, 0xF0, 0x03, 0x40, 0x01, 0x42, 0xF0, 0x00, 0x00,
    0x00, 0x00, 0x00]

/-- The late section gives the closed filter another status and tells the name of its network. Though the
other filters stop, the channel then awaits sections for ever. -/
theorem late_section_taken :
    let closed := started.handleAll [(1, first 1 0 true), (1, failure)]
    let after := closed.handle 1 late
    closed.state = .awaitingSections ∧
      closed.slots.map (fun slot => (slot.status, slot.isOpen)) =
        [(.complete, false), (.blank, true), (.blank, true)] ∧
      after.1.slots.map (fun slot => (slot.status, slot.isOpen)) =
        [(.ok, false), (.blank, true), (.blank, true)] ∧
      after.2.2 = [.networkName .network 0x3002 "B"] ∧
      (after.1.handleAll [(2, .stopped), (3, .stopped)]).state = .awaitingSections := by
  decide +kernel

theorem late_deliveries_of_failed :
    let events := [(1, first 1 0 true), (1, failure), (1, late)]
    let reached := started.handleAll events
    let slot : FilterSlot := ⟨1, .network, .ok, false⟩
    (slot ∈ reached.slots ∧ reached.state = .awaitingSections) ∧
      (∀ delivery, reached.handle 1 delivery = (reached, [], []) ↔
        ¬reached.Stirs (started.heardAll events) slot delivery) ∧
      started.WasUnsettled 1 events := by
  intro events reached slot
  have present : slot ∈ reached.slots := by decide +kernel
  have state : reached.state = .awaitingSections := by decide +kernel
  obtain ⟨dropped, lost⟩ := Channel.late_deliveries .standard (.new .standard 5000) rfl .willing [] events
    slot present rfl
  exact ⟨⟨present, state⟩, dropped state, lost rfl⟩

end LateSection

end DvbScan
