import DvbScan.Proofs.EnteredGroup

/-!
# Sections that do not apply yet

A section of a version to come is not tracked, but if it is the first one of a network or a bouquet, the group
is entered with it. So the section makes a difference if the filter of its table would be complete before a
section comes that enters the group anyway; otherwise nothing tells a run with it from a run without it.
-/

namespace DvbScan

theorem TableTracker.track_of_future (tracker : TableTracker) {header : SectionHeader}
    (future : header.isCurrent = false) : tracker.track header = (tracker, .notYetCurrent) := by
  unfold track
  rw [future]
  rfl

theorem NetworkProgress.track_of_future (progress : NetworkProgress) {header : SectionHeader}
    (future : header.isCurrent = false) : progress.track header = progress := by
  unfold track
  rw [TableTracker.track_of_future _ future]
  rfl

theorem FilterSlot.update_self (slot : FilterSlot) : slot.update slot.status = (slot, []) :=
  if_pos rfl

namespace Channel

variable {channel : Channel} {kind : NetworkKind} {id : UInt16}

/-- What is told of a delivery: what is asked of the receiver and what is found, and then the statuses of the
filters and the outcome of the channel. -/
structure Report where
  calls : List Call
  findings : List Finding
  statuses : List FilterStatus
  outcome : ChannelOutcome
  deriving DecidableEq, Repr

def report (channel : Channel) (filter : FilterId) (delivery : Delivery) : Report :=
  let answer := channel.handle filter delivery
  { calls := answer.2.1
    findings := answer.2.2
    statuses := answer.1.slots.map (·.status)
    outcome := answer.1.outcome }

def reports : Channel → List (FilterId × Delivery) → List Report
  | _, [] => []
  | channel, event :: rest =>
    channel.report event.1 event.2 :: (channel.handle event.1 event.2).1.reports rest

/-- The filter of a role is done before a section with the identifier comes. -/
def Misses (role : TableRole) (id : UInt16) : Channel → List (FilterId × Delivery) → Prop
  | _, [] => False
  | channel, event :: rest => ¬channel.Enters role id event.1 event.2 ∧
      (channel.Concludes role event.1 event.2 ∨ Misses role id (channel.handle event.1 event.2).1 rest)

theorem slots_enter (channel : Channel) (role : TableRole) (id : UInt16) :
    (channel.enter role id).slots = channel.slots := by
  cases role <;> rfl

theorem outcome_enter (channel : Channel) (role : TableRole) (id : UInt16) :
    (channel.enter role id).outcome = channel.outcome := by
  cases role <;> rfl

theorem outcome_enterGroup (channel : Channel) (kind : NetworkKind) (id : UInt16) :
    (channel.enterGroup kind id).outcome = channel.outcome := by
  cases kind <;> rfl

/-- A run in which a group was entered is told from one in which it was not exactly if the filter of the group
is done before a section of the group comes. -/
theorem Recalls.reports_enterGroup_iff {sections : List (TableRole × SectionHeader)}
    (recalls : channel.Recalls sections) (wired : channel.Wired)
    (numbered : (channel.slots.map (·.id)).Nodup) (absent : (channel.groups kind).get? id = none)
    (events : List (FilterId × Delivery)) :
    (channel.enterGroup kind id).reports events = channel.reports events ↔
      ¬channel.Misses (.ofNetwork kind) id events := by
  -- on the deliveries, while the group is entered in the one channel and not in the other
  induction events generalizing channel sections with
  | nil => exact iff_of_true rfl nofun
  | cons event rest ih =>
    change (channel.enterGroup kind id).report event.1 event.2 ::
        ((channel.enterGroup kind id).handle event.1 event.2).1.reports rest =
      channel.report event.1 event.2 :: (channel.handle event.1 event.2).1.reports rest ↔ _
    by_cases enters : channel.Enters (.ofNetwork kind) id event.1 event.2
    · unfold report
      rw [handle_enterGroup_of_enters recalls.uniform numbered enters]
      exact iff_of_true rfl fun misses => misses.1 enters
    obtain ⟨kept, alike, apart⟩ := handle_enterGroup_of_ne recalls.uniform wired numbered absent enters
    by_cases concludes : channel.Concludes (.ofNetwork kind) event.1 event.2
    · refine iff_of_false (fun same => ?_) fun untold => untold ⟨enters, .inl concludes⟩
      exact apart concludes (congrArg Report.statuses (List.cons.inj same).1)
    · have next := ih (recalls.handle event.1 event.2) (wired.handle event.1 event.2)
        (by rw [ids_handle]; exact numbered) kept
      have told : (channel.enterGroup kind id).report event.1 event.2 =
          channel.report event.1 event.2 := by
        unfold report
        rw [alike concludes]
        simp only [slots_enterGroup, outcome_enterGroup]
      have misses : channel.Misses (.ofNetwork kind) id (event :: rest) ↔
          (channel.handle event.1 event.2).1.Misses (.ofNetwork kind) id rest :=
        ⟨fun misses => misses.2.resolve_left concludes, fun later => ⟨enters, .inr later⟩⟩
      rw [told, alike concludes, List.cons.injEq, misses, ← next]
      exact and_iff_right rfl

theorem not_misses_of_not_awaiting {role : TableRole} (state : channel.state ≠ .awaitingSections)
    (events : List (FilterId × Delivery)) : ¬channel.Misses role id events := by
  induction events with
  | nil => exact nofun
  | cons event rest ih =>
    rintro ⟨-, concludes | later⟩
    · exact state concludes.1
    · rw [handle_of_not_awaiting state] at later
      exact ih later

theorem tracked_of_future {role table : TableRole} {whole : Section} {found : List Finding}
    (content : channel.contents role whole = .ok (table, found))
    (future : whole.header.isCurrent = false) :
    channel.tracked table whole.header = channel.enter role whole.header.sectionId := by
  have same := eq_ofNetwork_iff_of_contents content
  obtain ⟨kind, rfl⟩ | ⟨isActual, rfl⟩ := table.ofNetwork_or_ofService
  · rw [(same kind).mp rfl, tracked_ofNetwork, enter_ofNetwork,
      NetworkProgress.track_of_future _ future]
    rfl
  · obtain ⟨kind, rfl⟩ | ⟨another, rfl⟩ := role.ofNetwork_or_ofService
    · exact absurd ((same kind).mpr rfl).symm (TableRole.ofNetwork_ne_ofService kind isActual)
    · have kept : ((channel.services.trackerOf isActual).track whole.header).1 =
          channel.services.trackerOf isActual := by
        rw [TableTracker.track_of_future _ future]
      rw [tracked_ofService, enter_ofService, kept, ServiceTableReader.withTracker_trackerOf]

/-- A section of a version to come enters its group, and that is all. -/
theorem handle_of_future (uniform : channel.IsUniform) (wired : channel.Wired)
    (numbered : (channel.slots.map (·.id)).Nodup) (state : channel.state = .awaitingSections)
    {slot : FilterSlot} (present : slot ∈ channel.slots) {delivery : Delivery} {table : TableRole}
    {header : SectionHeader} (heard : channel.heardIn slot.role delivery = some (table, header))
    (future : header.isCurrent = false) :
    channel.handle slot.id delivery = (channel.enter slot.role header.sectionId, [], []) := by
  obtain ⟨whole, found, framed, content⟩ := contents_of_heardIn heard
  cases heard.symm.trans (heardIn_of_readable framed content)
  have arrival : channel.arrivalOf table whole.header = .notYetCurrent := by
    unfold arrivalOf
    rw [TableTracker.track_of_future _ future]
  have read := read_of_readable uniform framed content
  rw [tracked_of_future content future, arrival, wired.filterStatus?_eq numbered present] at read
  rw [handle_of_known state (find?_id numbered present), read]
  have settled : (channel.enter slot.role whole.header.sectionId).settle slot.id slot.status =
      (channel.enter slot.role whole.header.sectionId, []) := by
    refine settle_eq_self ?_ ?_
    · rw [slots_enter]
      exact wired.lacking state
    · rw [slots_enter]
      intro twin there number
      rw [List.inj_on_of_nodup_map numbered there present number]
      exact slot.update_self
  change (((channel.enter slot.role whole.header.sectionId).settle slot.id slot.status).1,
    ((channel.enter slot.role whole.header.sectionId).settle slot.id slot.status).2, []) = _
  rw [settled]

/-- On every platform, a section of a version to come is answered with nothing. Whatever comes after it is
told as in the run without it exactly if the section is not the first one of its network or bouquet, or the
filter is not done before a section of the same network or bouquet comes. -/
theorem future_sections [HanDecoders] (kind : PlatformKind) (channel : Channel)
    (platform : channel.filters = (Platform.ofKind kind).filters) (receiver : Receiver)
    (history : List Call) (before after : List (FilterId × Delivery)) :
    let reached := (channel.start receiver history).1.handleAll before
    ∀ slot ∈ reached.slots, ∀ delivery table header,
      reached.heardIn slot.role delivery = some (table, header) → header.isCurrent = false →
        reached.report slot.id delivery = ⟨[], [], reached.slots.map (·.status), reached.outcome⟩ ∧
        ((reached.handle slot.id delivery).1.reports after = reached.reports after ↔
          reached.HasEntry slot.role header.sectionId ∨
            ¬reached.Misses slot.role header.sectionId after) := by
  intro reached slot present delivery table header heard future
  have recalls := channel.recalls_handleAll receiver history before
  have wired := (wired_start (platform ▸ Platform.roles_nodup kind) receiver history).handleAll before
  have numbered := channel.numbered_handleAll receiver history before
  unfold report
  by_cases state : reached.state = .awaitingSections
  · rw [handle_of_future recalls.uniform wired numbered state present heard future]
    refine ⟨?_, ?_⟩
    · simp only [slots_enter, outcome_enter, reached]
    by_cases entered : reached.HasEntry slot.role header.sectionId
    · rw [enter_eq_self_iff.mpr entered]
      exact iff_of_true rfl (.inl entered)
    · obtain ⟨group, role, absent⟩ : ∃ group, slot.role = .ofNetwork group ∧
          (reached.groups group).get? header.sectionId = none := by
        unfold HasEntry at entered
        push Not at entered
        exact entered
      rw [or_iff_right entered, role, enter_ofNetwork]
      exact recalls.reports_enterGroup_iff wired numbered absent after
  · rw [handle_of_not_awaiting state]
    exact ⟨rfl, iff_of_true rfl (.inr (not_misses_of_not_awaiting state after))⟩

end Channel

/-! A section of one network that does not apply yet, and then all of another network. -/

namespace FutureNetwork

open QuietNetwork
open scoped HanDecoders

/-- After the first section the other network is in order, and without it complete. -/
theorem told_after_future :
    (started.heardIn .network (first 2 0 false)).map (·.2.isCurrent) = some false ∧
      ((started.handle 1 (first 2 0 false)).1.reports [(1, first 1 0 true)]).map (·.statuses) =
        [[.ok, .blank, .blank]] ∧
      (started.reports [(1, first 1 0 true)]).map (·.statuses) = [[.complete, .blank, .blank]] := by
  decide +kernel

theorem future_sections_of_network :
    let slot : FilterSlot := ⟨1, .network, .blank, true⟩
    slot ∈ started.slots ∧ ∃ table header,
      (started.heardIn .network (first 2 0 false) = some (table, header) ∧ header.isCurrent = false) ∧
      started.report 1 (first 2 0 false) =
        ⟨[], [], started.slots.map (·.status), started.outcome⟩ ∧
      ((started.handle 1 (first 2 0 false)).1.reports [(1, first 1 0 true)] =
          started.reports [(1, first 1 0 true)] ↔
        started.HasEntry .network header.sectionId ∨
          ¬started.Misses .network header.sectionId [(1, first 1 0 true)]) := by
  intro slot
  have present : slot ∈ started.slots := by decide +kernel
  have brought : (started.heardIn .network (first 2 0 false)).map (·.2.isCurrent) = some false := by
    decide +kernel
  obtain ⟨⟨table, header⟩, heard, future⟩ := Option.map_eq_some_iff.mp brought
  exact ⟨present, table, header, ⟨heard, future⟩, Channel.future_sections .standard (.new .standard 5000)
    rfl .willing [] [] [(1, first 1 0 true)] slot present (first 2 0 false) table header heard future⟩

end FutureNetwork

end DvbScan
