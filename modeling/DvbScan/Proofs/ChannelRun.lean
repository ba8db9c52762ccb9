import DvbScan.Proofs.FilterIsolation
import Mathlib.Data.List.Induction

/-!
# The filters of a channel during a run

Every filter of a channel has a number of its own, so a delivery changes one slot at most, and how it changes
is a matter of two statuses. A filter whose status is final is closed, and while sections are awaited some
filter has not done its part.
-/

namespace DvbScan

def FilterStatus.after : FilterStatus → FilterStatus → FilterStatus
  | .blank, given | .ok, given => given
  | .complete, .ok => .ok
  | .complete, .repeatComplete => .repeatComplete
  | current, _ => current

namespace FilterStatus

theorem isClosing_of_after {current given : FilterStatus} (closing : (current.after given).isClosing = true) :
    current.isClosing = true ∨ given.isClosing = true := by
  cases current <;> cases given <;> first | exact .inl rfl | exact .inr rfl | cases closing

theorem isSuccess_after {current given : FilterStatus} (success : current.isSuccess = true)
    (kept : current.after given ≠ .ok) : (current.after given).isSuccess = true := by
  cases current <;> cases given <;> first | rfl | exact absurd rfl kept | cases success

end FilterStatus

namespace FilterSlot

@[simp]
theorem status_update (slot : FilterSlot) (given : FilterStatus) :
    (slot.update given).1.status = slot.status.after given := by
  obtain ⟨id, role, status, isOpen⟩ := slot
  cases status <;> cases given <;> rfl

@[simp]
theorem isOpen_update (slot : FilterSlot) (given : FilterStatus) :
    (slot.update given).1.isOpen = (slot.isOpen && (slot.status.isClosing || !given.isClosing)) := by
  obtain ⟨id, role, status, isOpen⟩ := slot
  cases isOpen <;> cases status <;> cases given <;> rfl

theorem snd_update_of_closed {slot : FilterSlot} (closed : slot.isOpen = false) (given : FilterStatus) :
    (slot.update given).2 = [] := by
  obtain ⟨id, role, status, isOpen⟩ := slot
  cases closed
  cases status <;> cases given <;> rfl

theorem ext {first second : FilterSlot} (id : first.id = second.id) (role : first.role = second.role)
    (status : first.status = second.status) (isOpen : first.isOpen = second.isOpen) : first = second := by
  cases first
  cases second
  cases id
  cases role
  cases status
  cases isOpen
  rfl

theorem fst_update_eq_self_iff {slot : FilterSlot} (closed : slot.isOpen = false) (given : FilterStatus) :
    (slot.update given).1 = slot ↔ slot.status.after given = slot.status := by
  constructor
  · intro same
    rw [← status_update, same]
  · intro same
    refine ext (id_update slot given) (role_update slot given) ?_ ?_
    · rw [status_update, same]
    · rw [isOpen_update, closed, Bool.false_and]

def IsShut (slot : FilterSlot) : Prop := slot.status.isClosing = true → slot.isOpen = false

theorem IsShut.update {slot : FilterSlot} (shut : slot.IsShut) (given : FilterStatus) :
    (slot.update given).1.IsShut := by
  intro closing
  rw [status_update] at closing
  rw [isOpen_update]
  cases final : slot.status.isClosing with
  | true => rw [shut final, Bool.false_and]
  | false =>
    have chosen := (FilterStatus.isClosing_of_after closing).resolve_left (by simp [final])
    rw [chosen]
    simp

end FilterSlot

namespace Channel

variable {channel : Channel} {slot : FilterSlot}

def slotAfter (channel : Channel) (filter : FilterId) (delivery : Delivery) (slot : FilterSlot) :
    FilterSlot :=
  if channel.state = .awaitingSections ∧ slot.id = filter then
    (slot.update (channel.read slot.role delivery).2.1).1
  else slot

theorem find?_id (numbered : (channel.slots.map (·.id)).Nodup) (present : slot ∈ channel.slots) :
    channel.slots.find? (·.id == slot.id) = some slot := by
  cases found : channel.slots.find? (·.id == slot.id) with
  | none => exact absurd (beq_iff_eq.mpr rfl) (List.find?_eq_none.mp found slot present)
  | some first =>
    have same : first.id = slot.id := by simpa using List.find?_some found
    rw [List.inj_on_of_nodup_map numbered (List.mem_of_find?_eq_some found) present same]

theorem statusOf?_of_mem (numbered : (channel.slots.map (·.id)).Nodup) (present : slot ∈ channel.slots) :
    channel.statusOf? slot.id = some slot.status := by
  unfold statusOf?
  rw [find?_id numbered present]
  rfl

theorem mem_of_statusOf? {filter : FilterId} {status : FilterStatus}
    (given : channel.statusOf? filter = some status) :
    ∃ slot ∈ channel.slots, slot.id = filter ∧ slot.status = status := by
  obtain ⟨slot, found, same⟩ := Option.map_eq_some_iff.mp given
  exact ⟨slot, List.mem_of_find?_eq_some found, by simpa using List.find?_some found, same⟩

theorem slots_handle (numbered : (channel.slots.map (·.id)).Nodup) (filter : FilterId)
    (delivery : Delivery) :
    (channel.handle filter delivery).1.slots = channel.slots.map (channel.slotAfter filter delivery) := by
  by_cases state : channel.state = .awaitingSections
  · cases known : channel.slots.find? (·.id == filter) with
    | none =>
      have absent : ∀ slot ∈ channel.slots, slot.id ≠ filter := by
        intro slot present same
        exact List.find?_eq_none.mp known slot present (beq_iff_eq.mpr same)
      rw [handle_of_absent known]
      refine (List.map_id' _).symm.trans (List.map_congr_left fun slot present => ?_)
      exact (if_neg fun own => absent slot present own.2).symm
    | some sender =>
      rw [handle_of_known state known]
      simp only [slots_settle, slots_read]
      refine List.map_congr_left fun slot present => ?_
      unfold settled slotAfter
      by_cases own : slot.id = filter
      · have same : sender = slot := by
          subst own
          exact Option.some.inj (known.symm.trans (find?_id numbered present))
        rw [if_pos own, if_pos ⟨state, own⟩, same]
      · rw [if_neg own, if_neg fun both => own both.2]
  · rw [handle_of_not_awaiting state]
    refine (List.map_id' _).symm.trans (List.map_congr_left fun slot _ => ?_)
    exact (if_neg fun both => state both.1).symm

theorem settle_congr {filter : FilterId} {first second : FilterStatus}
    (same : ∀ slot ∈ channel.slots, slot.id = filter → slot.update first = slot.update second) :
    channel.settle filter first = channel.settle filter second := by
  have updated : (channel.slots.map fun slot =>
        if slot.id = filter then slot.update first else (slot, [])) =
      channel.slots.map fun slot => if slot.id = filter then slot.update second else (slot, []) := by
    refine List.map_congr_left fun slot present => ?_
    split
    next own => exact same slot present own
    next => rfl
  unfold settle
  rw [updated]

theorem settle_eq_self {filter : FilterId} {status : FilterStatus}
    (lacking : ∃ slot ∈ channel.slots, slot.status.isTerminal = false)
    (same : ∀ slot ∈ channel.slots, slot.id = filter → slot.update status = (slot, [])) :
    channel.settle filter status = (channel, []) := by
  have updated : (channel.slots.map fun slot =>
      if slot.id = filter then slot.update status else (slot, [])) =
        channel.slots.map fun slot => (slot, []) := by
    refine List.map_congr_left fun slot present => ?_
    split
    next own => exact same slot present own
    next => rfl
  have waits : channel.slots.all (·.status.isTerminal) = false := by
    obtain ⟨slot, present, lacks⟩ := lacking
    rw [← Bool.not_eq_true, List.all_eq_true]
    intro terminal
    rw [terminal slot present] at lacks
    cases lacks
  unfold settle
  rw [updated]
  simp [Function.comp_def, waits]

theorem handle_of_not_taken {filter : FilterId}
    (dropped : ¬(channel.state = .awaitingSections ∧ ∃ slot ∈ channel.slots, slot.id = filter))
    (delivery : Delivery) : channel.handle filter delivery = (channel, [], []) := by
  by_cases state : channel.state = .awaitingSections
  · apply handle_of_unknown
    intro member
    obtain ⟨slot, present, number⟩ := List.mem_map.mp member
    exact dropped ⟨state, slot, present, number⟩
  · exact handle_of_not_awaiting state filter delivery

@[simp]
theorem id_slotAfter (filter : FilterId) (delivery : Delivery) :
    (channel.slotAfter filter delivery slot).id = slot.id := by
  unfold slotAfter
  split
  · exact slot.id_update _
  · rfl

theorem mem_slots_handle (numbered : (channel.slots.map (·.id)).Nodup) {filter : FilterId}
    {delivery : Delivery} (member : slot ∈ (channel.handle filter delivery).1.slots) :
    ∃ before ∈ channel.slots, before.id = slot.id ∧
      slot = channel.slotAfter filter delivery before := by
  rw [slots_handle numbered] at member
  obtain ⟨before, present, same⟩ := List.mem_map.mp member
  subst same
  exact ⟨before, present, (id_slotAfter filter delivery).symm, rfl⟩

/-- On a channel with one filter for each role, the status that a section is read with is that of the filter
it came from. -/
theorem Wired.filterStatus?_eq (wired : channel.Wired) (numbered : (channel.slots.map (·.id)).Nodup)
    (present : slot ∈ channel.slots) : channel.filterStatus? slot.role = some slot.status := by
  unfold filterStatus? slotOf?
  cases found : channel.slots.find? (·.role == slot.role) with
  | none => exact absurd (beq_iff_eq.mpr rfl) (List.find?_eq_none.mp found slot present)
  | some first =>
    have listed := List.mem_of_find?_eq_some found
    have role : first.role = slot.role := by simpa using List.find?_some found
    have number : first.id = slot.id := (wired.paired _ (mem_wiring listed) _ (mem_wiring present)).mpr role
    rw [List.inj_on_of_nodup_map numbered listed present number]
    rfl

theorem handleAll_append (channel : Channel) (first second : List (FilterId × Delivery)) :
    channel.handleAll (first ++ second) = (channel.handleAll first).handleAll second :=
  List.foldl_append

theorem ids_handleAll (channel : Channel) (events : List (FilterId × Delivery)) :
    (channel.handleAll events).slots.map (·.id) = channel.slots.map (·.id) := by
  induction events generalizing channel with
  | nil => rfl
  | cons event rest ih => exact (ih _).trans (channel.ids_handle event.1 event.2)

theorem Wired.handleAll (wired : channel.Wired) (events : List (FilterId × Delivery)) :
    (channel.handleAll events).Wired := by
  induction events generalizing channel with
  | nil => exact wired
  | cons event rest ih => exact ih (wired.handle event.1 event.2)

theorem numbered_start (channel : Channel) (receiver : Receiver) (history : List Call) :
    ((channel.start receiver history).1.slots.map (·.id)).Nodup := by
  obtain ⟨opening, -, opened⟩ := channel.start_spec receiver history
  exact opened.ordered.imp Nat.ne_of_lt

theorem numbered_handleAll (channel : Channel) (receiver : Receiver) (history : List Call)
    (events : List (FilterId × Delivery)) :
    (((channel.start receiver history).1.handleAll events).slots.map (·.id)).Nodup := by
  rw [ids_handleAll]
  exact channel.numbered_start receiver history

theorem isShut_handleAll (channel : Channel) (receiver : Receiver) (history : List Call)
    (events : List (FilterId × Delivery)) :
    ∀ slot ∈ ((channel.start receiver history).1.handleAll events).slots, slot.IsShut := by
  induction events using List.reverseRecOn with
  | nil =>
    obtain ⟨opening, -, opened⟩ := channel.start_spec receiver history
    intro slot present closing
    rw [(opened.fresh slot present).2] at closing
    cases closing
  | append_singleton events event ih =>
    intro slot present
    rw [handleAll_append] at present
    obtain ⟨before, listed, -, same⟩ :=
      mem_slots_handle (channel.numbered_handleAll receiver history events) present
    rw [same]
    unfold slotAfter
    split
    · exact (ih before listed).update _
    · exact ih before listed

end Channel

/-! A channel of the standard platform, and networks that tell nothing of themselves. -/

namespace QuietNetwork

open scoped HanDecoders

def started : Channel := ((Channel.new .standard 5000).start .willing []).1

def first (id last : UInt8) (applies : Bool) : Delivery :=
  .bytes [0x40, 0xF0, 0x0D, 0x30, id, if applies then 0xC1 else 0xC0, 0x00, last, 0xF0, 0x00, 0xF0, 0x00,
    0x00, 0x00, 0x00, 0x00]

end QuietNetwork

end DvbScan
