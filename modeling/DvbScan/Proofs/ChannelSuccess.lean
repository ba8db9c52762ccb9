import DvbScan.Proofs.ChannelRun

/-!
# When a channel succeeds

Success is told from the statuses that the filters have in the end. A filter that was complete is so no more
when another table of its kind begins or a newer version comes, and if it then stops it counts for nothing.
So a channel succeeds if some filter was complete and never after that merely in order.
-/

namespace DvbScan

namespace Channel

def Succeeds (channel : Channel) (filter : FilterId) : Prop :=
  ∃ status, channel.statusOf? filter = some status ∧ status.isSuccess = true

theorem success_iff {channel : Channel} (numbered : (channel.slots.map (·.id)).Nodup) :
    channel.success = true ↔ ∃ filter, channel.Succeeds filter := by
  unfold success
  rw [List.any_eq_true]
  constructor
  · rintro ⟨slot, present, success⟩
    exact ⟨slot.id, slot.status, statusOf?_of_mem numbered present, success⟩
  · rintro ⟨filter, status, given, success⟩
    obtain ⟨slot, present, -, rfl⟩ := mem_of_statusOf? given
    exact ⟨slot, present, success⟩

/-- A delivery takes success from a filter only by giving it `ok`. -/
theorem Succeeds.handle {channel : Channel} (numbered : (channel.slots.map (·.id)).Nodup)
    {filter : FilterId} (succeeds : channel.Succeeds filter) {sender : FilterId} {delivery : Delivery}
    (kept : (channel.handle sender delivery).1.statusOf? filter ≠ some .ok) :
    (channel.handle sender delivery).1.Succeeds filter := by
  obtain ⟨status, given, success⟩ := succeeds
  obtain ⟨slot, present, rfl, rfl⟩ := mem_of_statusOf? given
  have after : channel.slotAfter sender delivery slot ∈ (channel.handle sender delivery).1.slots := by
    rw [slots_handle numbered]
    exact List.mem_map_of_mem present
  have afterwards : (channel.handle sender delivery).1.statusOf? slot.id =
      some (channel.slotAfter sender delivery slot).status := by
    have numbers : ((channel.handle sender delivery).1.slots.map (·.id)).Nodup := by
      rw [ids_handle]
      exact numbered
    rw [← statusOf?_of_mem numbers after, id_slotAfter]
  refine ⟨_, afterwards, ?_⟩
  rw [afterwards, Ne, Option.some.injEq] at kept
  unfold slotAfter at kept ⊢
  split
  next own =>
    rw [if_pos own, FilterSlot.status_update] at kept
    rw [FilterSlot.status_update]
    exact FilterStatus.isSuccess_after success kept
  next => exact success

/-- A filter that achieved a complete table and was never after that merely in order has it in the end. -/
theorem Succeeds.handleAll {channel : Channel} (numbered : (channel.slots.map (·.id)).Nodup)
    {filter : FilterId} {before events : List (FilterId × Delivery)} (earlier : before <+: events)
    (succeeds : (channel.handleAll before).Succeeds filter)
    (kept : ∀ later, before <+: later → later <+: events →
      (channel.handleAll later).statusOf? filter ≠ some .ok) :
    (channel.handleAll events).Succeeds filter := by
  induction events using List.reverseRecOn with
  | nil =>
    rw [List.prefix_nil.mp earlier] at succeeds
    exact succeeds
  | append_singleton events event ih =>
    rcases List.prefix_concat_iff.mp earlier with rfl | earlier
    · exact succeeds
    · have now := ih earlier fun later after within =>
        kept later after (within.trans (List.prefix_append events [event]))
      have numbers : ((channel.handleAll events).slots.map (·.id)).Nodup := by
        rw [ids_handleAll]
        exact numbered
      have last := kept (events ++ [event]) (earlier.trans (List.prefix_append events [event]))
        (List.prefix_refl _)
      rw [handleAll_append] at last ⊢
      exact now.handle numbers last

/-- When a channel is done, it tells success exactly if some filter was complete at some moment of the run and
never after that merely in order. -/
theorem finished_with_success (channel : Channel) (receiver : Receiver) (history : List Call)
    (events : List (FilterId × Delivery)) :
    let started := (channel.start receiver history).1
    let final := started.handleAll events
    final.state = .done → ∃ success, final.outcome = .finished success ∧
      (success = true ↔ ∃ filter, ∃ before, before <+: events ∧
        (started.handleAll before).Succeeds filter ∧
        ∀ later, before <+: later → later <+: events →
          (started.handleAll later).statusOf? filter ≠ some .ok) := by
  intro started final done
  have numbered : (started.slots.map (·.id)).Nodup := channel.numbered_start receiver history
  refine ⟨final.success, ?_, ?_⟩
  · unfold outcome
    rw [done]
  rw [success_iff (channel.numbered_handleAll receiver history events)]
  constructor
  · rintro ⟨filter, succeeds⟩
    refine ⟨filter, events, List.prefix_refl _, succeeds, fun later after within => ?_⟩
    obtain ⟨status, given, success⟩ := succeeds
    rw [within.eq_of_length_le after.length_le]
    rintro merely
    rw [merely] at given
    cases given
    cases success
  · rintro ⟨filter, before, earlier, succeeds, kept⟩
    exact ⟨filter, succeeds.handleAll numbered earlier kept⟩

end Channel

/-! One network is complete, and then a section of another comes. -/

namespace SecondNetwork

open QuietNetwork
open scoped HanDecoders

def stops : List (FilterId × Delivery) := [(1, .stopped), (2, .stopped), (3, .stopped)]

theorem finished_without_success :
    (started.handleAll [(1, first 1 0 true)]).statusOf? 1 = some .complete ∧
      (started.handleAll ((1, first 1 0 true) :: (1, first 2 1 true) :: stops)).outcome =
        .finished false := by
  decide +kernel

theorem finished_with_network :
    let events := (1, first 1 0 true) :: stops
    let final := started.handleAll events
    final.state = .done ∧ ∃ success, final.outcome = .finished success ∧
      (success = true ↔ ∃ filter, ∃ before, before <+: events ∧
        (started.handleAll before).Succeeds filter ∧
        ∀ later, before <+: later → later <+: events →
          (started.handleAll later).statusOf? filter ≠ some .ok) := by
  intro events final
  have done : final.state = .done := by decide +kernel
  exact ⟨done, Channel.finished_with_success (.new .standard 5000) .willing [] events done⟩

end SecondNetwork

end DvbScan
