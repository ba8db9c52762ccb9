import DvbScan.Proofs.ChannelStep
import Mathlib.Data.List.Nodup

/-!
# Who holds the filters

A channel holds the filters that it opened and did not close. It gives every filter a number of its own, and
it closes no filter that it does not hold. So of the filters that were ever opened each is either held or
was closed exactly once.
-/

namespace DvbScan

namespace FilterSlot

def held (slot : FilterSlot) : List FilterId := if slot.isOpen then [slot.id] else []

@[simp]
theorem held_close (slot : FilterSlot) : slot.close.1.held = [] := rfl

@[simp]
theorem closed_close (slot : FilterSlot) : Call.closed slot.close.2 = slot.held := by
  unfold close held
  cases slot.isOpen <;> rfl

theorem closed_append_held_update (slot : FilterSlot) (status : FilterStatus) :
    Call.closed (slot.update status).2 ++ (slot.update status).1.held = slot.held := by
  obtain ⟨entered, kept | closed⟩ := slot.update_cases status
  · rw [kept]
    rfl
  · rw [closed, closed_close, held_close, List.append_nil]
    rfl

end FilterSlot

namespace Channel

def held (channel : Channel) : List FilterId := channel.slots.flatMap (·.held)

/-- Of the filters held before a status is taken, each is closed or still held. -/
theorem perm_settle (channel : Channel) (filter : FilterId) (status : FilterStatus) :
    (Call.closed (channel.settle filter status).2 ++ (channel.settle filter status).1.held).Perm
      channel.held := by
  unfold held
  rw [slots_settle]
  unfold settle
  simp only [Call.closed_flatMap]
  -- one slot takes the status and the others do nothing, but their closings come before what is held
  induction channel.slots with
  | nil => exact .refl _
  | cons slot rest ih =>
    simp only [List.map_cons, List.flatMap_cons]
    have own : Call.closed (if slot.id = filter then slot.update status else (slot, [])).2 ++
        (settled filter status slot).held = slot.held := by
      unfold settled
      split
      · exact slot.closed_append_held_update status
      · rfl
    rw [← own]
    simp only [List.append_assoc]
    apply List.Perm.append_left
    refine (List.perm_append_comm_assoc _ _ _).trans ?_
    exact List.Perm.append_left _ ih

theorem closed_cancel (channel : Channel) : Call.closed channel.cancel.2 = channel.held := by
  unfold cancel held
  simp [Call.closed_flatMap]

theorem Opened.held {asked : Nat} {specs : List FilterSpec} {slots : List FilterSlot}
    {calls : List Call} (opened : Opened asked specs slots calls) :
    slots.flatMap (·.held) = slots.map (·.id) := by
  rw [List.map_eq_flatMap]
  apply List.flatMap_congr
  intro slot member
  unfold FilterSlot.held
  rw [(opened.fresh slot member).1]
  rfl

/-- After the calls of a scan, the channel holds the filters that were opened and not closed, each of which
has a number of its own. -/
structure Keeps (channel : Channel) (calls : List Call) : Prop where
  numbered : ∀ filter ∈ Call.openedFilters calls, channel.filtersAsked ≥ filter
  ordered : (Call.openedFilters calls).Pairwise (· < ·)
  accounted : (Call.closed calls ++ channel.held).Perm (Call.openedFilters calls)

namespace Keeps

variable {channel : Channel} {calls : List Call}

theorem of_new (platform : Platform) (filterTimeout : Nat) : (new platform filterTimeout).Keeps [] :=
  ⟨nofun, .nil, .nil⟩

theorem release (keeps : channel.Keeps calls) {next : Channel} {more : List Call}
    (asked : next.filtersAsked = channel.filtersAsked) (opened : Call.opened more = [])
    (released : (Call.closed more ++ next.held).Perm channel.held) : next.Keeps (calls ++ more) := by
  have filters : Call.openedFilters (calls ++ more) = Call.openedFilters calls := by
    simp [Call.openedFilters, opened]
  refine ⟨?_, ?_, ?_⟩
  · rw [filters, asked]
    exact keeps.numbered
  · rw [filters]
    exact keeps.ordered
  · rw [filters, Call.closed_append, List.append_assoc]
    exact (released.append_left _).trans keeps.accounted

theorem cancel (keeps : channel.Keeps calls) : channel.cancel.1.Keeps (calls ++ channel.cancel.2) := by
  refine keeps.release ?_ ?_ ?_
  · rfl
  · exact opened_cancel channel
  · rw [closed_cancel]
    exact .of_eq (List.append_nil _)

theorem finish (keeps : channel.Keeps calls) : channel.finish.1.Keeps (calls ++ channel.finish.2.1) :=
  ⟨keeps.cancel.numbered, keeps.cancel.ordered, keeps.cancel.accounted⟩

theorem take (keeps : channel.Keeps calls) (idle : channel.held = []) {next : Channel}
    {more : List Call} {specs : List FilterSpec}
    (opened : Opened channel.filtersAsked specs next.slots more)
    (asked : next.filtersAsked = channel.filtersAsked + specs.length) :
    next.Keeps (calls ++ more) := by
  refine ⟨?_, ?_, ?_⟩
  · intro filter member
    rw [Call.openedFilters_append, opened.filters] at member
    rw [asked]
    rcases List.mem_append.mp member with before | now
    · exact Nat.le_add_right_of_le (keeps.numbered filter before)
    · obtain ⟨slot, present, rfl⟩ := List.mem_map.mp now
      exact (opened.numbered slot present).2
  · rw [Call.openedFilters_append, opened.filters]
    refine List.pairwise_append.mpr ⟨keeps.ordered, opened.ordered, fun before early after late => ?_⟩
    obtain ⟨slot, present, rfl⟩ := List.mem_map.mp late
    exact Nat.lt_of_le_of_lt (keeps.numbered before early) (opened.numbered slot present).1
  · have accounted := keeps.accounted
    rw [idle, List.append_nil] at accounted
    rw [Call.openedFilters_append, opened.filters, Call.closed_append, opened.closed, List.append_nil]
    unfold held
    rw [opened.held]
    exact accounted.append_right _

theorem start (keeps : channel.Keeps calls) (receiver : Receiver) :
    (channel.start receiver calls).1.Keeps (calls ++ (channel.start receiver calls).2.1) := by
  obtain ⟨opening, made, opened⟩ := channel.start_spec receiver calls
  rw [made, ← List.append_assoc]
  exact keeps.cancel.take rfl opened rfl

theorem handle (keeps : channel.Keeps calls) (filter : FilterId) (delivery : Delivery) :
    (channel.handle filter delivery).1.Keeps (calls ++ (channel.handle filter delivery).2.1) := by
  obtain dropped | ⟨networks, bouquets, services, status, found, read⟩ :=
    channel.handle_cases filter delivery
  · rw [dropped, List.append_nil]
    exact keeps
  · rw [read]
    refine keeps.release ?_ ?_ ?_
    · rfl
    · exact opened_settle _ filter status
    · exact perm_settle _ filter status

/-- A filter is held or closed, and closed no more than once. -/
theorem count_closed_le (keeps : channel.Keeps calls) (filter : FilterId) :
    (Call.closed calls).count filter ≤ 1 := by
  have once : (Call.openedFilters calls).count filter ≤ 1 :=
    List.nodup_iff_count_le_one.mp (keeps.ordered.imp Nat.ne_of_lt) filter
  rw [← keeps.accounted.count_eq, List.count_append] at once
  omega

theorem count_closed_eq (keeps : channel.Keeps calls) (idle : channel.held = []) {filter : FilterId}
    (opened : filter ∈ Call.openedFilters calls) : (Call.closed calls).count filter = 1 := by
  have accounted := keeps.accounted
  rw [idle, List.append_nil] at accounted
  rw [accounted.count_eq]
  exact List.count_eq_one_of_mem (keeps.ordered.imp Nat.ne_of_lt) opened

end Keeps

end Channel

end DvbScan
