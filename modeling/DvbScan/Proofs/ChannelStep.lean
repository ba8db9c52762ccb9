import DvbScan.Scan.Channel

/-!
# One step of a channel

What a channel may do is little: it opens filters in order, it gives a delivery to the reader of its table,
and the filter that delivered takes a status and may be closed. Each of these is described here once, with all
that it leaves as it was.
-/

namespace DvbScan

namespace Call

def openedFilters (calls : List Call) : List FilterId := (opened calls).map (·.1)

def isOpening : Call → Bool
  | openFilter _ _ => true
  | tune _ _ _ | closeFilter _ => false

@[simp]
theorem opened_append (first second : List Call) :
    opened (first ++ second) = opened first ++ opened second :=
  List.filterMap_append

@[simp]
theorem closed_append (first second : List Call) :
    closed (first ++ second) = closed first ++ closed second :=
  List.filterMap_append

@[simp]
theorem openedFilters_append (first second : List Call) :
    openedFilters (first ++ second) = openedFilters first ++ openedFilters second := by
  simp [openedFilters]

theorem opened_flatMap {α : Type} (values : List α) (calls : α → List Call) :
    opened (values.flatMap calls) = values.flatMap fun value => opened (calls value) := by
  induction values with
  | nil => rfl
  | cons value rest ih => simp [ih]

theorem closed_flatMap {α : Type} (values : List α) (calls : α → List Call) :
    closed (values.flatMap calls) = values.flatMap fun value => closed (calls value) := by
  induction values with
  | nil => rfl
  | cons value rest ih => simp [ih]

theorem not_isOpening_of_opened {calls : List Call} (none : opened calls = []) :
    ∀ call ∈ calls, call.isOpening = false := by
  intro call member
  cases call with
  | openFilter filter request =>
    have present : (filter, request) ∈ opened calls := List.mem_filterMap.mpr ⟨_, member, rfl⟩
    rw [none] at present
    cases present
  | tune => rfl
  | closeFilter => rfl

end Call

/-! ## One filter -/

namespace FilterSlot

@[simp]
theorem opened_close (slot : FilterSlot) : Call.opened slot.close.2 = [] := by
  unfold close
  cases slot.isOpen <;> rfl

/-- What a slot does on a status: it keeps its filter or closes it, and takes a status. -/
theorem update_cases (slot : FilterSlot) (status : FilterStatus) :
    ∃ entered, slot.update status = ({ slot with status := entered }, []) ∨
      slot.update status = ({ slot with status := entered } : FilterSlot).close := by
  have entering : ∃ entered, slot.enter status = ({ slot with status := entered }, []) ∨
      slot.enter status = ({ slot with status := entered } : FilterSlot).close := by
    refine ⟨status, ?_⟩
    unfold enter
    by_cases closing : status.isClosing
    · exact .inr (by simp [closing])
    · exact .inl (by simp [closing])
  unfold update
  split
  · exact ⟨slot.status, .inl rfl⟩
  · split
    · exact entering
    · exact entering
    · exact entering
    · exact entering
    · exact ⟨slot.status, .inr rfl⟩
    · exact ⟨slot.status, .inr rfl⟩
    · exact ⟨slot.status, .inl rfl⟩

@[simp]
theorem id_update (slot : FilterSlot) (status : FilterStatus) :
    (slot.update status).1.id = slot.id := by
  obtain ⟨entered, kept | closed⟩ := slot.update_cases status
  · rw [kept]
  · rw [closed]
    rfl

@[simp]
theorem role_update (slot : FilterSlot) (status : FilterStatus) :
    (slot.update status).1.role = slot.role := by
  obtain ⟨entered, kept | closed⟩ := slot.update_cases status
  · rw [kept]
  · rw [closed]
    rfl

theorem opened_update (slot : FilterSlot) (status : FilterStatus) :
    Call.opened (slot.update status).2 = [] := by
  obtain ⟨entered, kept | closed⟩ := slot.update_cases status
  · rw [kept]
    rfl
  · rw [closed]
    exact opened_close _

end FilterSlot

namespace Channel

/-! ## A status for a filter -/

def settled (filter : FilterId) (status : FilterStatus) (slot : FilterSlot) : FilterSlot :=
  if slot.id = filter then (slot.update status).1 else slot

theorem settled_of_ne {filter : FilterId} {slot : FilterSlot} (other : slot.id ≠ filter)
    (status : FilterStatus) : settled filter status slot = slot :=
  if_neg other

@[simp]
theorem id_settled (filter : FilterId) (status : FilterStatus) (slot : FilterSlot) :
    (settled filter status slot).id = slot.id := by
  unfold settled
  split
  · exact slot.id_update status
  · rfl

@[simp]
theorem role_settled (filter : FilterId) (status : FilterStatus) (slot : FilterSlot) :
    (settled filter status slot).role = slot.role := by
  unfold settled
  split
  · exact slot.role_update status
  · rfl

theorem slots_settle (channel : Channel) (filter : FilterId) (status : FilterStatus) :
    (channel.settle filter status).1.slots = channel.slots.map (settled filter status) := by
  unfold settle settled
  simp only [List.map_map]
  apply List.map_congr_left
  intro slot _
  simp only [Function.comp_apply]
  split <;> rfl

theorem state_settle (channel : Channel) (filter : FilterId) (status : FilterStatus) :
    (channel.settle filter status).1.state =
      if (channel.settle filter status).1.slots.all (·.status.isTerminal) then .done
      else channel.state := rfl

theorem opened_settle (channel : Channel) (filter : FilterId) (status : FilterStatus) :
    Call.opened (channel.settle filter status).2 = [] := by
  unfold settle
  simp only [Call.opened_flatMap, List.flatMap_eq_nil_iff, List.mem_map]
  rintro _ ⟨slot, -, rfl⟩
  split
  · exact slot.opened_update status
  · rfl

/-! ## A delivery -/

/-- What the answer of a reader means for a filter of a status, and what it tells. -/
def taken (current : FilterStatus) :
    Except SiError (Arrival × Bool × List Finding) → FilterStatus × List Finding
  | .error _ => (.error, [])
  | .ok (arrival, allComplete, found) => (statusAfter arrival allComplete current, found)

theorem process_of_framed (channel : Channel) (role : TableRole) {bytes : Bytes} {whole : Section}
    (framed : Section.parse bytes = .ok whole) :
    channel.process role bytes =
      ((channel.processWhole role whole).1,
        taken ((channel.filterStatus? role).getD .blank) (channel.processWhole role whole).2) := by
  unfold process
  rw [framed]
  simp only
  generalize channel.processWhole role whole = result
  obtain ⟨read, error | ⟨arrival, allComplete, found⟩⟩ := result
  · rfl
  · rfl

theorem process_of_unframed (channel : Channel) (role : TableRole) {bytes : Bytes} {error : SiError}
    (fault : Section.parse bytes = .error error) :
    channel.process role bytes = (channel, .error, []) := by
  unfold process
  rw [fault]

def read (channel : Channel) (role : TableRole) :
    Delivery → Channel × FilterStatus × List Finding
  | .bytes bytes => channel.process role bytes
  | .stopped => (channel, .stopped, [])
  | .failed _ => (channel, .error, [])

theorem read_fst (channel : Channel) (role : TableRole) (delivery : Delivery) :
    ∃ networks bouquets services,
      (channel.read role delivery).1 = { channel with networks, bouquets, services } := by
  have unread : ∃ networks bouquets services,
      channel = { channel with networks, bouquets, services } :=
    ⟨channel.networks, channel.bouquets, channel.services, rfl⟩
  cases delivery with
  | stopped => exact unread
  | failed error => exact unread
  | bytes bytes =>
    change ∃ networks bouquets services,
      (channel.process role bytes).1 = { channel with networks, bouquets, services }
    cases framing : Section.parse bytes with
    | error fault =>
      rw [process_of_unframed channel role framing]
      exact unread
    | ok whole =>
      rw [process_of_framed channel role framing]
      cases role with
      | network => exact ⟨_, channel.bouquets, channel.services, rfl⟩
      | bouquet => exact ⟨channel.networks, _, channel.services, rfl⟩
      | servicesActual => exact ⟨channel.networks, channel.bouquets, _, rfl⟩
      | servicesOther => exact ⟨channel.networks, channel.bouquets, _, rfl⟩

theorem handle_of_not_awaiting {channel : Channel} (state : channel.state ≠ .awaitingSections)
    (filter : FilterId) (delivery : Delivery) : channel.handle filter delivery = (channel, [], []) :=
  if_pos state

theorem handle_of_absent {channel : Channel} {filter : FilterId}
    (absent : channel.slots.find? (·.id == filter) = none) (delivery : Delivery) :
    channel.handle filter delivery = (channel, [], []) := by
  unfold handle
  split
  · rfl
  · rw [absent]

theorem handle_of_unknown {channel : Channel} {filter : FilterId}
    (unknown : filter ∉ channel.slots.map (·.id)) (delivery : Delivery) :
    channel.handle filter delivery = (channel, [], []) := by
  refine handle_of_absent (List.find?_eq_none.mpr fun slot member => ?_) delivery
  simp only [beq_iff_eq]
  intro same
  exact unknown (List.mem_map.mpr ⟨slot, member, same⟩)

theorem handle_of_known {channel : Channel} {filter : FilterId} {slot : FilterSlot}
    (state : channel.state = .awaitingSections)
    (known : channel.slots.find? (·.id == filter) = some slot) (delivery : Delivery) :
    channel.handle filter delivery =
      let read := channel.read slot.role delivery
      let settled := read.1.settle filter read.2.1
      (settled.1, settled.2, read.2.2) := by
  unfold handle
  rw [if_neg (by simp [state]), known]
  cases delivery <;> rfl

/-- A delivery is dropped, or it is read and the filter takes a status. -/
theorem handle_cases (channel : Channel) (filter : FilterId) (delivery : Delivery) :
    channel.handle filter delivery = (channel, [], []) ∨
      ∃ networks bouquets services status found,
        let read : Channel := { channel with networks, bouquets, services }
        channel.handle filter delivery =
          ((read.settle filter status).1, (read.settle filter status).2, found) := by
  by_cases state : channel.state = .awaitingSections
  · cases known : channel.slots.find? (·.id == filter) with
    | none => exact .inl (handle_of_absent known delivery)
    | some slot =>
      right
      obtain ⟨networks, bouquets, services, read⟩ := channel.read_fst slot.role delivery
      refine ⟨networks, bouquets, services, (channel.read slot.role delivery).2.1,
        (channel.read slot.role delivery).2.2, ?_⟩
      rw [handle_of_known state known, ← read]
  · exact .inl (handle_of_not_awaiting state filter delivery)

theorem state_handle (channel : Channel) (filter : FilterId) (delivery : Delivery) :
    (channel.handle filter delivery).1.state = .done ∨
      (channel.handle filter delivery).1.state = channel.state := by
  obtain dropped | ⟨networks, bouquets, services, status, found, read⟩ :=
    channel.handle_cases filter delivery
  · rw [dropped]
    exact .inr rfl
  · rw [read]
    simp only [state_settle]
    split
    · exact .inl rfl
    · exact .inr rfl

theorem opened_handle (channel : Channel) (filter : FilterId) (delivery : Delivery) :
    Call.opened (channel.handle filter delivery).2.1 = [] := by
  obtain dropped | ⟨networks, bouquets, services, status, found, read⟩ :=
    channel.handle_cases filter delivery
  · rw [dropped]
    rfl
  · rw [read]
    exact opened_settle _ filter status

def wiring (channel : Channel) : List (FilterId × TableRole) :=
  channel.slots.map fun slot => (slot.id, slot.role)

theorem wiring_settle (channel : Channel) (filter : FilterId) (status : FilterStatus) :
    (channel.settle filter status).1.wiring = channel.wiring := by
  unfold wiring
  rw [slots_settle, List.map_map]
  apply List.map_congr_left
  intro slot _
  simp

theorem wiring_handle (channel : Channel) (filter : FilterId) (delivery : Delivery) :
    (channel.handle filter delivery).1.wiring = channel.wiring := by
  obtain dropped | ⟨networks, bouquets, services, status, found, read⟩ :=
    channel.handle_cases filter delivery
  · rw [dropped]
  · rw [read]
    exact wiring_settle _ filter status

theorem ids_handle (channel : Channel) (filter : FilterId) (delivery : Delivery) :
    (channel.handle filter delivery).1.slots.map (·.id) = channel.slots.map (·.id) := by
  have numbers := congrArg (List.map Prod.fst) (channel.wiring_handle filter delivery)
  unfold wiring at numbers
  rw [List.map_map, List.map_map] at numbers
  exact numbers

theorem outcome_eq_running_iff {channel : Channel} :
    channel.outcome = .running ↔ channel.state ≠ .done := by
  unfold outcome
  cases channel.state <;> simp

/-! ## Opening and closing -/

theorem state_cancel (channel : Channel) : channel.cancel.1.state ≠ .awaitingSections := by
  unfold cancel
  simp only
  split
  · nofun
  · assumption

theorem opened_cancel (channel : Channel) : Call.opened channel.cancel.2 = [] := by
  unfold cancel
  simp [Call.opened_flatMap]

/-- What comes of asking for filters, the numbers up to `asked` being taken. -/
structure Opened (asked : Nat) (specs : List FilterSpec) (slots : List FilterSlot)
    (calls : List Call) : Prop where
  filters : Call.openedFilters calls = slots.map (·.id)
  openings : ∀ call ∈ calls, call.isOpening = true
  fresh : ∀ slot ∈ slots, slot.isOpen = true ∧ slot.status = .blank
  numbered : ∀ slot ∈ slots, asked < slot.id ∧ asked + specs.length ≥ slot.id
  ordered : (slots.map (·.id)).Pairwise (· < ·)
  roles : (slots.map (·.role)).Sublist (specs.map (·.role))
  tables : ∀ slot ∈ slots, ∀ request, (slot.id, request) ∈ Call.opened calls →
    ∃ spec ∈ specs, spec.role = slot.role ∧ spec.tableId = request.tableId

namespace Opened

variable {asked timeout : Nat} {spec : FilterSpec} {specs : List FilterSpec}
  {slots : List FilterSlot} {calls : List Call}

/-- A filter that is refused takes its number with it. -/
theorem refused (rest : Opened (asked + 1) specs slots calls) :
    Opened asked (spec :: specs) slots calls where
  filters := rest.filters
  openings := rest.openings
  fresh := rest.fresh
  numbered slot member := by
    have bounds := rest.numbered slot member
    rw [List.length_cons]
    omega
  ordered := rest.ordered
  roles := rest.roles.cons _
  tables slot member request chosen := by
    obtain ⟨spec, present, same⟩ := rest.tables slot member request chosen
    exact ⟨spec, List.mem_cons_of_mem _ present, same⟩

theorem accepted (rest : Opened (asked + 1) specs slots calls) :
    Opened asked (spec :: specs)
      ({ id := asked + 1, role := spec.role, status := .blank, isOpen := true } :: slots)
      (.openFilter (asked + 1)
        { pid := spec.pid, tableId := spec.tableId, mask := spec.mask, timeout } :: calls) where
  filters := congrArg (List.cons (asked + 1)) rest.filters
  openings call member := by
    rcases List.mem_cons.mp member with rfl | later
    · rfl
    · exact rest.openings call later
  fresh slot member := by
    rcases List.mem_cons.mp member with rfl | later
    · exact ⟨rfl, rfl⟩
    · exact rest.fresh slot later
  numbered slot member := by
    rw [List.length_cons]
    rcases List.mem_cons.mp member with rfl | later
    · exact ⟨Nat.lt_succ_self asked, Nat.add_le_add_left (Nat.le_add_left 1 _) asked⟩
    · have bounds := rest.numbered slot later
      omega
  ordered := by
    refine List.pairwise_cons.mpr ⟨fun id member => ?_, rest.ordered⟩
    obtain ⟨slot, later, rfl⟩ := List.mem_map.mp member
    exact (rest.numbered slot later).1
  roles := rest.roles.cons_cons _
  tables slot member request chosen := by
    rcases List.mem_cons.mp member with rfl | later
    · rcases List.mem_cons.mp chosen with same | other
      · cases same
        exact ⟨spec, List.mem_cons_self, rfl, rfl⟩
      · -- the filters opened later have greater numbers
        have number : asked + 1 ∈ Call.openedFilters calls := List.mem_map.mpr ⟨_, other, rfl⟩
        rw [rest.filters] at number
        obtain ⟨twin, present, same⟩ := List.mem_map.mp number
        have above := (rest.numbered twin present).1
        omega
    · rcases List.mem_cons.mp chosen with same | other
      · have above := (rest.numbered slot later).1
        exact absurd (congrArg Prod.fst same) (Nat.ne_of_gt above)
      · obtain ⟨spec, present, same⟩ := rest.tables slot later request other
        exact ⟨spec, List.mem_cons_of_mem _ present, same⟩

theorem closed (opened : Opened asked specs slots calls) : Call.closed calls = [] := by
  refine List.filterMap_eq_nil_iff.mpr fun call member => ?_
  have opening := opened.openings call member
  cases call with
  | openFilter => rfl
  | tune => cases opening
  | closeFilter => cases opening

end Opened

theorem opened_openFilters (receiver : Receiver) (timeout asked : Nat) (specs : List FilterSpec)
    (history : List Call) :
    Opened asked specs (openFilters receiver timeout asked specs history).1
      (openFilters receiver timeout asked specs history).2 := by
  induction specs generalizing asked history with
  | nil => exact ⟨rfl, nofun, nofun, nofun, .nil, .slnil, nofun⟩
  | cons spec rest ih =>
    unfold openFilters
    simp only
    split
    · exact (ih _ _).refused
    · exact (ih _ _).accepted

theorem start_spec (channel : Channel) (receiver : Receiver) (history : List Call) :
    ∃ opening, (channel.start receiver history).2.1 = channel.cancel.2 ++ opening ∧
      Opened channel.filtersAsked channel.filters (channel.start receiver history).1.slots opening :=
  ⟨_, rfl, opened_openFilters _ _ _ _ _⟩

theorem state_start (channel : Channel) (receiver : Receiver) (history : List Call) :
    (channel.start receiver history).1.state =
      if (channel.start receiver history).1.slots.isEmpty then .done else .awaitingSections := rfl

theorem start_of_running {channel : Channel} {receiver : Receiver} {history : List Call}
    (running : (channel.start receiver history).2.2 = .running) :
    (channel.start receiver history).1.slots ≠ [] ∧
      (channel.start receiver history).1.state = .awaitingSections := by
  change (channel.start receiver history).1.outcome = .running at running
  have state := channel.state_start receiver history
  by_cases empty : (channel.start receiver history).1.slots.isEmpty
  · rw [if_pos empty] at state
    rw [outcome_eq_running_iff] at running
    exact absurd state running
  · rw [if_neg empty] at state
    exact ⟨by simpa using empty, state⟩

end Channel

end DvbScan
