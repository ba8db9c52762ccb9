import DvbScan.Proofs.ChannelRun
import DvbScan.Proofs.FutureSections
import DvbScan.Scan.Bench
import Mathlib.Data.List.Find

/-!
# A channel that is begun anew

A channel that has heard other channels before numbers its filters from where it had come to, and in all else
begins as one that was just made. What it tells afterwards depends on the order in which its filters were opened
and not on their numbers.
-/

namespace DvbScan

/-! ## Filters under other numbers -/

def FilterSlot.renumber (name : FilterId → FilterId) (slot : FilterSlot) : FilterSlot :=
  { slot with id := name slot.id }

def Call.renumber (name : FilterId → FilterId) : Call → Call
  | .openFilter filter request => .openFilter (name filter) request
  | .closeFilter filter => .closeFilter (name filter)
  | .tune attempt tuning timeout => .tune attempt tuning timeout

namespace FilterSlot

variable (name : FilterId → FilterId) (slot : FilterSlot)

theorem update_renumber (status : FilterStatus) :
    (slot.renumber name).update status =
      ((slot.update status).1.renumber name, (slot.update status).2.map (Call.renumber name)) := by
  obtain ⟨id, role, current, isOpen⟩ := slot
  cases isOpen <;> cases current <;> cases status <;> rfl

theorem close_renumber : (slot.renumber name).close.2 = slot.close.2.map (Call.renumber name) := by
  unfold close renumber
  cases slot.isOpen <;> rfl

end FilterSlot

namespace ServiceTableReader

theorem reset_withTracker (reader : ServiceTableReader) (isActual : Bool) (tracker : TableTracker) :
    (reader.withTracker isActual tracker).reset = reader.reset := by
  cases isActual <;> rfl

theorem reset_of_process {reader next : ServiceTableReader} {whole : Section} {arrival : Arrival}
    {found : List Finding} (taken : reader.process whole = .ok (next, arrival, found)) :
    next.reset = reader.reset := by
  cases known : isActual? whole.header.tableId with
  | none =>
    rw [process_of_unexpected known] at taken
    cases taken
  | some isActual =>
    cases reading : ServiceSection.parse whole reader.table with
    | error fault =>
      rw [process_of_malformed known reading] at taken
      cases taken
    | ok parsed =>
      rw [process_of_parsed known reading] at taken
      cases taken
      exact reader.reset_withTracker isActual _

theorem reset_processServices (reader : ServiceTableReader) (role : TableRole) (whole : Section) :
    (Channel.processServices reader role whole).1.reset = reader.reset := by
  unfold Channel.processServices
  split
  · rfl
  · next taken => exact reset_of_process taken

end ServiceTableReader

namespace Channel

/-- The channel with its filters under other numbers. How many filters it asked for before, and how long it
would wait, matters to the next opening only and is left out. -/
def renumber (name : FilterId → FilterId) (channel : Channel) : Channel :=
  { channel with
    filterTimeout := 0
    filtersAsked := 0
    slots := channel.slots.map (·.renumber name) }

def Report.renumber (name : FilterId → FilterId) (report : Report) : Report :=
  { report with calls := report.calls.map (Call.renumber name) }

variable {name : FilterId → FilterId} {channel : Channel} {filter : FilterId}

theorem filterStatus?_renumber (name : FilterId → FilterId) (channel : Channel) (role : TableRole) :
    (channel.renumber name).filterStatus? role = channel.filterStatus? role := by
  unfold filterStatus? slotOf? renumber
  rw [List.find?_map, Option.map_map]
  rfl

theorem success_renumber (name : FilterId → FilterId) (channel : Channel) :
    (channel.renumber name).success = channel.success := by
  unfold success renumber
  rw [List.any_map]
  rfl

theorem outcome_renumber (name : FilterId → FilterId) (channel : Channel) :
    (channel.renumber name).outcome = channel.outcome := by
  unfold outcome
  rw [success_renumber]
  rfl

theorem processWhole_renumber (channel : Channel) (role : TableRole) (whole : Section) :
    (channel.renumber name).processWhole role whole =
      ((channel.processWhole role whole).1.renumber name, (channel.processWhole role whole).2) := by
  cases role <;> rfl

theorem read_renumber (channel : Channel) (role : TableRole) (delivery : Delivery) :
    (channel.renumber name).read role delivery =
      ((channel.read role delivery).1.renumber name, (channel.read role delivery).2) := by
  cases delivery with
  | stopped => rfl
  | failed error => rfl
  | bytes bytes =>
    change (channel.renumber name).process role bytes =
      ((channel.process role bytes).1.renumber name, (channel.process role bytes).2)
    cases framing : Section.parse bytes with
    | error fault => rw [process_of_unframed _ role framing, process_of_unframed _ role framing]
    | ok whole =>
      rw [process_of_framed _ role framing, process_of_framed _ role framing, processWhole_renumber,
        filterStatus?_renumber]

/-- The new name of a filter is that of no other filter on the channel. -/
def Tells (name : FilterId → FilterId) (channel : Channel) (filter : FilterId) : Prop :=
  ∀ slot ∈ channel.slots, name slot.id = name filter → slot.id = filter

theorem Tells.iff (tells : Tells name channel filter) {slot : FilterSlot} (present : slot ∈ channel.slots) :
    name slot.id = name filter ↔ slot.id = filter :=
  ⟨tells slot present, congrArg name⟩

theorem settle_renumber (tells : Tells name channel filter) (status : FilterStatus) :
    (channel.renumber name).settle (name filter) status =
      ((channel.settle filter status).1.renumber name,
        (channel.settle filter status).2.map (Call.renumber name)) := by
  have updated : (channel.renumber name).slots.map (fun slot =>
        if slot.id = name filter then slot.update status else (slot, [])) =
      (channel.slots.map fun slot => if slot.id = filter then slot.update status else (slot, [])).map
        fun update => (update.1.renumber name, update.2.map (Call.renumber name)) := by
    unfold renumber
    rw [List.map_map, List.map_map]
    apply List.map_congr_left
    intro slot present
    simp only [Function.comp_apply]
    rw [show (slot.renumber name).id = name slot.id from rfl]
    by_cases own : slot.id = filter
    · rw [if_pos own, if_pos ((tells.iff present).mpr own)]
      exact slot.update_renumber name status
    · rw [if_neg own, if_neg (own ∘ (tells.iff present).mp)]
      rfl
  unfold settle
  simp only [updated, List.map_map, List.all_map, List.flatMap_map]
  unfold renumber
  simp only [List.map_map, List.map_flatMap]
  rfl

theorem cancel_renumber (name : FilterId → FilterId) (channel : Channel) :
    (channel.renumber name).cancel =
      (channel.cancel.1.renumber name, channel.cancel.2.map (Call.renumber name)) := by
  have calls : (channel.slots.map (·.renumber name)).flatMap (·.close.2) =
      (channel.slots.flatMap (·.close.2)).map (Call.renumber name) := by
    rw [List.flatMap_map, List.map_flatMap]
    apply congrArg channel.slots.flatMap
    funext slot
    exact slot.close_renumber name
  unfold cancel
  rw [← calls]
  rfl

theorem find?_renumber (tells : Tells name channel filter) :
    (channel.renumber name).slots.find? (·.id == name filter) =
      (channel.slots.find? (·.id == filter)).map (·.renumber name) := by
  unfold renumber
  rw [List.find?_map]
  apply congrArg
  apply List.find?_congr
  intro slot present
  apply Bool.eq_iff_iff.mpr
  rw [Function.comp_apply, beq_iff_eq, beq_iff_eq]
  exact tells.iff present

theorem handle_renumber (tells : Tells name channel filter) (delivery : Delivery) :
    (channel.renumber name).handle (name filter) delivery =
      ((channel.handle filter delivery).1.renumber name,
        (channel.handle filter delivery).2.1.map (Call.renumber name),
        (channel.handle filter delivery).2.2) := by
  have found := find?_renumber tells
  by_cases state : channel.state = .awaitingSections
  · have awaiting : (channel.renumber name).state = .awaitingSections := state
    cases known : channel.slots.find? (·.id == filter) with
    | none =>
      rw [known] at found
      rw [handle_of_absent known, handle_of_absent found]
      rfl
    | some slot =>
      rw [known] at found
      have told : Tells name (channel.read slot.role delivery).1 filter := by
        intro twin present
        rw [slots_read] at present
        exact tells twin present
      rw [handle_of_known state known, handle_of_known awaiting found]
      simp only
      rw [show (slot.renumber name).role = slot.role from rfl, read_renumber, settle_renumber told]
  · have unheard : (channel.renumber name).state ≠ .awaitingSections := state
    rw [handle_of_not_awaiting state, handle_of_not_awaiting unheard]
    rfl

/-! ## Runs under other numbers -/

def renamed (name : FilterId → FilterId) (events : List (FilterId × Delivery)) :
    List (FilterId × Delivery) :=
  events.map fun event => (name event.1, event.2)

theorem Tells.handle (tells : Tells name channel filter) (other : FilterId) (delivery : Delivery) :
    Tells name (channel.handle other delivery).1 filter := by
  intro slot present same
  have number : slot.id ∈ channel.slots.map (·.id) := by
    rw [← channel.ids_handle other delivery]
    exact List.mem_map_of_mem present
  obtain ⟨before, listed, id⟩ := List.mem_map.mp number
  rw [← id] at same ⊢
  exact tells before listed same

theorem reports_renumber {events : List (FilterId × Delivery)}
    (tells : ∀ event ∈ events, Tells name channel event.1) :
    (channel.renumber name).reports (renamed name events) =
      (channel.reports events).map (Report.renumber name) := by
  induction events generalizing channel with
  | nil => rfl
  | cons event rest ih =>
    have own := tells event List.mem_cons_self
    have later : ∀ other ∈ rest, Tells name (channel.handle event.1 event.2).1 other.1 :=
      fun other member => (tells other (List.mem_cons_of_mem _ member)).handle event.1 event.2
    have told : (channel.renumber name).report (name event.1) event.2 =
        (channel.report event.1 event.2).renumber name := by
      unfold report
      rw [handle_renumber own]
      simp only [outcome_renumber]
      simp only [renumber, List.map_map]
      rfl
    change (channel.renumber name).report (name event.1) event.2 ::
        ((channel.renumber name).handle (name event.1) event.2).1.reports (renamed name rest) = _
    rw [told, handle_renumber own, ih later]
    rfl

theorem handleAll_renumber {events : List (FilterId × Delivery)}
    (tells : ∀ event ∈ events, Tells name channel event.1) :
    (channel.renumber name).handleAll (renamed name events) = (channel.handleAll events).renumber name := by
  induction events generalizing channel with
  | nil => rfl
  | cons event rest ih =>
    have later : ∀ other ∈ rest, Tells name (channel.handle event.1 event.2).1 other.1 :=
      fun other member => (tells other (List.mem_cons_of_mem _ member)).handle event.1 event.2
    change ((channel.renumber name).handle (name event.1) event.2).1.handleAll (renamed name rest) = _
    rw [handle_renumber (tells event List.mem_cons_self)]
    exact ih later

/-! ## The order of opening -/

/-- The place of a filter among those that were opened on the channel; one that was not has the place behind
them all. -/
def place (channel : Channel) (filter : FilterId) : Nat :=
  (channel.slots.map (·.id)).idxOf filter

theorem tells_place (channel : Channel) (filter : FilterId) : Tells channel.place channel filter := by
  intro slot present same
  exact (List.idxOf_inj (List.mem_map_of_mem present)).mp same

theorem place_getElem (numbered : (channel.slots.map (·.id)).Nodup) {index : Nat}
    (inside : index < channel.slots.length) : channel.place channel.slots[index].id = index := by
  have found := numbered.idxOf_getElem index (by simpa using inside)
  rwa [List.getElem_map] at found

theorem slots_renumber_place {first second : Channel} (numbered : (first.slots.map (·.id)).Nodup)
    (numbered' : (second.slots.map (·.id)).Nodup)
    (same : first.slots.map (·.renumber fun _ => 0) = second.slots.map (·.renumber fun _ => 0)) :
    first.slots.map (·.renumber first.place) = second.slots.map (·.renumber second.place) := by
  have lengths : first.slots.length = second.slots.length := by
    simpa using congrArg List.length same
  apply List.ext_getElem
  · simpa using lengths
  intro index inside inside'
  rw [List.length_map] at inside inside'
  have alike : first.slots[index].renumber (fun _ => 0) = second.slots[index].renumber (fun _ => 0) := by
    have entries := congrArg (·[index]?) same
    simpa [inside, inside'] using entries
  rw [List.getElem_map, List.getElem_map]
  calc first.slots[index].renumber first.place
    _ = { first.slots[index].renumber (fun _ => 0) with id := index } := by
      unfold FilterSlot.renumber
      rw [place_getElem numbered inside]
    _ = { second.slots[index].renumber (fun _ => 0) with id := index } := by rw [alike]
    _ = second.slots[index].renumber second.place := by
      unfold FilterSlot.renumber
      rw [place_getElem numbered' inside']

/-! ## Beginning a channel -/

def acceptances (receiver : Receiver) (timeout : Nat) (asked : Nat) :
    List FilterSpec → List Call → List Bool
  | [], _ => []
  | spec :: rest, history =>
    let id := asked + 1
    let request : FilterRequest :=
      { pid := spec.pid, tableId := spec.tableId, mask := spec.mask, timeout }
    match receiver.openFilter history id request with
    | some _ => false :: acceptances receiver timeout id rest history
    | none => true :: acceptances receiver timeout id rest (history ++ [.openFilter id request])

def accepts (channel : Channel) (receiver : Receiver) (history : List Call) : List Bool :=
  acceptances receiver channel.filterTimeout channel.filtersAsked channel.filters
    (history ++ channel.cancel.2)

theorem openFilters_eq (receiver : Receiver) (timeout asked : Nat) (specs : List FilterSpec)
    (history : List Call) :
    (openFilters receiver timeout asked specs history).1.map (·.renumber fun _ => 0) =
      ((specs.zip (acceptances receiver timeout asked specs history)).filter (·.2)).map fun answer =>
        ⟨0, answer.1.role, .blank, true⟩ := by
  induction specs generalizing asked history with
  | nil => rfl
  | cons spec rest ih =>
    unfold openFilters acceptances
    simp only
    cases receiver.openFilter history (asked + 1)
        { pid := spec.pid, tableId := spec.tableId, mask := spec.mask, timeout } with
    | some refusal => exact ih _ _
    | none => exact congrArg (List.cons _) (ih _ _)

theorem slots_start (channel : Channel) (receiver : Receiver) (history : List Call) :
    (channel.start receiver history).1.slots.map (·.renumber fun _ => 0) =
      ((channel.filters.zip (channel.accepts receiver history)).filter (·.2)).map fun answer =>
        ⟨0, answer.1.role, .blank, true⟩ :=
  openFilters_eq receiver _ _ _ _

theorem reset_read (channel : Channel) (role : TableRole) (delivery : Delivery) :
    (channel.read role delivery).1.services.reset = channel.services.reset := by
  cases delivery with
  | stopped => rfl
  | failed error => rfl
  | bytes bytes =>
    change (channel.process role bytes).1.services.reset = _
    cases framing : Section.parse bytes with
    | error fault => rw [process_of_unframed channel role framing]
    | ok whole =>
      rw [process_of_framed channel role framing]
      cases role with
      | network | bouquet => rfl
      | servicesActual | servicesOther => exact channel.services.reset_processServices _ whole

structure Serves (channel : Channel) (platform : Platform) : Prop where
  filters : channel.filters = platform.filters
  table : channel.table = platform.table
  services : channel.services.reset = (Channel.new platform 0).services

namespace Serves

variable {platform : Platform}

theorem new (platform : Platform) (timeout : Nat) : (Channel.new platform timeout).Serves platform :=
  ⟨rfl, rfl, rfl⟩

theorem cancel (serves : channel.Serves platform) : channel.cancel.1.Serves platform :=
  ⟨serves.filters, serves.table, serves.services⟩

theorem start (serves : channel.Serves platform) (receiver : Receiver) (history : List Call) :
    (channel.start receiver history).1.Serves platform :=
  ⟨serves.filters, serves.table, serves.services⟩

theorem handle (serves : channel.Serves platform) (filter : FilterId) (delivery : Delivery) :
    (channel.handle filter delivery).1.Serves platform := by
  by_cases state : channel.state = .awaitingSections
  · cases known : channel.slots.find? (·.id == filter) with
    | none =>
      rw [handle_of_absent known]
      exact serves
    | some slot =>
      rw [handle_of_known state known]
      have read := channel.reset_read slot.role delivery
      obtain ⟨networks, bouquets, services, same⟩ := channel.read_fst slot.role delivery
      simp only
      rw [same] at read ⊢
      exact ⟨serves.filters, serves.table, read.trans serves.services⟩
  · rw [handle_of_not_awaiting state]
    exact serves

end Serves

end Channel

inductive ChannelAct where
  | start (receiver : Receiver) (history : List Call)
  | deliver (filter : FilterId) (delivery : Delivery)
  | cancel
  | finish

namespace Channel

def act (channel : Channel) : ChannelAct → Channel
  | .start receiver history => (channel.start receiver history).1
  | .deliver filter delivery => (channel.handle filter delivery).1
  | .cancel => channel.cancel.1
  | .finish => channel.finish.1

def actAll (channel : Channel) (acts : List ChannelAct) : Channel := acts.foldl act channel

variable {platform : Platform} {channel first second : Channel} {receiver receiver' : Receiver}
  {history history' : List Call}

theorem Serves.act (serves : channel.Serves platform) (act : ChannelAct) :
    (channel.act act).Serves platform := by
  cases act with
  | start receiver history => exact serves.start receiver history
  | deliver filter delivery => exact serves.handle filter delivery
  | cancel => exact serves.cancel
  | finish => exact ⟨serves.filters, serves.table, serves.services⟩

theorem Serves.actAll (serves : channel.Serves platform) (acts : List ChannelAct) :
    (channel.actAll acts).Serves platform := by
  induction acts generalizing channel with
  | nil => exact serves
  | cons act rest ih => exact ih (serves.act act)

theorem start_renumber_place (serves : first.Serves platform) (serves' : second.Serves platform)
    (same : first.accepts receiver history = second.accepts receiver' history') :
    (first.start receiver history).1.renumber (first.start receiver history).1.place =
      (second.start receiver' history').1.renumber (second.start receiver' history').1.place := by
  have opened : (first.start receiver history).1.slots.map (·.renumber fun _ => 0) =
      (second.start receiver' history').1.slots.map (·.renumber fun _ => 0) := by
    rw [slots_start, slots_start, same, serves.filters, serves'.filters]
  have slots := slots_renumber_place (first.numbered_start receiver history)
    (second.numbered_start receiver' history') opened
  have state : (first.start receiver history).1.state = (second.start receiver' history').1.state := by
    have empty := congrArg List.isEmpty opened
    rw [List.isEmpty_map, List.isEmpty_map] at empty
    rw [state_start, state_start, empty]
  have filters : first.filters = second.filters := serves.filters.trans serves'.filters.symm
  have table : first.table = second.table := serves.table.trans serves'.table.symm
  have services : first.services.reset = second.services.reset :=
    serves.services.trans serves'.services.symm
  unfold renumber
  rw [slots, state]
  change Channel.mk first.filters 0 first.table _ 0 _ .empty .empty first.services.reset =
    Channel.mk second.filters 0 second.table _ 0 _ .empty .empty second.services.reset
  rw [filters, table, services]

/-- A channel that has heard other channels before tells the same, once it is begun with the filters that one
just made gets, as that one does: at once, for any deliveries that come from the filters of the same places, and
when it is cancelled or finished. The calls for its filters are the same too, by the places of the filters, up to the
order in which those that are left open are closed. -/
theorem start_forgets [HanDecoders] (kind : PlatformKind) (timeout timeout' : Nat) (acts : List ChannelAct)
    (receiver receiver' : Receiver) (history history' : List Call)
    (same : ((Channel.new (.ofKind kind) timeout).actAll acts).accepts receiver history =
      (Channel.new (.ofKind kind) timeout').accepts receiver' history') :
    let begun := ((Channel.new (.ofKind kind) timeout).actAll acts).start receiver history
    let fresh := (Channel.new (.ofKind kind) timeout').start receiver' history'
    begun.2.2 = fresh.2.2 ∧
    ∀ events events', renamed begun.1.place events = renamed fresh.1.place events' →
      (begun.1.reports events).map (Report.renumber begun.1.place) =
        (fresh.1.reports events').map (Report.renumber fresh.1.place) ∧
      (∀ role, (begun.1.handleAll events).filterStatus? role =
        (fresh.1.handleAll events').filterStatus? role) ∧
      (begun.1.handleAll events).finish.2.2 = (fresh.1.handleAll events').finish.2.2 ∧
      ((begun.1.handleAll events).cancel.2.map (Call.renumber begun.1.place)).Perm
        ((fresh.1.handleAll events').cancel.2.map (Call.renumber fresh.1.place)) ∧
      (begun.1.handleAll events).cancel.1.outcome = (fresh.1.handleAll events').cancel.1.outcome := by
  intro begun fresh
  have alike : begun.1.renumber begun.1.place = fresh.1.renumber fresh.1.place :=
    start_renumber_place ((Serves.new (.ofKind kind) timeout).actAll acts) (Serves.new (.ofKind kind) timeout') same
  constructor
  · calc begun.2.2
      _ = (begun.1.renumber begun.1.place).outcome := (outcome_renumber _ begun.1).symm
      _ = (fresh.1.renumber fresh.1.place).outcome := by rw [alike]
      _ = fresh.2.2 := outcome_renumber _ fresh.1
  intro events events' places
  have ended : (begun.1.handleAll events).renumber begun.1.place =
      (fresh.1.handleAll events').renumber fresh.1.place := by
    rw [← handleAll_renumber fun event _ => begun.1.tells_place event.1,
      ← handleAll_renumber fun event _ => fresh.1.tells_place event.1, alike, places]
  have cancelled := congrArg cancel ended
  rw [cancel_renumber, cancel_renumber] at cancelled
  refine ⟨?_, ?_, ?_, .of_eq (congrArg Prod.snd cancelled), ?_⟩
  · rw [← reports_renumber fun event _ => begun.1.tells_place event.1,
      ← reports_renumber fun event _ => fresh.1.tells_place event.1, alike, places]
  · intro role
    rw [← filterStatus?_renumber begun.1.place, ended, filterStatus?_renumber]
  · change (begun.1.handleAll events).success = (fresh.1.handleAll events').success
    rw [← success_renumber begun.1.place, ended, success_renumber]
  · have outcomes := congrArg (·.1.outcome) cancelled
    simpa only [outcome_renumber] using outcomes

end Channel

/-! A channel of the standard platform that has heard a whole network before, and a receiver that opens no filter
for the services of the own transport. -/

namespace SecondChannel

open QuietNetwork
open scoped HanDecoders

def used : Channel :=
  (Channel.new .standard 5000).actAll
    [.start .willing [], .deliver 1 (first 1 0 true), .deliver 2 .stopped, .finish]

def choosy : Receiver := BenchSettings.receiver { BenchSettings.idle with refused := [0x42] }

/-- The filters are the fourth and the sixth that the one channel asked for, the first and the third of the
other. -/
theorem start_forgets_network :
    used.accepts choosy [] = (Channel.new .standard 5000).accepts choosy [] ∧
    let begun := (used.start choosy []).1
    let fresh := ((Channel.new .standard 5000).start choosy []).1
    let events := [(4, first 2 0 true), (1, .stopped), (6, .stopped)]
    let events' := [(1, first 2 0 true), (2, .stopped), (3, .stopped)]
    Channel.renamed begun.place events = Channel.renamed fresh.place events' ∧
      (begun.reports events).map (Channel.Report.renumber begun.place) =
        (fresh.reports events').map (Channel.Report.renumber fresh.place) ∧
      (begun.reports events).map (·.statuses) =
        [[.complete, .blank], [.complete, .blank], [.complete, .stopped]] := by
  have same : used.accepts choosy [] = (Channel.new .standard 5000).accepts choosy [] := by decide +kernel
  refine ⟨same, ?_⟩
  intro begun fresh events events'
  have places : Channel.renamed begun.place events = Channel.renamed fresh.place events' := by
    decide +kernel
  have told := (Channel.start_forgets .standard 5000 5000 _ choosy choosy [] [] same).2 events events' places
  exact ⟨places, told.1, by decide +kernel⟩

end SecondChannel

end DvbScan
