import DvbScan.Proofs.ChannelReading
import DvbScan.Proofs.ChannelRun
import DvbScan.Proofs.TableGrowth

/-!
# What a channel has heard

All that a channel knows of its tables follows from the sections that it has heard since it was begun. What is
kept of a network or a bouquet beside its tracker, whether all of it is in, is not what the tracker says but
what it said when the last new section arrived.
-/

namespace DvbScan

/-- What is known of the tables of one kind from sections of several kinds. -/
def historyOf (table : TableRole) (sections : List (TableRole × SectionHeader)) : TrackerHistory :=
  .actAll ((sections.filter (·.1 == table)).map fun heard => .track heard.2)

theorem historyOf_concat_self (table : TableRole) (sections : List (TableRole × SectionHeader))
    (header : SectionHeader) :
    historyOf table (sections ++ [(table, header)]) = (historyOf table sections).record header := by
  unfold historyOf TrackerHistory.actAll
  rw [List.filter_append, List.filter_cons_of_pos (by simp), List.map_append, List.foldl_append]
  rfl

theorem historyOf_append_of_ne {table : TableRole} (sections : List (TableRole × SectionHeader))
    {more : List (TableRole × SectionHeader)} (different : ∀ heard ∈ more, heard.1 ≠ table) :
    historyOf table (sections ++ more) = historyOf table sections := by
  have none : more.filter (·.1 == table) = [] :=
    List.filter_eq_nil_iff.mpr fun heard member => by simpa using different heard member
  unfold historyOf
  rw [List.filter_append, none, List.append_nil]

theorem historyOf_concat_of_ne {table own : TableRole} (different : own ≠ table)
    (sections : List (TableRole × SectionHeader)) (header : SectionHeader) :
    historyOf table (sections ++ [(own, header)]) = historyOf table sections :=
  historyOf_append_of_ne sections (by simpa using different)

theorem isWithin_historyOf (table : TableRole) (sections : List (TableRole × SectionHeader)) :
    (historyOf table sections).IsWithin := by
  have within := TrackerHistory.isWithin_actAll ((sections.filter (·.1 == table)).map (·.2))
  rw [List.map_map] at within
  exact within

namespace NetworkProgress

variable {progress : NetworkProgress} {history : TrackerHistory} {header : SectionHeader} {id : UInt16}

structure Recalls (progress : NetworkProgress) (history : TrackerHistory) (id : UInt16) : Prop where
  reflects : progress.reader.tracker.Reflects (history.only id)
  complete : progress.complete = true ↔ ∃ past, history id = some past ∧ past.WasFull

theorem recalls_blank (kind : NetworkKind) (table : DescriptorTable) (id : UInt16) :
    (blank kind table).Recalls .empty id := by
  refine ⟨?_, by simp [blank, TrackerHistory.empty]⟩
  have nothing : TrackerHistory.empty.only id = .empty := by
    funext other
    unfold TrackerHistory.only
    split <;> rfl
  rw [nothing]
  exact TableTracker.reflects_empty

theorem complete_track (progress : NetworkProgress) (header : SectionHeader) :
    (progress.track header).complete =
      if (progress.reader.tracker.track header).2.isComplete then true
      else if (progress.reader.tracker.track header).2 = .new then false
      else progress.complete := rfl

theorem Recalls.track (recalls : progress.Recalls history header.sectionId) (within : history.IsWithin) :
    (progress.track header).Recalls (history.record header) header.sectionId := by
  have reflects := recalls.reflects
  refine ⟨?_, ?_⟩
  · rw [TrackerHistory.only_record_self]
    exact reflects.act (.track header)
  rw [complete_track]
  cases counts : history.accepts header with
  | false =>
    rw [TrackerHistory.record_of_refused counts, ← recalls.complete]
    have answer := (reflects.track_of_refused ((TrackerHistory.accepts_only _ _).trans counts)).2
    rw [answer]
    split
    · simp [Arrival.isComplete]
    · split <;> simp [Arrival.isComplete]
  | true =>
    obtain ⟨after, already, new⟩ :=
      reflects.track_of_accepted ((TrackerHistory.accepts_only _ _).trans counts)
    rw [← TrackerHistory.only_record_self] at after
    have recorded := TrackerHistory.record_apply_self counts
    have known : (∃ past, history.record header header.sectionId = some past ∧ past.WasFull) ↔
        (history.tableWith header).WasFull := by simp [recorded]
    -- the tracker follows one table only, so it is complete exactly if that table is
    have whole : (progress.reader.tracker.track header).1.isComplete = true ↔
        (history.tableWith header).IsFull := by
      rw [after.isComplete_iff, TrackerHistory.isFull_only_iff]
      simp [recorded]
    rw [known]
    by_cases heard : history.Heard header
    · have kept : (history.tableWith header).WasFull ↔ progress.complete = true := by
        obtain ⟨past, there, -, arrived, same⟩ := TrackerHistory.tableWith_of_heard heard
        rw [same, TableHistory.wasFull_add_of_heard arrived, recalls.complete, there]
        simp
      rw [already ((TrackerHistory.heard_only _ _).mpr heard)]
      split
      next complete =>
        have full := TableHistory.wasFull_of_isFull
          (within.record header _ _ recorded) (whole.mp complete)
        simp [Arrival.isComplete, full]
      next => simp [Arrival.isComplete, kept]
    · rw [new ((TrackerHistory.heard_only _ _).not.mpr heard),
        TrackerHistory.wasFull_tableWith_of_new heard, ← whole]
      split
      next complete => simp [Arrival.isComplete, complete]
      next missing => simp [Arrival.isComplete, missing]

/-- The progress stays as it is exactly if the section neither is new nor makes its table longer. -/
theorem Recalls.track_eq_self_iff (recalls : progress.Recalls history header.sectionId)
    (within : history.IsWithin) :
    progress.track header = progress ↔ ¬history.LearnsFrom header := by
  have tracker : (progress.reader.tracker.track header).1 = progress.reader.tracker ↔
      ¬history.LearnsFrom header := by
    rw [recalls.reflects.fst_track_eq_self_iff, TrackerHistory.learnsFrom_only]
  rw [← tracker]
  constructor
  · intro same
    exact congrArg (fun progress : NetworkProgress => progress.reader.tracker) same
  · intro same
    have flag : (progress.track header).complete = progress.complete := by
      have stale := TrackerHistory.heard_of_ignored (tracker.mp same)
      rw [Bool.eq_iff_iff, (recalls.track within).complete, recalls.complete]
      have related := TrackerHistory.wasFull_record_of_stale stale header.sectionId
      generalize history.record header header.sectionId = recorded, history header.sectionId = known
        at related ⊢
      cases related with
      | none => simp
      | some kept => simp [kept]
    unfold NetworkProgress.track at flag ⊢
    unfold after at flag ⊢
    simp only at flag
    rw [flag, same]

end NetworkProgress

def Delivery.section? : Delivery → Option Section
  | .bytes data => (Section.parse data).toOption
  | .stopped | .failed _ => none

namespace Channel

variable {channel : Channel} {sections : List (TableRole × SectionHeader)}

/-! ## What the tables of a channel come from -/

/-- All that a channel knows of its tables comes from sections. -/
structure Recalls (channel : Channel) (sections : List (TableRole × SectionHeader)) : Prop where
  uniform : channel.IsUniform
  groups : ∀ kind id, (channel.progress kind id).Recalls (historyOf (.ofNetwork kind) sections) id
  services : ∀ isActual,
    (channel.services.trackerOf isActual).Reflects (historyOf (.ofService isActual) sections)

namespace Recalls

variable {table role : TableRole} {header : SectionHeader}

theorem isFresh_arrivalOf_iff (recalls : channel.Recalls sections) :
    (channel.arrivalOf table header).isFresh = true ↔
      (historyOf table sections).accepts header = true ∧ ¬(historyOf table sections).Heard header := by
  unfold arrivalOf
  obtain ⟨kind, rfl⟩ | ⟨isActual, rfl⟩ := table.ofNetwork_or_ofService
  · rw [trackerFor_ofNetwork, (recalls.groups kind header.sectionId).reflects.isFresh_iff,
      TrackerHistory.accepts_only, TrackerHistory.heard_only]
  · rw [trackerFor_ofService]
    exact (recalls.services isActual).isFresh_iff

theorem arrivalOf_eq_outOfRange_iff (recalls : channel.Recalls sections) :
    channel.arrivalOf table header = .outOfRange ↔
      header.isCurrent = true ∧ header.lastNumber < header.number := by
  unfold arrivalOf
  obtain ⟨kind, rfl⟩ | ⟨isActual, rfl⟩ := table.ofNetwork_or_ofService
  · rw [trackerFor_ofNetwork]
    exact (recalls.groups kind header.sectionId).reflects.track_eq_outOfRange_iff
  · rw [trackerFor_ofService]
    exact (recalls.services isActual).track_eq_outOfRange_iff

theorem isTableComplete_iff (recalls : channel.Recalls sections) (id : UInt16) :
    (channel.trackerFor table id).isTableComplete id = true ↔
      ∃ past, historyOf table sections id = some past ∧ past.IsFull := by
  obtain ⟨kind, rfl⟩ | ⟨isActual, rfl⟩ := table.ofNetwork_or_ofService
  · rw [trackerFor_ofNetwork, (recalls.groups kind id).reflects.isTableComplete_iff,
      TrackerHistory.only_self]
  · rw [trackerFor_ofService]
    exact (recalls.services isActual).isTableComplete_iff id

/-- If all is complete, every table was full when its last new section arrived. -/
theorem wasFull_of_isAllComplete (recalls : channel.Recalls sections)
    (all : channel.isAllComplete role = true) {id : UInt16} {past : TableHistory}
    (known : historyOf role sections id = some past) : past.WasFull := by
  obtain ⟨kind, rfl⟩ | ⟨isActual, rfl⟩ := role.ofNetwork_or_ofService
  · rw [isAllComplete_ofNetwork, OrderedMap.all_values_iff_get?] at all
    have recalled := recalls.groups kind id
    cases entered : (channel.groups kind).get? id with
    | none =>
      -- a group that no section came of has no history
      have blank : channel.progress kind id = .blank kind channel.table := by
        unfold progress
        rw [entered]
        rfl
      obtain ⟨progress, tracked, -⟩ := recalled.reflects.get?_eq_some
        ((TrackerHistory.only_self _ id).trans known)
      rw [blank] at tracked
      cases tracked
    | some progress =>
      rw [progress_of_get? entered] at recalled
      obtain ⟨other, there, full⟩ := recalled.complete.mp (all id progress entered)
      cases known.symm.trans there
      exact full
  · rw [isAllComplete_ofService, (recalls.services isActual).isComplete_iff] at all
    exact TableHistory.wasFull_of_isFull (isWithin_historyOf _ _ _ _ known) (all.2 id past known)

theorem tracked (recalls : channel.Recalls sections) (table : TableRole) (header : SectionHeader) :
    (channel.tracked table header).Recalls (sections ++ [(table, header)]) := by
  obtain ⟨kind, rfl⟩ | ⟨isActual, rfl⟩ := table.ofNetwork_or_ofService
  · rw [tracked_ofNetwork]
    refine ⟨fun other id => ?_, fun other id => ?_, fun isActual => ?_⟩
    · rw [table_withProgress]
      by_cases own : other = kind ∧ id = header.sectionId
      · obtain ⟨rfl, rfl⟩ := own
        rw [progress_withProgress_self]
        exact recalls.uniform other header.sectionId
      · rw [progress_withProgress_of_ne channel fun kind id => own ⟨kind, id⟩]
        exact recalls.uniform other id
    · by_cases same : other = kind
      · subst same
        rw [historyOf_concat_self]
        by_cases own : id = header.sectionId
        · subst own
          rw [progress_withProgress_self]
          exact (recalls.groups other header.sectionId).track (isWithin_historyOf _ _)
        · rw [progress_withProgress_of_ne channel fun _ => own]
          have recalled := recalls.groups other id
          refine ⟨?_, ?_⟩
          · rw [TrackerHistory.only_record_of_ne header own]
            exact recalled.reflects
          · rw [TrackerHistory.record_apply_of_ne header own]
            exact recalled.complete
      · rw [progress_withProgress_of_ne channel fun given => absurd given same,
          historyOf_concat_of_ne fun given => same (TableRole.ofNetwork_injective given).symm]
        exact recalls.groups other id
    · rw [services_withProgress, historyOf_concat_of_ne (TableRole.ofNetwork_ne_ofService kind isActual)]
      exact recalls.services isActual
  · rw [tracked_ofService]
    refine ⟨recalls.uniform, fun kind id => ?_, fun another => ?_⟩
    · rw [historyOf_concat_of_ne (Ne.symm (TableRole.ofNetwork_ne_ofService kind isActual))]
      exact recalls.groups kind id
    · by_cases same : another = isActual
      · subst same
        simp only [ServiceTableReader.trackerOf_withTracker]
        rw [historyOf_concat_self]
        exact (recalls.services another).act (.track header)
      · simp only [ServiceTableReader.trackerOf_withTracker_of_ne _ same]
        rw [historyOf_concat_of_ne fun given => same (TableRole.ofService_injective given).symm]
        exact recalls.services another

/-- The tables stay as they are exactly if the group was entered before, and the section neither is new nor
makes its table longer. -/
theorem tracked_eq_self_iff (recalls : channel.Recalls sections) :
    channel.tracked table header = channel ↔
      channel.HasEntry table header.sectionId ∧ ¬(historyOf table sections).LearnsFrom header := by
  obtain ⟨kind, rfl⟩ | ⟨isActual, rfl⟩ := table.ofNetwork_or_ofService
  · have unchanged := (recalls.groups kind header.sectionId).track_eq_self_iff (isWithin_historyOf _ _)
    rw [tracked_ofNetwork, withProgress_eq_self_iff]
    constructor
    · intro known
      refine ⟨fun other same => ?_, unchanged.mp ?_⟩
      · rw [← TableRole.ofNetwork_injective same, known]
        nofun
      · exact (progress_of_get? known).symm
    · rintro ⟨entered, ignored⟩
      obtain ⟨progress, known⟩ := Option.ne_none_iff_exists'.mp (entered kind rfl)
      rw [unchanged.mpr ignored, progress_of_get? known, known]
  · have unchanged : ((channel.services.trackerOf isActual).track header).1 =
        channel.services.trackerOf isActual ↔
          ¬(historyOf (.ofService isActual) sections).LearnsFrom header :=
      (recalls.services isActual).fst_track_eq_self_iff
    have entered : channel.HasEntry (.ofService isActual) header.sectionId := fun kind same =>
      absurd same.symm (TableRole.ofNetwork_ne_ofService kind isActual)
    rw [tracked_ofService, ← unchanged, and_iff_right entered]
    constructor
    · intro same
      have trackers := congrArg (fun channel : Channel => channel.services.trackerOf isActual) same
      simp only [ServiceTableReader.trackerOf_withTracker] at trackers
      exact trackers
    · intro same
      rw [same, ServiceTableReader.withTracker_trackerOf]

theorem enter (recalls : channel.Recalls sections) (role : TableRole) (id : UInt16) :
    (channel.enter role id).Recalls sections := by
  obtain ⟨kind, rfl⟩ | ⟨isActual, rfl⟩ := role.ofNetwork_or_ofService
  · rw [enter_ofNetwork]
    refine ⟨fun other another => ?_, fun other another => ?_, fun isActual => ?_⟩
    · rw [progress_enterGroup]
      unfold enterGroup
      rw [table_withProgress]
      exact recalls.uniform other another
    · rw [progress_enterGroup]
      exact recalls.groups other another
    · unfold enterGroup
      rw [services_withProgress]
      exact recalls.services isActual
  · rw [enter_ofService]
    exact recalls

end Recalls

/-! ## Sections that are heard -/

/-- The section that a delivery on a filter of a role brings, with the table that it belongs to, if it can be
read. -/
def heardIn (channel : Channel) (role : TableRole) (delivery : Delivery) :
    Option (TableRole × SectionHeader) :=
  match delivery.section? with
  | none => none
  | some whole => (channel.contents role whole).toOption.map fun content => (content.1, whole.header)

variable {role table : TableRole} {delivery : Delivery} {whole : Section}

theorem heardIn_of_unframed (unframed : delivery.section? = none) :
    channel.heardIn role delivery = none := by
  unfold heardIn
  rw [unframed]

theorem heardIn_of_unreadable {error : SiError} (framed : delivery.section? = some whole)
    (content : channel.contents role whole = .error error) : channel.heardIn role delivery = none := by
  unfold heardIn
  rw [framed]
  simp only [content]
  rfl

theorem heardIn_of_readable {found : List Finding} (framed : delivery.section? = some whole)
    (content : channel.contents role whole = .ok (table, found)) :
    channel.heardIn role delivery = some (table, whole.header) := by
  unfold heardIn
  rw [framed]
  simp only [content]
  rfl

theorem contents_of_heardIn {heard : TableRole × SectionHeader}
    (brought : channel.heardIn role delivery = some heard) :
    ∃ whole found, delivery.section? = some whole ∧ channel.contents role whole = .ok (heard.1, found) := by
  cases framed : delivery.section? with
  | none =>
    rw [heardIn_of_unframed framed] at brought
    cases brought
  | some whole =>
    cases content : channel.contents role whole with
    | error error =>
      rw [heardIn_of_unreadable framed content] at brought
      cases brought
    | ok pair =>
      rw [heardIn_of_readable framed content] at brought
      cases brought
      exact ⟨whole, pair.2, rfl, content⟩

theorem parse_of_section? (framed : delivery.section? = some whole) :
    ∃ bytes, delivery = .bytes bytes ∧ Section.parse bytes = .ok whole := by
  cases delivery with
  | stopped => cases framed
  | failed error => cases framed
  | bytes bytes =>
    change (Section.parse bytes).toOption = some whole at framed
    cases framing : Section.parse bytes with
    | error fault =>
      rw [framing] at framed
      cases framed
    | ok other =>
      rw [framing] at framed
      cases framed
      exact ⟨bytes, rfl, framing⟩

theorem read_of_unframed (unframed : delivery.section? = none) :
    ∃ status, (status = .error ∨ status = .stopped) ∧
      ∀ channel role, Channel.read channel role delivery = (channel, status, []) := by
  cases delivery with
  | stopped => exact ⟨.stopped, .inr rfl, fun _ _ => rfl⟩
  | failed error => exact ⟨.error, .inl rfl, fun _ _ => rfl⟩
  | bytes bytes =>
    change (Section.parse bytes).toOption = none at unframed
    cases framing : Section.parse bytes with
    | error fault =>
      exact ⟨.error, .inl rfl, fun channel role => process_of_unframed channel role framing⟩
    | ok whole =>
      rw [framing] at unframed
      cases unframed

theorem read_of_unreadable {error : SiError} (uniform : channel.IsUniform)
    (framed : delivery.section? = some whole) (content : channel.contents role whole = .error error) :
    channel.read role delivery = (channel.enter role whole.header.sectionId, .error, []) := by
  obtain ⟨bytes, rfl, framing⟩ := parse_of_section? framed
  refine (process_of_framed channel role framing).trans ?_
  rw [processWhole_of_unreadable uniform content]
  rfl

theorem read_of_readable {found : List Finding} (uniform : channel.IsUniform)
    (framed : delivery.section? = some whole)
    (content : channel.contents role whole = .ok (table, found)) :
    channel.read role delivery = (channel.tracked table whole.header,
      statusAfter (channel.arrivalOf table whole.header)
        ((channel.tracked table whole.header).isAllComplete role)
        ((channel.filterStatus? role).getD .blank),
      if (channel.arrivalOf table whole.header).isFresh then found else []) := by
  obtain ⟨bytes, rfl, framing⟩ := parse_of_section? framed
  refine (process_of_framed channel role framing).trans ?_
  rw [processWhole_of_readable uniform content]
  rfl

theorem read_cases (uniform : channel.IsUniform) (role : TableRole) (delivery : Delivery) :
    (delivery.section? = none ∧ ∃ status, (status = .error ∨ status = .stopped) ∧
      channel.read role delivery = (channel, status, [])) ∨
    (∃ whole error, delivery.section? = some whole ∧ channel.contents role whole = .error error ∧
      channel.read role delivery = (channel.enter role whole.header.sectionId, .error, [])) ∨
    ∃ whole table found, delivery.section? = some whole ∧ channel.contents role whole = .ok (table, found) ∧
      channel.read role delivery = (channel.tracked table whole.header,
        statusAfter (channel.arrivalOf table whole.header)
          ((channel.tracked table whole.header).isAllComplete role)
          ((channel.filterStatus? role).getD .blank),
        if (channel.arrivalOf table whole.header).isFresh then found else []) := by
  cases framed : delivery.section? with
  | none =>
    obtain ⟨status, failure, read⟩ := read_of_unframed framed
    exact .inl ⟨rfl, status, failure, read channel role⟩
  | some whole =>
    right
    cases content : channel.contents role whole with
    | error error => exact .inl ⟨whole, error, rfl, content, read_of_unreadable uniform framed content⟩
    | ok pair =>
      exact .inr ⟨whole, pair.1, pair.2, rfl, content, read_of_readable uniform framed content⟩

theorem Recalls.read (recalls : channel.Recalls sections) (role : TableRole) (delivery : Delivery) :
    (channel.read role delivery).1.Recalls (sections ++ (channel.heardIn role delivery).toList) := by
  obtain ⟨unframed, status, -, same⟩ | ⟨whole, error, framed, content, same⟩ |
    ⟨whole, table, found, framed, content, same⟩ := read_cases recalls.uniform role delivery
  · rw [heardIn_of_unframed unframed, same, Option.toList_none, List.append_nil]
    exact recalls
  · rw [heardIn_of_unreadable framed content, same, Option.toList_none, List.append_nil]
    exact recalls.enter role whole.header.sectionId
  · rw [heardIn_of_readable framed content, same, Option.toList_some]
    exact recalls.tracked table whole.header

def heardOn (channel : Channel) (filter : FilterId) (delivery : Delivery) :
    List (TableRole × SectionHeader) :=
  if channel.state = .awaitingSections then
    ((channel.slots.find? (·.id == filter)).bind fun slot => channel.heardIn slot.role delivery).toList
  else []

def heardAll : Channel → List (FilterId × Delivery) → List (TableRole × SectionHeader)
  | _, [] => []
  | channel, event :: rest =>
    channel.heardOn event.1 event.2 ++ (channel.handle event.1 event.2).1.heardAll rest

theorem heardAll_concat (channel : Channel) (events : List (FilterId × Delivery))
    (event : FilterId × Delivery) :
    channel.heardAll (events ++ [event]) =
      channel.heardAll events ++ (channel.handleAll events).heardOn event.1 event.2 := by
  induction events generalizing channel with
  | nil => exact List.append_nil _
  | cons first rest ih =>
    change _ ++ (channel.handle first.1 first.2).1.heardAll (rest ++ [event]) = _
    rw [ih, ← List.append_assoc]
    rfl

theorem heardOn_of_not_awaiting (state : channel.state ≠ .awaitingSections) (filter : FilterId)
    (delivery : Delivery) : channel.heardOn filter delivery = [] :=
  if_neg state

theorem heardOn_of_unknown {filter : FilterId} (unknown : channel.slots.find? (·.id == filter) = none)
    (delivery : Delivery) : channel.heardOn filter delivery = [] := by
  unfold heardOn
  rw [unknown]
  split <;> rfl

theorem heardOn_of_known {filter : FilterId} {slot : FilterSlot}
    (state : channel.state = .awaitingSections)
    (known : channel.slots.find? (·.id == filter) = some slot) (delivery : Delivery) :
    channel.heardOn filter delivery = (channel.heardIn slot.role delivery).toList := by
  unfold heardOn
  rw [if_pos state, known]
  rfl

theorem Recalls.handle (recalls : channel.Recalls sections) (filter : FilterId) (delivery : Delivery) :
    (channel.handle filter delivery).1.Recalls (sections ++ channel.heardOn filter delivery) := by
  by_cases state : channel.state = .awaitingSections
  · cases known : channel.slots.find? (·.id == filter) with
    | none =>
      rw [heardOn_of_unknown known, List.append_nil, handle_of_absent known]
      exact recalls
    | some slot =>
      rw [heardOn_of_known state known, handle_of_known state known]
      exact ⟨(recalls.read slot.role delivery).uniform, (recalls.read slot.role delivery).groups,
        (recalls.read slot.role delivery).services⟩
  · rw [heardOn_of_not_awaiting state, List.append_nil, handle_of_not_awaiting state]
    exact recalls

theorem recalls_start (channel : Channel) (receiver : Receiver) (history : List Call) :
    (channel.start receiver history).1.Recalls [] := by
  have groups : ∀ kind id, (channel.start receiver history).1.progress kind id =
      .blank kind channel.table := by
    intro kind id
    cases kind <;> rfl
  refine ⟨fun kind id => ?_, fun kind id => ?_, fun isActual => ?_⟩
  · rw [groups]
    exact ⟨rfl, rfl⟩
  · rw [groups]
    exact NetworkProgress.recalls_blank kind channel.table id
  · cases isActual <;> exact TableTracker.reflects_empty

/-- At every moment of a run, what the channel knows comes from the sections that it has heard. -/
theorem recalls_handleAll (channel : Channel) (receiver : Receiver) (history : List Call)
    (events : List (FilterId × Delivery)) :
    ((channel.start receiver history).1.handleAll events).Recalls
      ((channel.start receiver history).1.heardAll events) := by
  induction events using List.reverseRecOn with
  | nil => exact channel.recalls_start receiver history
  | append_singleton events event ih =>
    rw [handleAll_append, heardAll_concat]
    exact ih.handle event.1 event.2

end Channel

end DvbScan
