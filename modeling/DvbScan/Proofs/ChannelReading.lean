import DvbScan.Proofs.Lookup
import DvbScan.Proofs.Result
import DvbScan.Proofs.ServiceReader
import DvbScan.Scan.Channel

/-!
# What a channel does with a section

A section that can be read is tracked with the others of its table: those of a network or a bouquet by the
reader of that group, those of services by the tracker of their kind. A section that cannot be read is refused,
but of a network or a bouquet it is kept that a section came.
-/

namespace DvbScan

namespace TableRole

def ofNetwork : NetworkKind → TableRole
  | .network => network
  | .bouquet => bouquet

def ofService (isActual : Bool) : TableRole := if isActual then servicesActual else servicesOther

theorem ofNetwork_or_ofService (role : TableRole) :
    (∃ kind, role = ofNetwork kind) ∨ ∃ isActual, role = ofService isActual := by
  cases role with
  | network => exact .inl ⟨.network, rfl⟩
  | bouquet => exact .inl ⟨.bouquet, rfl⟩
  | servicesActual => exact .inr ⟨true, rfl⟩
  | servicesOther => exact .inr ⟨false, rfl⟩

theorem ofNetwork_injective {first second : NetworkKind} (same : ofNetwork first = ofNetwork second) :
    first = second := by
  cases first <;> cases second <;> first | rfl | cases same

theorem ofService_injective {first second : Bool} (same : ofService first = ofService second) :
    first = second := by
  cases first <;> cases second <;> first | rfl | cases same

theorem ofNetwork_ne_ofService (kind : NetworkKind) (isActual : Bool) :
    ofNetwork kind ≠ ofService isActual := by
  cases kind <;> cases isActual <;> nofun

end TableRole

namespace NetworkProgress

def blank (kind : NetworkKind) (table : DescriptorTable) : NetworkProgress :=
  { reader := .new kind table, complete := false }

def track (progress : NetworkProgress) (header : SectionHeader) : NetworkProgress :=
  progress.after { progress.reader with tracker := (progress.reader.tracker.track header).1 }
    (progress.reader.tracker.track header).2

end NetworkProgress

namespace Channel

def groups (channel : Channel) : NetworkKind → OrderedMap UInt16 NetworkProgress
  | .network => channel.networks
  | .bouquet => channel.bouquets

def withGroups (channel : Channel) (kind : NetworkKind)
    (groups : OrderedMap UInt16 NetworkProgress) : Channel :=
  match kind with
  | .network => { channel with networks := groups }
  | .bouquet => { channel with bouquets := groups }

@[simp]
theorem groups_withGroups (channel : Channel) (kind : NetworkKind)
    (groups : OrderedMap UInt16 NetworkProgress) : (channel.withGroups kind groups).groups kind = groups := by
  cases kind <;> rfl

theorem groups_withGroups_of_ne (channel : Channel) {kind other : NetworkKind} (different : other ≠ kind)
    (groups : OrderedMap UInt16 NetworkProgress) :
    (channel.withGroups kind groups).groups other = channel.groups other := by
  cases kind <;> cases other <;> first | rfl | exact absurd rfl different

theorem withGroups_withGroups (channel : Channel) (kind : NetworkKind)
    (former groups : OrderedMap UInt16 NetworkProgress) :
    (channel.withGroups kind former).withGroups kind groups = channel.withGroups kind groups := by
  cases kind <;> rfl

@[simp]
theorem table_withGroups (channel : Channel) (kind : NetworkKind)
    (groups : OrderedMap UInt16 NetworkProgress) : (channel.withGroups kind groups).table = channel.table := by
  cases kind <;> rfl

@[simp]
theorem services_withGroups (channel : Channel) (kind : NetworkKind)
    (groups : OrderedMap UInt16 NetworkProgress) :
    (channel.withGroups kind groups).services = channel.services := by
  cases kind <;> rfl

theorem withGroups_groups (channel : Channel) (kind : NetworkKind) :
    channel.withGroups kind (channel.groups kind) = channel := by
  cases kind <;> rfl

def progress (channel : Channel) (kind : NetworkKind) (id : UInt16) : NetworkProgress :=
  ((channel.groups kind).get? id).getD (.blank kind channel.table)

theorem progress_of_get? {channel : Channel} {kind : NetworkKind} {id : UInt16} {progress : NetworkProgress}
    (known : (channel.groups kind).get? id = some progress) : channel.progress kind id = progress := by
  unfold Channel.progress
  rw [known]
  rfl

def withProgress (channel : Channel) (kind : NetworkKind) (id : UInt16) (progress : NetworkProgress) :
    Channel :=
  channel.withGroups kind ((channel.groups kind).insert id progress)

@[simp]
theorem table_withProgress (channel : Channel) (kind : NetworkKind) (id : UInt16)
    (progress : NetworkProgress) : (channel.withProgress kind id progress).table = channel.table :=
  table_withGroups channel kind _

@[simp]
theorem services_withProgress (channel : Channel) (kind : NetworkKind) (id : UInt16)
    (progress : NetworkProgress) : (channel.withProgress kind id progress).services = channel.services :=
  services_withGroups channel kind _

theorem progress_withProgress_self (channel : Channel) (kind : NetworkKind) (id : UInt16)
    (progress : NetworkProgress) : (channel.withProgress kind id progress).progress kind id = progress := by
  apply progress_of_get?
  unfold withProgress
  rw [groups_withGroups, OrderedMap.get?_insert_self]

theorem progress_withProgress_of_ne (channel : Channel) {kind other : NetworkKind} {id another : UInt16}
    (different : other = kind → another ≠ id) (progress : NetworkProgress) :
    (channel.withProgress kind id progress).progress other another = channel.progress other another := by
  unfold Channel.progress
  rw [table_withProgress]
  unfold withProgress
  by_cases same : other = kind
  · subst same
    rw [groups_withGroups, OrderedMap.get?_insert_of_ne (different rfl)]
  · rw [groups_withGroups_of_ne channel same]

/-- What a section holds that is read for a role: the table that it belongs to, and what it tells if it is
new. -/
def contents (channel : Channel) (role : TableRole) (whole : Section) :
    Except SiError (TableRole × List Finding) :=
  let ofGroup (kind : NetworkKind) := (NetworkSection.parse whole channel.table).map fun parsed =>
    (TableRole.ofNetwork kind, parsed.findings kind)
  match role with
  | .network => ofGroup .network
  | .bouquet => ofGroup .bouquet
  | .servicesActual | .servicesOther =>
    match ServiceTableReader.isActual? whole.header.tableId with
    | none => .error (.unexpectedTable whole.header.tableId)
    | some isActual => (ServiceSection.parse whole channel.services.table).map fun parsed =>
        (.ofService isActual, parsed.findings isActual)

def trackerFor (channel : Channel) (table : TableRole) (id : UInt16) : TableTracker :=
  match table with
  | .network => (channel.progress .network id).reader.tracker
  | .bouquet => (channel.progress .bouquet id).reader.tracker
  | .servicesActual => channel.services.actual
  | .servicesOther => channel.services.other

def arrivalOf (channel : Channel) (table : TableRole) (header : SectionHeader) : Arrival :=
  ((channel.trackerFor table header.sectionId).track header).2

def tracked (channel : Channel) (table : TableRole) (header : SectionHeader) : Channel :=
  let inGroup (kind : NetworkKind) :=
    channel.withProgress kind header.sectionId ((channel.progress kind header.sectionId).track header)
  match table with
  | .network => inGroup .network
  | .bouquet => inGroup .bouquet
  | .servicesActual => { channel with
      services := channel.services.withTracker true (channel.services.actual.track header).1 }
  | .servicesOther => { channel with
      services := channel.services.withTracker false (channel.services.other.track header).1 }

def isAllComplete (channel : Channel) : TableRole → Bool
  | .network => channel.networks.values.all (·.complete)
  | .bouquet => channel.bouquets.values.all (·.complete)
  | .servicesActual => channel.services.actual.isComplete
  | .servicesOther => channel.services.other.isComplete

def enterGroup (channel : Channel) (kind : NetworkKind) (id : UInt16) : Channel :=
  channel.withProgress kind id (channel.progress kind id)

theorem progress_enterGroup (channel : Channel) (kind other : NetworkKind) (id another : UInt16) :
    (channel.enterGroup kind id).progress other another = channel.progress other another := by
  unfold enterGroup
  by_cases own : other = kind ∧ another = id
  · obtain ⟨rfl, rfl⟩ := own
    exact progress_withProgress_self channel other another _
  · exact progress_withProgress_of_ne channel (fun kind id => own ⟨kind, id⟩) _

/-- The channel after a section of a role that tells nothing of its table. -/
def enter (channel : Channel) (role : TableRole) (id : UInt16) : Channel :=
  match role with
  | .network => channel.enterGroup .network id
  | .bouquet => channel.enterGroup .bouquet id
  | .servicesActual | .servicesOther => channel

theorem contents_ofNetwork (channel : Channel) (kind : NetworkKind) (whole : Section) :
    channel.contents (.ofNetwork kind) whole = (NetworkSection.parse whole channel.table).map fun parsed =>
      (.ofNetwork kind, parsed.findings kind) := by
  cases kind <;> rfl

theorem contents_ofService (channel : Channel) (isActual : Bool) (whole : Section) :
    channel.contents (.ofService isActual) whole =
      match ServiceTableReader.isActual? whole.header.tableId with
      | none => .error (.unexpectedTable whole.header.tableId)
      | some isActual => (ServiceSection.parse whole channel.services.table).map fun parsed =>
          (.ofService isActual, parsed.findings isActual) := by
  cases isActual <;> rfl

theorem eq_ofNetwork_iff_of_contents {channel : Channel} {role table : TableRole} {whole : Section}
    {found : List Finding} (content : channel.contents role whole = .ok (table, found))
    (kind : NetworkKind) : table = .ofNetwork kind ↔ role = .ofNetwork kind := by
  obtain ⟨own, rfl⟩ | ⟨isActual, rfl⟩ := role.ofNetwork_or_ofService
  · rw [contents_ofNetwork] at content
    obtain ⟨parsed, -, same⟩ := map_eq_ok content
    cases same
    exact Iff.rfl
  · rw [contents_ofService] at content
    cases known : ServiceTableReader.isActual? whole.header.tableId with
    | none =>
      rw [known] at content
      cases content
    | some another =>
      rw [known] at content
      obtain ⟨parsed, -, same⟩ := map_eq_ok content
      cases same
      refine iff_of_false ?_ ?_
      · exact fun given => TableRole.ofNetwork_ne_ofService kind another given.symm
      · exact fun given => TableRole.ofNetwork_ne_ofService kind isActual given.symm

theorem trackerFor_ofNetwork (channel : Channel) (kind : NetworkKind) (id : UInt16) :
    channel.trackerFor (.ofNetwork kind) id = (channel.progress kind id).reader.tracker := by
  cases kind <;> rfl

theorem trackerFor_ofService (channel : Channel) (isActual : Bool) (id : UInt16) :
    channel.trackerFor (.ofService isActual) id = channel.services.trackerOf isActual := by
  cases isActual <;> rfl

theorem tracked_ofNetwork (channel : Channel) (kind : NetworkKind) (header : SectionHeader) :
    channel.tracked (.ofNetwork kind) header = channel.withProgress kind header.sectionId
      ((channel.progress kind header.sectionId).track header) := by
  cases kind <;> rfl

theorem tracked_ofService (channel : Channel) (isActual : Bool) (header : SectionHeader) :
    channel.tracked (.ofService isActual) header = { channel with
      services := channel.services.withTracker isActual
        ((channel.services.trackerOf isActual).track header).1 } := by
  cases isActual <;> rfl

theorem enter_ofNetwork (channel : Channel) (kind : NetworkKind) (id : UInt16) :
    channel.enter (.ofNetwork kind) id = channel.enterGroup kind id := by
  cases kind <;> rfl

theorem enter_ofService (channel : Channel) (isActual : Bool) (id : UInt16) :
    channel.enter (.ofService isActual) id = channel := by
  cases isActual <;> rfl

theorem withProgress_eq_self_iff {channel : Channel} {kind : NetworkKind} {id : UInt16}
    {progress : NetworkProgress} :
    channel.withProgress kind id progress = channel ↔ (channel.groups kind).get? id = some progress := by
  rw [← OrderedMap.insert_eq_self_iff]
  constructor
  · intro same
    have groups := congrArg (fun channel : Channel => channel.groups kind) same
    unfold withProgress at groups
    simp only [groups_withGroups] at groups
    exact groups
  · intro same
    unfold withProgress
    rw [same, withGroups_groups]

def HasEntry (channel : Channel) (role : TableRole) (id : UInt16) : Prop :=
  ∀ kind, role = .ofNetwork kind → (channel.groups kind).get? id ≠ none

theorem enter_eq_self_iff {channel : Channel} {role : TableRole} {id : UInt16} :
    channel.enter role id = channel ↔ channel.HasEntry role id := by
  obtain ⟨kind, rfl⟩ | ⟨isActual, rfl⟩ := role.ofNetwork_or_ofService
  · rw [enter_ofNetwork, enterGroup, withProgress_eq_self_iff]
    constructor
    · intro entered other same
      rw [← TableRole.ofNetwork_injective same, entered]
      nofun
    · intro entered
      obtain ⟨progress, known⟩ := Option.ne_none_iff_exists'.mp (entered kind rfl)
      rw [progress_of_get? known, known]
  · rw [enter_ofService]
    refine iff_of_true rfl fun kind same => ?_
    exact absurd same.symm (TableRole.ofNetwork_ne_ofService kind isActual)

theorem isAllComplete_ofNetwork (channel : Channel) (kind : NetworkKind) :
    channel.isAllComplete (.ofNetwork kind) = (channel.groups kind).values.all (·.complete) := by
  cases kind <;> rfl

theorem isAllComplete_ofService (channel : Channel) (isActual : Bool) :
    channel.isAllComplete (.ofService isActual) = (channel.services.trackerOf isActual).isComplete := by
  cases isActual <;> rfl

theorem processWhole_ofNetwork (channel : Channel) (kind : NetworkKind) (whole : Section) :
    channel.processWhole (.ofNetwork kind) whole =
      (channel.withGroups kind (processNetwork kind channel.table (channel.groups kind) whole).1,
        (processNetwork kind channel.table (channel.groups kind) whole).2) := by
  cases kind <;> rfl

theorem processWhole_ofService (channel : Channel) (isActual : Bool) (whole : Section) :
    channel.processWhole (.ofService isActual) whole =
      ({ channel with services := (processServices channel.services (.ofService isActual) whole).1 },
        (processServices channel.services (.ofService isActual) whole).2) := by
  cases isActual <;> rfl

/-- The reader of every group reads its kind of table with the descriptors of the channel. -/
def IsUniform (channel : Channel) : Prop :=
  ∀ kind id, (channel.progress kind id).reader.kind = kind ∧
    (channel.progress kind id).reader.table = channel.table

theorem process_progress {channel : Channel} (uniform : channel.IsUniform) (kind : NetworkKind)
    (whole : Section) :
    (channel.progress kind whole.header.sectionId).reader.process whole =
      (NetworkSection.parse whole channel.table).map fun parsed =>
        let reader := (channel.progress kind whole.header.sectionId).reader
        let tracked := reader.tracker.track whole.header
        ({ reader with tracker := tracked.1 }, tracked.2,
          if tracked.2.isFresh then parsed.findings kind else []) := by
  obtain ⟨own, table⟩ := uniform kind whole.header.sectionId
  unfold NetworkTableReader.process
  simp only [own, table]
  cases NetworkSection.parse whole channel.table with
  | error reason => rfl
  | ok parsed => rfl

theorem processWhole_of_unreadable {channel : Channel} (uniform : channel.IsUniform) {role : TableRole}
    {whole : Section} {error : SiError} (fault : channel.contents role whole = .error error) :
    channel.processWhole role whole = (channel.enter role whole.header.sectionId, .error error) := by
  obtain ⟨kind, rfl⟩ | ⟨isActual, rfl⟩ := role.ofNetwork_or_ofService
  · have read := process_progress uniform kind whole
    rw [contents_ofNetwork] at fault
    rw [processWhole_ofNetwork, enter_ofNetwork]
    cases parsing : NetworkSection.parse whole channel.table with
    | ok parsed =>
      rw [parsing] at fault
      cases fault
    | error reason =>
      rw [parsing] at fault read
      cases fault
      unfold processNetwork
      change (channel.progress kind whole.header.sectionId).reader.process whole = .error error at read
      unfold progress NetworkProgress.blank at read
      simp only [read]
      rfl
  · rw [contents_ofService] at fault
    rw [processWhole_ofService, enter_ofService]
    have refused : channel.services.process whole = .error error := by
      cases known : ServiceTableReader.isActual? whole.header.tableId with
      | none =>
        rw [known] at fault
        cases fault
        unfold ServiceTableReader.process
        rw [known]
      | some isActual =>
        rw [known] at fault
        cases parsing : ServiceSection.parse whole channel.services.table with
        | ok parsed =>
          simp only [parsing] at fault
          cases fault
        | error reason =>
          simp only [parsing] at fault
          cases fault
          exact ServiceTableReader.process_of_malformed known parsing
    unfold processServices
    rw [refused]

theorem processWhole_of_readable {channel : Channel} (uniform : channel.IsUniform) {role table : TableRole}
    {whole : Section} {found : List Finding} (content : channel.contents role whole = .ok (table, found)) :
    channel.processWhole role whole =
      (channel.tracked table whole.header, .ok (channel.arrivalOf table whole.header,
        (channel.tracked table whole.header).isAllComplete role,
        if (channel.arrivalOf table whole.header).isFresh then found else [])) := by
  obtain ⟨kind, rfl⟩ | ⟨isActual, rfl⟩ := role.ofNetwork_or_ofService
  · have read := process_progress uniform kind whole
    rw [contents_ofNetwork] at content
    obtain ⟨parsed, parsing, same⟩ := map_eq_ok content
    cases same
    rw [processWhole_ofNetwork, tracked_ofNetwork, isAllComplete_ofNetwork]
    unfold arrivalOf withProgress
    rw [groups_withGroups]
    rw [trackerFor_ofNetwork]
    rw [parsing] at read
    unfold processNetwork
    change (channel.progress kind whole.header.sectionId).reader.process whole = .ok _ at read
    unfold progress NetworkProgress.blank at read
    simp only [read]
    rfl
  · rw [contents_ofService] at content
    rw [processWhole_ofService]
    cases known : ServiceTableReader.isActual? whole.header.tableId with
    | none =>
      rw [known] at content
      cases content
    | some own =>
      rw [known] at content
      obtain ⟨parsed, parsing, same⟩ := map_eq_ok content
      cases same
      rw [tracked_ofService, isAllComplete_ofService]
      unfold arrivalOf processServices
      rw [trackerFor_ofService, ServiceTableReader.process_of_parsed known parsing]
      cases isActual <;> rfl

end Channel

end DvbScan
