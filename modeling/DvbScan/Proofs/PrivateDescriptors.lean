import DvbScan.Proofs.ToldOnce
import DvbScan.Proofs.UnreadContent
import DvbScan.Scan.Platform

/-!
# Private descriptors

A platform adds readers for its private descriptors to the standard table and changes none. With its table every
section is accepted or refused as with the standard one, and what is read differs in the private descriptors
alone. So do the findings: two readers, one with each table, that begin with the same tracker keep the same one
through every section, and the findings that no private descriptor stands for are the same.
-/

namespace DvbScan

/-! ## What is private -/

/-- The descriptors that only a platform gives a meaning. -/
def Descriptor.isPrivate : Descriptor → Bool
  | .logicalChannels _ | .freesatChannels _ | .freesatRegions _ => true
  | _ => false

def Finding.isPrivate : Finding → Bool
  | .logicalChannel .. | .region .. => true
  | _ => false

def TransportEntry.shared (transport : TransportEntry) : TransportEntry :=
  { transport with descriptors := transport.descriptors.filter (!·.isPrivate) }

def NetworkSection.shared (parsed : NetworkSection) : NetworkSection where
  id := parsed.id
  descriptors := parsed.descriptors.filter (!·.isPrivate)
  transports := parsed.transports.map (·.shared)

def ServiceEntry.shared (entry : ServiceEntry) : ServiceEntry :=
  { entry with descriptors := entry.descriptors.filter (!·.isPrivate) }

def ServiceSection.shared (parsed : ServiceSection) : ServiceSection :=
  { parsed with services := parsed.services.map (·.shared) }

/-! ## Tables that add private descriptors -/

namespace DescriptorReader

/-- All that the reader gives is private, or nothing is. -/
def GivesOnly (reader : DescriptorReader) (isPrivate : Bool) : Prop :=
  ∀ payload found, reader payload = .ok (some found) → found.isPrivate = isPrivate

theorem givesOnly_of {α : Type} (make : α → Descriptor) (read : Bytes → Except SiError α) {isPrivate : Bool}
    (same : ∀ value, (make value).isPrivate = isPrivate) : (of make read).GivesOnly isPrivate := by
  intro payload found given
  obtain ⟨value, -, made⟩ := map_eq_ok given
  rw [← Option.some.inj made]
  exact same value

theorem givesOnly_extension : extension.GivesOnly false := by
  intro payload found given
  unfold extension at given
  obtain ⟨kind, -, given⟩ := bind_eq_ok.mp given
  split at given
  · exact givesOnly_of .t2Delivery T2Delivery.read (fun _ => rfl) payload found given
  · cases given

end DescriptorReader

namespace DescriptorTable

variable {table base : DescriptorTable} {raw : RawDescriptor} {reader : DescriptorReader}

theorem meaning?_of_unknown (unknown : table.reader? raw.tag = none) : table.meaning? raw = none := by
  unfold meaning? read
  rw [unknown]

theorem meaning?_of_malformed {error : SiError} (malformed : table.read raw = .error error) :
    table.meaning? raw = none := by
  unfold meaning?
  rw [malformed]

theorem filter_meaning? {isPrivate : Bool} (known : table.reader? raw.tag = some reader)
    (gives : reader.GivesOnly isPrivate) :
    (table.meaning? raw).filter (!·.isPrivate) = if isPrivate then none else table.meaning? raw := by
  unfold meaning? read
  rw [known]
  cases given : reader raw.payload with
  | error reason => simp [given]
  | ok found =>
    cases found with
    | none => simp [given]
    | some found =>
      have same : found.isPrivate = isPrivate := gives raw.payload found given
      cases isPrivate <;> simp [given, same]

/-- The table gives every descriptor the meaning that the other gives it, or a private one where the other gives
it none. -/
def Extends (table base : DescriptorTable) : Prop :=
  ∀ raw, (table.meaning? raw).filter (!·.isPrivate) = base.meaning? raw

theorem extends_self (shared : ∀ entry ∈ table.readers, entry.2.GivesOnly false) : table.Extends table := by
  intro raw
  cases known : table.reader? raw.tag with
  | none =>
    rw [meaning?_of_unknown known]
    rfl
  | some reader =>
    obtain ⟨entry, first, rfl⟩ := Option.map_eq_some_iff.mp known
    exact filter_meaning? known (shared entry (List.mem_of_find?_eq_some first))

theorem extends_standard [HanDecoders] : standard.Extends standard := by
  have named (make : String → Descriptor) (plain : ∀ name, (make name).isPrivate = false) :
      DescriptorReader.GivesOnly (fun payload => .ok (some (make (BroadcastText.decode payload)))) false := by
    intro payload found given
    cases given
    exact plain _
  refine extends_self ?_
  simp only [standard, List.forall_mem_cons]
  refine ⟨?_, ?_, ?_, ?_, ?_, ?_, ?_, List.forall_mem_nil _⟩
  · exact named .networkName fun _ => rfl
  · exact DescriptorReader.givesOnly_of .serviceList _ fun _ => rfl
  · exact DescriptorReader.givesOnly_of .satelliteDelivery _ fun _ => rfl
  · exact named .bouquetName fun _ => rfl
  · exact DescriptorReader.givesOnly_of .service _ fun _ => rfl
  · exact DescriptorReader.givesOnly_of .terrestrialDelivery _ fun _ => rfl
  · exact DescriptorReader.givesOnly_extension

theorem Extends.adding (extends_ : table.Extends base) {tag : UInt8} (free : base.reader? tag = none)
    (gives : reader.GivesOnly true) : (table.adding tag reader).Extends base := by
  intro raw
  by_cases own : raw.tag = tag
  · have known : (table.adding tag reader).reader? raw.tag = some reader := by
      simp [reader?, DescriptorTable.adding, own]
    have unknown : base.meaning? raw = none := meaning?_of_unknown (own ▸ free)
    rw [filter_meaning? known gives, unknown, if_pos rfl]
  · have other : (tag == raw.tag) = false := beq_false_of_ne (Ne.symm own)
    have kept : (table.adding tag reader).reader? raw.tag = table.reader? raw.tag := by
      simp [reader?, DescriptorTable.adding, other]
    have same : (table.adding tag reader).meaning? raw = table.meaning? raw := by
      unfold meaning? read
      rw [kept]
    rw [same]
    exact extends_ raw

theorem extends_ofKind [HanDecoders] (kind : PlatformKind) : (Platform.ofKind kind).table.Extends standard := by
  cases kind with
  | standard => exact extends_standard
  | freeview =>
    exact extends_standard.adding rfl (DescriptorReader.givesOnly_of .logicalChannels _ fun _ => rfl)
  | freesat =>
    have channels : (standard.withFreesatChannels).Extends standard :=
      extends_standard.adding rfl (DescriptorReader.givesOnly_of .freesatChannels _ fun _ => rfl)
    exact channels.adding rfl (DescriptorReader.givesOnly_of .freesatRegions _ fun _ => rfl)

theorem Extends.filter_filterMap (extends_ : table.Extends base) (raws : List RawDescriptor) :
    (raws.filterMap table.meaning?).filter (!·.isPrivate) = raws.filterMap base.meaning? := by
  rw [List.filter_filterMap]
  exact List.filterMap_congr fun raw _ => extends_ raw

/-! ## Malformed descriptors -/

/-- A malformed descriptor is read as if it were cut out, whatever stands before and after it. -/
theorem readLoop_of_malformed {front : List RawDescriptor} {bad : RawDescriptor} {error : SiError}
    (short : RawDescriptor.AllShort front) (fits : bad.payload.length < 256)
    (malformed : table.read bad = .error error) (rest : Bytes) :
    table.readLoop (RawDescriptor.encodeAll front ++ (bad.encode ++ rest)) =
      table.readLoop (RawDescriptor.encodeAll front ++ rest) := by
  have alone : RawDescriptor.AllShort [bad] := List.forall_mem_singleton.mpr fits
  have shape : bad.encode = RawDescriptor.encodeAll [bad] := (List.append_nil _).symm
  rw [readLoop_eq, readLoop_eq, shape, RawDescriptor.complete_append short,
    RawDescriptor.complete_append alone, RawDescriptor.complete_append short, List.filterMap_append,
    List.filterMap_append, List.filterMap_append,
    List.filterMap_cons_none (meaning?_of_malformed malformed)]
  rfl

/-- Before a descriptor that breaks off all others are read. -/
theorem readLoop_of_beyond {front : List RawDescriptor} (short : RawDescriptor.AllShort front) (tag : UInt8)
    {length : UInt8} {payload : Bytes} (beyond : payload.length < length.toNat) :
    table.readLoop (RawDescriptor.encodeAll front ++ tag :: length :: payload) =
      table.readLoop (RawDescriptor.encodeAll front) := by
  rw [readLoop_encodeAll table short, readLoop_eq, RawDescriptor.complete_append short,
    RawDescriptor.complete_of_beyond tag beyond, List.append_nil]

end DescriptorTable

/-! ## Sections -/

open DescriptorTable (Extends)

variable {table base : DescriptorTable}

theorem ReadsLast.map_shared {α β : Type} {reading : DescriptorTable → Except SiError β}
    {read : DescriptorTable → α → β} (last : ReadsLast reading read) {shared : β → β}
    (same : ∀ content, shared (read table content) = read base content) :
    (reading table).map shared = reading base := by
  obtain ⟨content, gathered⟩ := last
  rw [gathered, gathered]
  cases content with
  | error reason => rfl
  | ok content => exact congrArg Except.ok (same content)

theorem NetworkSection.parse_shared (extends_ : table.Extends base) (whole : Section) :
    (parse whole table).map (·.shared) = parse whole base := by
  refine (parse_readsLast whole).map_shared fun content => ?_
  have transport (raw : RawTransport) : (raw.entry table).shared = raw.entry base := by
    unfold TransportEntry.shared RawTransport.entry
    rw [extends_.filter_filterMap]
  unfold shared RawNetworkTable.parsed
  rw [extends_.filter_filterMap, List.map_map]
  exact congrArg _ (List.map_congr_left fun raw _ => transport raw)

theorem ServiceSection.parse_shared (extends_ : table.Extends base) (whole : Section) :
    (parse whole table).map (·.shared) = parse whole base := by
  refine (parse_readsLast whole).map_shared fun content => ?_
  have service (raw : RawService) : (raw.entry table).shared = raw.entry base := by
    unfold ServiceEntry.shared RawService.entry
    rw [extends_.filter_filterMap]
  unfold shared RawServiceTable.parsed
  rw [List.map_map]
  exact congrArg _ (List.map_congr_left fun raw _ => service raw)

/-! ## Findings -/

/-- If what a descriptor stands for is private exactly if the descriptor is, the private findings are those of the
private descriptors. -/
theorem filter_flatMap_isPrivate {tell : Descriptor → List Finding}
    (apart : ∀ descriptor, ∀ finding ∈ tell descriptor, finding.isPrivate = descriptor.isPrivate)
    (descriptors : List Descriptor) :
    (descriptors.flatMap tell).filter (!·.isPrivate) = (descriptors.filter (!·.isPrivate)).flatMap tell := by
  induction descriptors with
  | nil => rfl
  | cons descriptor rest ih =>
    rw [List.flatMap_cons, List.filter_append, ih]
    cases hidden : descriptor.isPrivate with
    | true =>
      have nothing : (tell descriptor).filter (!·.isPrivate) = [] := by
        refine List.filter_eq_nil_iff.mpr fun finding told => ?_
        simp [apart descriptor finding told, hidden]
      rw [nothing, List.filter_cons_of_neg (by simp [hidden])]
      rfl
    | false =>
      have everything : (tell descriptor).filter (!·.isPrivate) = tell descriptor := by
        refine List.filter_eq_self.mpr fun finding told => ?_
        simp [apart descriptor finding told, hidden]
      rw [everything, List.filter_cons_of_pos (by simp [hidden]), List.flatMap_cons]

namespace NetworkSection

theorem isPrivate_of_groupFindings (kind : NetworkKind) (id : UInt16) (descriptor : Descriptor)
    (finding : Finding) (told : finding ∈ groupFindings kind id descriptor) :
    finding.isPrivate = descriptor.isPrivate := by
  cases descriptor with
  | networkName name => cases List.mem_singleton.mp told; rfl
  | bouquetName name => cases List.mem_singleton.mp told; rfl
  | freesatRegions regions =>
    obtain ⟨region, -, rfl⟩ := List.mem_map.mp told
    rfl
  | _ => cases told

theorem isPrivate_of_transportFindings (id onid tsid : UInt16) (descriptor : Descriptor)
    (finding : Finding) (told : finding ∈ transportFindings id onid tsid descriptor) :
    finding.isPrivate = descriptor.isPrivate := by
  cases descriptor with
  | satelliteDelivery delivery => cases List.mem_singleton.mp told; rfl
  | terrestrialDelivery delivery => cases List.mem_singleton.mp told; rfl
  | serviceList services => cases List.mem_singleton.mp told; rfl
  | t2Delivery delivery =>
    obtain ⟨tuning, -, rfl⟩ := Option.map_eq_some_iff.mp (Option.mem_toList.mp told)
    rfl
  | logicalChannels channels =>
    obtain ⟨channel, -, rfl⟩ := List.mem_map.mp told
    rfl
  | freesatChannels channels =>
    obtain ⟨channel, -, told⟩ := List.mem_flatMap.mp told
    obtain ⟨number, -, rfl⟩ := List.mem_map.mp told
    rfl
  | _ => cases told

theorem findings_shared (kind : NetworkKind) (parsed : NetworkSection) :
    parsed.shared.findings kind = (parsed.findings kind).filter (!·.isPrivate) := by
  unfold findings
  rw [List.filter_append, filter_flatMap_isPrivate (isPrivate_of_groupFindings kind parsed.id),
    List.filter_flatMap]
  unfold shared
  rw [List.flatMap_map]
  refine congrArg _ (List.flatMap_congr fun transport _ => ?_)
  exact (filter_flatMap_isPrivate (isPrivate_of_transportFindings _ _ _) _).symm

end NetworkSection

theorem ServiceEntry.info_shared (entry : ServiceEntry) : entry.shared.info = entry.info := by
  have names : lastNames? entry.shared.descriptors = lastNames? entry.descriptors := by
    unfold lastNames? shared
    rw [List.filterMap_filter]
    refine congrArg _ (List.filterMap_congr fun descriptor _ => ?_)
    cases descriptor <;> rfl
  rw [entry.info_eq, entry.shared.info_eq, names]
  rfl

theorem ServiceSection.findings_shared (parsed : ServiceSection) (isActual : Bool) :
    parsed.shared.findings isActual = (parsed.findings isActual).filter (!·.isPrivate) := by
  have plain : ∀ finding ∈ parsed.findings isActual, (!finding.isPrivate) = true := by
    intro finding told
    unfold findings at told
    rcases List.mem_append.mp told with current | service
    · cases isActual with
      | true => cases List.mem_singleton.mp current; rfl
      | false => cases current
    · obtain ⟨entry, -, rfl⟩ := List.mem_map.mp service
      rfl
  rw [List.filter_eq_self.mpr plain]
  unfold findings shared
  rw [List.map_map]
  refine congrArg _ (List.map_congr_left fun entry _ => ?_)
  exact congrArg (Finding.service parsed.onid parsed.tsid entry.serviceId) entry.info_shared

/-! ## Readers in step -/

/-- The answers to one section are the same fault, or the same arrival with findings that differ in private ones
alone. -/
inductive AnswersAlike {ρ : Type} (InStep : ρ → ρ → Prop) :
    Except SiError (ρ × Arrival × List Finding) → Except SiError (ρ × Arrival × List Finding) → Prop where
  | refused (error : SiError) : AnswersAlike InStep (.error error) (.error error)
  | taken {next next' : ρ} (inStep : InStep next next') (arrival : Arrival) {found found' : List Finding}
    (same : found.filter (!·.isPrivate) = found') :
    AnswersAlike InStep (.ok (next, arrival, found)) (.ok (next', arrival, found'))

/-- Two readers in step, of which the first has told private findings besides. -/
structure Telling.Alike {ρ : Type} (InStep : ρ → ρ → Prop) (telling telling' : Telling ρ) : Prop where
  reader : InStep telling.reader telling'.reader
  told : telling.told.filter (!·.isPrivate) = telling'.told

theorem Telling.Alike.after {ρ : Type} {InStep : ρ → ρ → Prop} {telling telling' : Telling ρ}
    (alike : Alike InStep telling telling') {answer answer' : Except SiError (ρ × Arrival × List Finding)}
    (answers : AnswersAlike InStep answer answer') :
    Alike InStep (telling.after answer).2 (telling'.after answer').2 := by
  cases answers with
  | refused error => exact alike
  | taken inStep arrival same =>
    refine ⟨inStep, ?_⟩
    simp only [Telling.after]
    rw [List.filter_append, alike.told, same]

namespace NetworkTableReader

structure InStep (reader reader' : NetworkTableReader) : Prop where
  kind : reader.kind = reader'.kind
  table : reader.table.Extends reader'.table
  tracker : reader.tracker = reader'.tracker

variable {reader reader' : NetworkTableReader}

theorem InStep.process (inStep : InStep reader reader') (whole : Section) :
    AnswersAlike InStep (reader.process whole) (reader'.process whole) := by
  have same := NetworkSection.parse_shared inStep.table whole
  cases outcome : NetworkSection.parse whole reader.table with
  | error error =>
    rw [outcome] at same
    rw [process_of_malformed outcome, process_of_malformed same.symm]
    exact .refused error
  | ok parsed =>
    rw [outcome] at same
    rw [process_of_parsed outcome, process_of_parsed same.symm, ← inStep.tracker, ← inStep.kind]
    refine .taken ⟨rfl, inStep.table, rfl⟩ _ ?_
    rw [parsed.findings_shared]
    split <;> rfl

theorem alike_act {telling telling' : Telling NetworkTableReader} (alike : Telling.Alike InStep telling telling')
    (done : ReaderAct) : Telling.Alike InStep (act telling done) (act telling' done) := by
  cases done with
  | take whole =>
    simp only [act, runOn_take]
    exact alike.after (alike.reader.process whole)
  | reset => exact ⟨⟨alike.reader.kind, alike.reader.table, rfl⟩, alike.told⟩

theorem alike_foldl_act (inStep : InStep reader reader') (acts : List ReaderAct) :
    Telling.Alike InStep (acts.foldl act ⟨reader, []⟩) (acts.foldl act ⟨reader', []⟩) :=
  List.foldl_rel ⟨inStep, rfl⟩ fun done _ _ _ alike => alike_act alike done

end NetworkTableReader

namespace ServiceTableReader

def act (telling : Telling ServiceTableReader) : ReaderAct → Telling ServiceTableReader
  | .take whole => ((take whole).runOn telling).2
  | .reset => { telling with reader := telling.reader.reset }

/-- The readers have heard the same, the first with the larger table of readers. They need not expect the same
tables. -/
structure InStep (reader reader' : ServiceTableReader) : Prop where
  table : reader.table.Extends reader'.table
  trackers : ∀ isActual, reader.trackerOf isActual = reader'.trackerOf isActual

variable {reader reader' : ServiceTableReader}

theorem InStep.withTracker (inStep : InStep reader reader') (isActual : Bool) (tracker : TableTracker) :
    InStep (reader.withTracker isActual tracker) (reader'.withTracker isActual tracker) := by
  refine ⟨?_, fun another => ?_⟩
  · rw [table_withTracker, table_withTracker]
    exact inStep.table
  · by_cases own : another = isActual
    · rw [own, trackerOf_withTracker, trackerOf_withTracker]
    · rw [trackerOf_withTracker_of_ne _ own, trackerOf_withTracker_of_ne _ own, inStep.trackers]

theorem InStep.process (inStep : InStep reader reader') (whole : Section) :
    AnswersAlike InStep (reader.process whole) (reader'.process whole) := by
  have same := ServiceSection.parse_shared inStep.table whole
  cases known : isActual? whole.header.tableId with
  | none =>
    rw [process_of_unexpected known, process_of_unexpected known]
    exact .refused _
  | some isActual =>
    cases outcome : ServiceSection.parse whole reader.table with
    | error error =>
      rw [outcome] at same
      rw [process_of_malformed known outcome, process_of_malformed known same.symm]
      exact .refused error
    | ok parsed =>
      rw [outcome] at same
      rw [process_of_parsed known outcome, process_of_parsed known same.symm, ← inStep.trackers]
      refine .taken (inStep.withTracker isActual _) _ ?_
      rw [parsed.findings_shared]
      split <;> rfl

theorem alike_act {telling telling' : Telling ServiceTableReader} (alike : Telling.Alike InStep telling telling')
    (done : ReaderAct) : Telling.Alike InStep (act telling done) (act telling' done) := by
  cases done with
  | take whole =>
    simp only [act, runOn_take]
    exact alike.after (alike.reader.process whole)
  | reset => exact ⟨⟨alike.reader.table, fun isActual => by cases isActual <;> rfl⟩, alike.told⟩

theorem alike_foldl_act (inStep : InStep reader reader') (acts : List ReaderAct) :
    Telling.Alike InStep (acts.foldl act ⟨reader, []⟩) (acts.foldl act ⟨reader', []⟩) :=
  List.foldl_rel ⟨inStep, rfl⟩ fun done _ _ _ alike => alike_act alike done

end ServiceTableReader

/-- With the table of a platform every section of a network, bouquet or service table is read as with the standard
one, or refused for the same reason, and without its private descriptors it is the same. Readers that have heard
the same, one with each table, answer every section alike and stay alike over all sections and resets: they keep the
same trackers, and without the private findings they tell the same. A malformed descriptor is read as if it were
cut out, and before one that breaks off all others are read. -/
theorem Platform.table_extends_standard [HanDecoders] (kind : PlatformKind) :
    let table := (ofKind kind).table
    (∀ whole,
      (NetworkSection.parse whole table).map (·.shared) = NetworkSection.parse whole .standard ∧
        (ServiceSection.parse whole table).map (·.shared) = ServiceSection.parse whole .standard) ∧
      (∀ group tracker,
        let reader : NetworkTableReader := ⟨group, table, tracker⟩
        let reader' : NetworkTableReader := ⟨group, .standard, tracker⟩
        (∀ whole, AnswersAlike NetworkTableReader.InStep (reader.process whole) (reader'.process whole)) ∧
          ∀ acts : List ReaderAct,
            let telling := acts.foldl NetworkTableReader.act ⟨reader, []⟩
            let telling' := acts.foldl NetworkTableReader.act ⟨reader', []⟩
            telling.reader.tracker = telling'.reader.tracker ∧
              telling.told.filter (!·.isPrivate) = telling'.told) ∧
      (∀ actual other expectActual expectOther expectActual' expectOther',
        let reader : ServiceTableReader := ⟨table, actual, other, expectActual, expectOther⟩
        let reader' : ServiceTableReader := ⟨.standard, actual, other, expectActual', expectOther'⟩
        (∀ whole, AnswersAlike ServiceTableReader.InStep (reader.process whole) (reader'.process whole)) ∧
          ∀ acts : List ReaderAct,
            let telling := acts.foldl ServiceTableReader.act ⟨reader, []⟩
            let telling' := acts.foldl ServiceTableReader.act ⟨reader', []⟩
            (∀ isActual, telling.reader.trackerOf isActual = telling'.reader.trackerOf isActual) ∧
              telling.told.filter (!·.isPrivate) = telling'.told) ∧
      ∀ front, RawDescriptor.AllShort front →
        (∀ bad error, bad.payload.length < 256 → table.read bad = .error error → ∀ rest,
          table.readLoop (RawDescriptor.encodeAll front ++ (bad.encode ++ rest)) =
            table.readLoop (RawDescriptor.encodeAll front ++ rest)) ∧
          ∀ tag (length : UInt8) (payload : Bytes), payload.length < length.toNat →
            table.readLoop (RawDescriptor.encodeAll front ++ tag :: length :: payload) =
              table.readLoop (RawDescriptor.encodeAll front) := by
  intro table
  have larger : table.Extends .standard := DescriptorTable.extends_ofKind kind
  refine ⟨fun whole => ⟨?_, ?_⟩, fun group tracker => ?_,
    fun actual other expectActual expectOther expectActual' expectOther' => ?_, fun front short => ⟨?_, ?_⟩⟩
  · exact NetworkSection.parse_shared larger whole
  · exact ServiceSection.parse_shared larger whole
  · intro reader reader'
    have inStep : NetworkTableReader.InStep reader reader' := ⟨rfl, larger, rfl⟩
    refine ⟨inStep.process, fun acts => ?_⟩
    have alike := NetworkTableReader.alike_foldl_act inStep acts
    exact ⟨alike.reader.tracker, alike.told⟩
  · intro reader reader'
    have inStep : ServiceTableReader.InStep reader reader' :=
      ⟨larger, fun isActual => by cases isActual <;> rfl⟩
    refine ⟨inStep.process, fun acts => ?_⟩
    have alike := ServiceTableReader.alike_foldl_act inStep acts
    exact ⟨alike.reader.trackers, alike.told⟩
  · exact fun bad error fits malformed rest => table.readLoop_of_malformed short fits malformed rest
  · exact fun tag length payload beyond => table.readLoop_of_beyond short tag beyond

/-! A transport of Freeview with its services and their channel numbers, between which a descriptor of channel numbers
has a byte too few. -/

namespace NumberedTransport

open scoped HanDecoders

def services : RawDescriptor := ⟨0x41, [0x10, 0x4B, 0x01]⟩
def broken : RawDescriptor := ⟨0x83, [0x10, 0x4B, 0xFC]⟩
def numbers : RawDescriptor := ⟨0x83, [0x10, 0x4B, 0xFC, 0x01]⟩

def header : SectionHeader where
  tableId := 0x40
  length := 0
  sectionId := 0x1001
  version := 5
  isCurrent := true
  number := 0
  lastNumber := 0

def whole : Section :=
  .written 15 header (RawNetworkTable.encode 15 ⟨[], [⟨0x1004, 0x233A, [services, broken, numbers]⟩]⟩) [0, 0, 0, 0]

theorem broken_malformed : Platform.freeview.table.read broken = .error (.truncated 2 2 3) := by
  decide +kernel

/-- The number after the broken descriptor is read, and is all that a reader with the standard table does not
tell. -/
theorem reads_numbered_transport :
    (Platform.freeview.table.read broken = .error (.truncated 2 2 3) ∧
        Platform.freeview.table.readLoop (RawDescriptor.encodeAll [services, broken, numbers]) =
          [.serviceList [⟨0x104B, 1⟩], .logicalChannels [⟨0x104B, 1, true⟩]]) ∧
      (NetworkTableReader.actAll .network Platform.freeview.table [.take whole]).told =
        [.transportServices 0x1001 0x233A 0x1004 [⟨0x104B, 1⟩], .logicalChannel 0x1001 0x104B 0 1 0] ∧
      (NetworkTableReader.actAll .network .standard [.take whole]).told =
        [.transportServices 0x1001 0x233A 0x1004 [⟨0x104B, 1⟩]] := by
  obtain ⟨-, networks, -, malformed⟩ := Platform.table_extends_standard .freeview
  have cut := (malformed [services] (by decide)).1 broken (.truncated 2 2 3) (by decide) broken_malformed
    (RawDescriptor.encodeAll [numbers])
  have told : (NetworkTableReader.actAll .network Platform.freeview.table [.take whole]).told =
      [.transportServices 0x1001 0x233A 0x1004 [⟨0x104B, 1⟩], .logicalChannel 0x1001 0x104B 0 1 0] := by
    decide +kernel
  have shared := ((networks .network .empty).2 [.take whole]).2
  exact ⟨⟨broken_malformed, cut.trans (by decide +kernel)⟩, told,
    shared.symm.trans (congrArg (List.filter (!·.isPrivate)) told)⟩

end NumberedTransport

end DvbScan
