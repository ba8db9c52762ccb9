import DvbScan.Proofs.SectionLayout
import DvbScan.Proofs.ServiceReader
import DvbScan.Proofs.TableGrowth
import Mathlib.Data.List.Induction

/-!
# Service tables read back

A service table is written as the network of origin and a list of services. The running status of a service and
the mark of conditional access stand above the length of its descriptors. Reading a section of it gives back the
services in order, each with its marks and with the descriptors that the dispatch table understands. A reader to
which the section is new tells of every service, with the names that its last service descriptor gives.
-/

namespace DvbScan

structure RawService where
  serviceId : UInt16
  /-- The marks of its event tables, which are not read. -/
  events : UInt8
  runningStatus : Fin 8
  freeCa : Bool
  descriptors : List RawDescriptor
  deriving DecidableEq, Repr

namespace RawService

/-- The bits above the length of the descriptors. -/
def marks (service : RawService) : Fin 16 :=
  ⟨2 * service.runningStatus + service.freeCa.toNat, by
    have status := service.runningStatus.isLt
    have access := service.freeCa.toNat_lt
    omega⟩

def encode (service : RawService) : Bytes :=
  Bytes.ofWord service.serviceId.toNat ++
    service.events :: RawDescriptor.encodeLoop service.marks service.descriptors

def encodeAll (services : List RawService) : Bytes := services.flatMap encode

def entry (table : DescriptorTable) (service : RawService) : ServiceEntry where
  serviceId := service.serviceId
  runningStatus := service.runningStatus
  freeCa := service.freeCa
  descriptors := service.descriptors.filterMap table.meaning?

theorem length_encode (service : RawService) :
    service.encode.length = 5 + (RawDescriptor.encodeAll service.descriptors).length := by
  simp only [encode, List.length_append, List.length_cons, Bytes.length_ofWord,
    RawDescriptor.length_encodeLoop]
  omega

def marksByte (service : RawService) (length : Nat) : UInt8 :=
  UInt8.ofNat ((4096 * service.marks + length) / 256)

variable {service : RawService} {length : Nat}

theorem bits_marksByte (fits : length < 4096) :
    bits (service.marksByte length) 5 3 = service.runningStatus := by
  have status := service.runningStatus.isLt
  have access := service.freeCa.toNat_lt
  simp only [bits, marksByte, marks, UInt8.toNat_ofNat', Nat.shiftRight_eq_div_pow, Nat.shiftLeft_eq]
  omega

theorem flag_marksByte (fits : length < 4096) : flag (service.marksByte length) 4 = service.freeCa := by
  have status := service.runningStatus.isLt
  have access := service.freeCa.toNat_lt
  have odd : bits (service.marksByte length) 4 1 = service.freeCa.toNat := by
    simp only [bits, marksByte, marks, UInt8.toNat_ofNat', Nat.shiftRight_eq_div_pow, Nat.shiftLeft_eq]
    omega
  unfold flag
  rw [odd]
  cases service.freeCa <;> rfl

end RawService

structure RawServiceTable where
  onid : UInt16
  /-- A byte that has no use. -/
  reserved : UInt8
  services : List RawService
  deriving DecidableEq, Repr

namespace RawServiceTable

def encode (content : RawServiceTable) : Bytes :=
  Bytes.ofWord content.onid.toNat ++ content.reserved :: RawService.encodeAll content.services

def AllShort (content : RawServiceTable) : Prop :=
  ∀ service ∈ content.services, RawDescriptor.AllShort service.descriptors

instance (content : RawServiceTable) : Decidable content.AllShort :=
  inferInstanceAs (Decidable (∀ service ∈ content.services, RawDescriptor.AllShort service.descriptors))

def parsed (table : DescriptorTable) (tsid : UInt16) (content : RawServiceTable) : ServiceSection where
  tsid := tsid
  onid := content.onid
  services := content.services.map (·.entry table)

end RawServiceTable

def Descriptor.names? : Descriptor → Option ServiceDescriptor
  | .service names => some names
  | _ => none

def lastNames? (descriptors : List Descriptor) : Option ServiceDescriptor :=
  (descriptors.filterMap Descriptor.names?).getLast?

theorem ServiceEntry.info_eq (entry : ServiceEntry) : entry.info = {
    serviceType := (lastNames? entry.descriptors).map (·.serviceType)
    name := (lastNames? entry.descriptors).map (·.name)
    provider := (lastNames? entry.descriptors).map (·.provider)
    freeCa := entry.freeCa
    runningStatus := entry.runningStatus } := by
  obtain ⟨serviceId, runningStatus, freeCa, descriptors⟩ := entry
  unfold info lastNames?
  -- from the end: a descriptor that is no service descriptor leaves what was read before it
  induction descriptors using List.reverseRecOn with
  | nil => rfl
  | append_singleton earlier last ih =>
    simp only at ih ⊢
    rw [List.foldl_append, ih, List.filterMap_append]
    cases last with
    | service names => simp [Descriptor.names?]
    | _ => simp [Descriptor.names?]

namespace ServiceSection

theorem servicesFrom_of_at {whole : Section} (table : DescriptorTable) {services : List RawService}
    {position : Nat} (stands : whole.bytes.At position (RawService.encodeAll services))
    (ends : whole.payloadEnd = position + (RawService.encodeAll services).length)
    (framed : whole.payloadEnd < 4096)
    (short : ∀ service ∈ services, RawDescriptor.AllShort service.descriptors) :
    servicesFrom whole table position = .ok (services.map (·.entry table)) := by
  induction services generalizing position with
  | nil =>
    rw [servicesFrom, if_neg (by rw [ends]; simp [RawService.encodeAll])]
    rfl
  | cons service rest ih =>
    have shape : RawService.encodeAll (service :: rest) =
        service.encode ++ RawService.encodeAll rest := rfl
    have length := service.length_encode
    rw [shape, List.length_append] at ends
    rw [shape] at stands
    obtain ⟨own, later⟩ := Bytes.at_append.mp stands
    obtain ⟨first, own⟩ := Bytes.at_append.mp own
    obtain ⟨-, own⟩ := Bytes.at_cons.mp own
    obtain ⟨count, content⟩ := Bytes.at_append.mp own
    have fits : (RawDescriptor.encodeAll service.descriptors).length < 4096 := by omega
    have serviceId : whole.bytes.word16 position = .ok service.serviceId := first.word16
    have flags : whole.bytes.word8 (position + 3) =
        .ok (service.marksByte (RawDescriptor.encodeAll service.descriptors).length) :=
      (Bytes.at_cons.mp count).1.word8
    have size : whole.bytes.word12 (position + 3) =
        .ok (RawDescriptor.encodeAll service.descriptors).length := count.word12 fits
    have loop : whole.bytes.field (position + 5) (RawDescriptor.encodeAll service.descriptors).length =
        .ok (RawDescriptor.encodeAll service.descriptors) := content.field
    -- the next service begins where this one ends
    have following : position + service.encode.length =
        position + 5 + (RawDescriptor.encodeAll service.descriptors).length := by omega
    rw [following] at later
    have remaining := ih later (by omega) fun other member =>
      short other (List.mem_cons_of_mem service member)
    rw [servicesFrom, if_pos (by omega), serviceId, flags, size]
    simp only [bind, Except.bind]
    rw [loop]
    simp only
    rw [if_neg (by omega), remaining, service.bits_marksByte fits, RawService.flag_marksByte fits,
      table.readLoop_encodeAll (short service List.mem_cons_self)]
    rfl

theorem parse_of_at {whole : Section} (table : DescriptorTable) {content : RawServiceTable}
    (stands : whole.bytes.At Section.headerLength content.encode)
    (ends : whole.payloadEnd = Section.headerLength + content.encode.length)
    (framed : whole.payloadEnd < 4096) (short : content.AllShort) :
    parse whole table = .ok (content.parsed table whole.header.sectionId) := by
  have total : content.encode.length = 3 + (RawService.encodeAll content.services).length := by
    simp only [RawServiceTable.encode, List.length_append, List.length_cons, Bytes.length_ofWord]
    omega
  obtain ⟨first, later⟩ := Bytes.at_append.mp stands
  obtain ⟨-, later⟩ := Bytes.at_cons.mp later
  have onid : whole.bytes.word16 Section.headerLength = .ok content.onid := first.word16
  have services : servicesFrom whole table (Section.headerLength + 3) =
      .ok (content.services.map (·.entry table)) :=
    servicesFrom_of_at table later (by omega) framed short
  unfold parse
  rw [onid, services]
  rfl

theorem findings_parsed (table : DescriptorTable) (tsid : UInt16) (content : RawServiceTable)
    (isActual : Bool) : (content.parsed table tsid).findings isActual =
      (if isActual then [.currentTransport content.onid tsid] else []) ++
        content.services.map fun service =>
          .service content.onid tsid service.serviceId (service.entry table).info := by
  unfold findings RawServiceTable.parsed
  rw [List.map_map]
  rfl

end ServiceSection

namespace ServiceTableReader

/-- A section of a service table is read back as it was written: the services in order, with their marks and the
descriptors that the table of readers understands. If it applies now, a reader that has heard nothing tells of
the transport that is being received, exactly if the section belongs to the table of that transport, and then of
each service in order, with the type and the names in its last service descriptor. -/
theorem reads_written_services (table : DescriptorTable) (expectActual expectOther : Bool)
    (upper : Fin 16) (header : SectionHeader) (content : RawServiceTable) (checksum trailing : Bytes)
    (version : header.version < 32) (numbers : header.number ≤ header.lastNumber)
    (short : content.AllShort) (fits : content.encode.length + 9 < 4096)
    (check : checksum.length = 4) :
    ∃ whole : Section,
      Section.parse (Section.encode upper header content.encode checksum ++ trailing) = .ok whole ∧
        ServiceSection.parse whole table = .ok {
          tsid := header.sectionId
          onid := content.onid
          services := content.services.map fun service => {
            serviceId := service.serviceId
            runningStatus := service.runningStatus
            freeCa := service.freeCa
            descriptors := service.descriptors.filterMap table.meaning? } } ∧
        (header.isCurrent = true → header.tableId = 0x42 ∨ header.tableId = 0x46 → ∃ next arrival,
          (new table expectActual expectOther).process whole = .ok (next, arrival,
            (if header.tableId = 0x42 then [.currentTransport content.onid header.sectionId] else []) ++
              content.services.map fun service =>
                let names := lastNames? (service.descriptors.filterMap table.meaning?)
                .service content.onid header.sectionId service.serviceId {
                  serviceType := names.map (·.serviceType)
                  name := names.map (·.name)
                  provider := names.map (·.provider)
                  freeCa := service.freeCa
                  runningStatus := service.runningStatus })) := by
  have ends : (Section.written upper header content.encode checksum).payloadEnd =
      8 + content.encode.length := Section.payloadEnd_written check
  have parsed : ServiceSection.parse (Section.written upper header content.encode checksum) table =
      .ok (content.parsed table header.sectionId) :=
    ServiceSection.parse_of_at table Section.at_payload ends (by omega) short
  refine ⟨_, Section.parse_encode trailing fits version check, parsed, fun current kind => ?_⟩
  have known : isActual? header.tableId = some (decide (header.tableId = 0x42)) := by
    rcases kind with actual | other
    · rw [actual]
      rfl
    · rw [other]
      rfl
  have processed := @process_of_parsed (new table expectActual expectOther) _ _ _ known parsed
  have blank : (new table expectActual expectOther).trackerOf (decide (header.tableId = 0x42)) = .empty := by
    cases decide (header.tableId = 0x42) <;> rfl
  have news : (TableTracker.empty.track
      (Section.written upper header content.encode checksum).header).2.isFresh = true :=
    TableTracker.isFresh_track_empty current numbers
  rw [blank] at processed
  simp only at processed
  rw [if_pos news, ServiceSection.findings_parsed] at processed
  simp only [ServiceEntry.info_eq, decide_eq_true_eq] at processed
  exact ⟨_, _, processed⟩

end ServiceTableReader

/-! A service that is described twice, with a malformed description between, and one that is not described. -/

namespace DescribedTwice

open scoped HanDecoders

def header : SectionHeader where
  tableId := 0x42
  length := 0
  sectionId := 0x1004
  version := 31
  isCurrent := true
  number := 0
  lastNumber := 1

def content : RawServiceTable where
  onid := 0x233A
  reserved := 0xFF
  services := [
    { serviceId := 4171, events := 0xFC, runningStatus := 4, freeCa := false
      descriptors := [⟨0x48, [0x01, 0x01, 0x42, 0x03, 0x4F, 0x4E, 0x45]⟩, ⟨0x99, []⟩,
        ⟨0x48, [0x02, 0x01, 0x43, 0x03, 0x54, 0x57, 0x4F]⟩, ⟨0x48, [0x01, 0x09, 0x42]⟩] },
    { serviceId := 8261, events := 0xFF, runningStatus := 7, freeCa := true, descriptors := [] }]

theorem reads_described_twice :
    (header.version < 32 ∧ header.number ≤ header.lastNumber) ∧
      content.AllShort ∧ content.encode.length + 9 < 4096 ∧
      ∃ whole, Section.parse (Section.encode 15 header content.encode [0, 0, 0, 0] ++ [0xFF]) =
          .ok whole ∧
        ∃ next arrival, (ServiceTableReader.new .standard true true).process whole =
          .ok (next, arrival, [.currentTransport 0x233A 0x1004,
            .service 0x233A 0x1004 4171 ⟨some 2, some "TWO", some "C", false, 4⟩,
            .service 0x233A 0x1004 8261 ⟨none, none, none, true, 7⟩]) := by
  have short : content.AllShort := by decide
  have fits : content.encode.length + 9 < 4096 := by decide
  obtain ⟨whole, framed, -, told⟩ := ServiceTableReader.reads_written_services .standard true true 15 header
    content [0, 0, 0, 0] [0xFF] (by decide) (by decide) short fits rfl
  obtain ⟨next, arrival, processed⟩ := told rfl (.inl rfl)
  exact ⟨by decide, short, fits, whole, framed, next, arrival, processed⟩

end DescribedTwice

end DvbScan
