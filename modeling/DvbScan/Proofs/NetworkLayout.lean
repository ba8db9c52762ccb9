import DvbScan.Proofs.SectionLayout
import DvbScan.Proofs.TableGrowth
import DvbScan.Si.NetworkTable

/-!
# Network tables read back

A network or bouquet table is written as a loop of descriptors of the group, the length of all transports, and
the transports, each with a loop of its own. Reading a section of it gives back the transports in order, and of
each loop the descriptors that the dispatch table understands. A reader to which the section is new tells of
every descriptor what it stands for where it stands, one after the other as they are written.
-/

namespace DvbScan

structure RawTransport where
  tsid : UInt16
  onid : UInt16
  descriptors : List RawDescriptor
  deriving DecidableEq, Repr

namespace RawTransport

def encode (upper : Fin 16) (transport : RawTransport) : Bytes :=
  Bytes.ofWord transport.tsid.toNat ++
    (Bytes.ofWord transport.onid.toNat ++ RawDescriptor.encodeLoop upper transport.descriptors)

def encodeAll (upper : Fin 16) (transports : List RawTransport) : Bytes :=
  transports.flatMap (encode upper)

def entry (table : DescriptorTable) (transport : RawTransport) : TransportEntry where
  tsid := transport.tsid
  onid := transport.onid
  descriptors := transport.descriptors.filterMap table.meaning?

theorem length_encode (upper : Fin 16) (transport : RawTransport) :
    (transport.encode upper).length = 6 + (RawDescriptor.encodeAll transport.descriptors).length := by
  simp only [encode, List.length_append, Bytes.length_ofWord, RawDescriptor.length_encodeLoop]
  omega

end RawTransport

/-- The payload of a section of a network or bouquet table. -/
structure RawNetworkTable where
  descriptors : List RawDescriptor
  transports : List RawTransport
  deriving DecidableEq, Repr

namespace RawNetworkTable

def encode (upper : Fin 16) (content : RawNetworkTable) : Bytes :=
  RawDescriptor.encodeLoop upper content.descriptors ++
    (Bytes.ofWord (4096 * upper + (RawTransport.encodeAll upper content.transports).length) ++
      RawTransport.encodeAll upper content.transports)

def AllShort (content : RawNetworkTable) : Prop :=
  RawDescriptor.AllShort content.descriptors ∧
    ∀ transport ∈ content.transports, RawDescriptor.AllShort transport.descriptors

instance (content : RawNetworkTable) : Decidable content.AllShort :=
  inferInstanceAs (Decidable (_ ∧ _))

def parsed (table : DescriptorTable) (id : UInt16) (content : RawNetworkTable) : NetworkSection where
  id := id
  descriptors := content.descriptors.filterMap table.meaning?
  transports := content.transports.map (·.entry table)

end RawNetworkTable

inductive Subject where
  | group | transport | service
  deriving DecidableEq, Repr

def Descriptor.subject : Descriptor → Subject
  | .networkName _ | .bouquetName _ | .freesatRegions _ => .group
  | .satelliteDelivery _ | .terrestrialDelivery _ | .t2Delivery _ | .serviceList _
  | .logicalChannels _ | .freesatChannels _ => .transport
  | .service _ => .service

inductive NetworkLoop where
  | group
  | transport (onid tsid : UInt16)
  deriving DecidableEq, Repr

def NetworkLoop.subject : NetworkLoop → Subject
  | group => .group
  | transport _ _ => .transport

/-- What a descriptor in a loop of the table of a group stands for, in order. One that is not about the subject
of its loop stands for nothing. -/
inductive StandsFor (kind : NetworkKind) (id : UInt16) : NetworkLoop → Descriptor → List Finding → Prop where
  | networkName (name : String) :
    StandsFor kind id .group (.networkName name) [.networkName kind id name]
  | bouquetName (name : String) :
    StandsFor kind id .group (.bouquetName name) [.networkName kind id name]
  | regions (regions : List FreesatRegion) :
    StandsFor kind id .group (.freesatRegions regions)
      (regions.map fun region => .region id region.region region.name)
  | satellite (onid tsid : UInt16) (delivery : SatelliteDelivery) :
    StandsFor kind id (.transport onid tsid) (.satelliteDelivery delivery)
      [.transportTuning id onid tsid delivery.toTuning]
  | terrestrial (onid tsid : UInt16) (delivery : TerrestrialDelivery) :
    StandsFor kind id (.transport onid tsid) (.terrestrialDelivery delivery)
      [.transportTuning id onid tsid delivery.toTuning]
  | secondGeneration (onid tsid : UInt16) (delivery : T2Delivery) {tuning : Tuning}
    (known : delivery.toTuning? = some tuning) :
    StandsFor kind id (.transport onid tsid) (.t2Delivery delivery)
      [.transportTuning id onid tsid tuning]
  | withoutFrequency (onid tsid : UInt16) (delivery : T2Delivery)
    (unknown : delivery.toTuning? = none) :
    StandsFor kind id (.transport onid tsid) (.t2Delivery delivery) []
  | services (onid tsid : UInt16) (services : List ServiceListEntry) :
    StandsFor kind id (.transport onid tsid) (.serviceList services)
      [.transportServices id onid tsid services]
  | channels (onid tsid : UInt16) (channels : List LogicalChannel) :
    StandsFor kind id (.transport onid tsid) (.logicalChannels channels)
      (channels.map fun channel => .logicalChannel id channel.serviceId 0 channel.number 0)
  | regionalChannels (onid tsid : UInt16) (channels : List FreesatChannel) :
    StandsFor kind id (.transport onid tsid) (.freesatChannels channels)
      (channels.map fun channel => channel.numbers.map fun number =>
        Finding.logicalChannel id channel.serviceId number.region number.number channel.freesatId).flatten
  | elsewhere (loop : NetworkLoop) (descriptor : Descriptor)
    (other : descriptor.subject ≠ loop.subject) : StandsFor kind id loop descriptor []

def RawNetworkTable.understood (table : DescriptorTable) (content : RawNetworkTable) :
    List (NetworkLoop × Descriptor) :=
  (content.descriptors.filterMap table.meaning?).map (.group, ·) ++
    content.transports.flatMap fun transport =>
      (transport.descriptors.filterMap table.meaning?).map (.transport transport.onid transport.tsid, ·)

namespace NetworkSection

theorem standsFor_groupFindings (kind : NetworkKind) (id : UInt16) (descriptor : Descriptor) :
    StandsFor kind id .group descriptor (groupFindings kind id descriptor) := by
  cases descriptor with
  | networkName name => exact .networkName name
  | bouquetName name => exact .bouquetName name
  | freesatRegions regions => exact .regions regions
  | _ => exact .elsewhere _ _ nofun

theorem standsFor_transportFindings (kind : NetworkKind) (id onid tsid : UInt16)
    (descriptor : Descriptor) :
    StandsFor kind id (.transport onid tsid) descriptor (transportFindings id onid tsid descriptor) := by
  cases descriptor with
  | satelliteDelivery delivery => exact .satellite onid tsid delivery
  | terrestrialDelivery delivery => exact .terrestrial onid tsid delivery
  | t2Delivery delivery =>
    have told : transportFindings id onid tsid (.t2Delivery delivery) =
        (delivery.toTuning?.map (Finding.transportTuning id onid tsid)).toList := rfl
    rw [told]
    cases known : delivery.toTuning? with
    | none => exact .withoutFrequency onid tsid delivery known
    | some tuning => exact .secondGeneration onid tsid delivery known
  | serviceList services => exact .services onid tsid services
  | logicalChannels channels => exact .channels onid tsid channels
  | freesatChannels channels => exact .regionalChannels onid tsid channels
  | _ => exact .elsewhere _ _ nofun

def findingsIn (kind : NetworkKind) (id : UInt16) : NetworkLoop → Descriptor → List Finding
  | .group, descriptor => groupFindings kind id descriptor
  | .transport onid tsid, descriptor => transportFindings id onid tsid descriptor

theorem standsFor_findingsIn (kind : NetworkKind) (id : UInt16) (loop : NetworkLoop)
    (descriptor : Descriptor) : StandsFor kind id loop descriptor (findingsIn kind id loop descriptor) := by
  cases loop with
  | group => exact standsFor_groupFindings kind id descriptor
  | transport onid tsid => exact standsFor_transportFindings kind id onid tsid descriptor

theorem findings_parsed (kind : NetworkKind) (id : UInt16) (table : DescriptorTable)
    (content : RawNetworkTable) : (content.parsed table id).findings kind =
      (content.understood table).flatMap fun place => findingsIn kind id place.1 place.2 := by
  unfold RawNetworkTable.understood
  rw [List.flatMap_append, List.flatMap_map, List.flatMap_assoc]
  simp only [List.flatMap_map]
  unfold findings RawNetworkTable.parsed
  rw [List.flatMap_map]
  rfl

theorem transportsFrom_of_at {whole : Section} (table : DescriptorTable) {upper : Fin 16}
    {transports : List RawTransport} {position : Nat}
    (stands : whole.bytes.At position (RawTransport.encodeAll upper transports))
    (inside : position + (RawTransport.encodeAll upper transports).length ≤ whole.payloadEnd)
    (framed : whole.payloadEnd < 4096)
    (short : ∀ transport ∈ transports, RawDescriptor.AllShort transport.descriptors) :
    transportsFrom whole table (position + (RawTransport.encodeAll upper transports).length) position =
      .ok (transports.map (·.entry table)) := by
  induction transports generalizing position with
  | nil =>
    rw [transportsFrom, if_neg (by simp [RawTransport.encodeAll])]
    rfl
  | cons transport rest ih =>
    have shape : RawTransport.encodeAll upper (transport :: rest) =
        transport.encode upper ++ RawTransport.encodeAll upper rest := rfl
    have length := transport.length_encode upper
    rw [shape, List.length_append] at inside ⊢
    rw [shape] at stands
    obtain ⟨own, later⟩ := Bytes.at_append.mp stands
    obtain ⟨first, own⟩ := Bytes.at_append.mp own
    obtain ⟨second, own⟩ := Bytes.at_append.mp own
    have tsid : whole.bytes.word16 position = .ok transport.tsid := first.word16
    have onid : whole.bytes.word16 (position + 2) = .ok transport.onid := second.word16
    have loop : whole.descriptorsAt (position + 4) =
        .ok (RawDescriptor.encodeAll transport.descriptors) :=
      Section.descriptorsAt_of_at own (by omega) (by omega)
    -- the next transport begins where this one ends, before the same limit
    have following : position + 6 + (RawDescriptor.encodeAll transport.descriptors).length =
        position + (transport.encode upper).length := by omega
    have remaining := ih later (by omega) fun other member =>
      short other (List.mem_cons_of_mem transport member)
    rw [transportsFrom, if_pos (by omega), tsid, onid, loop]
    simp only [bind, Except.bind]
    rw [following, ← Nat.add_assoc, remaining,
      table.readLoop_encodeAll (short transport List.mem_cons_self)]
    rfl

theorem parse_of_at {whole : Section} (table : DescriptorTable) {upper : Fin 16}
    {content : RawNetworkTable} (stands : whole.bytes.At Section.headerLength (content.encode upper))
    (ends : whole.payloadEnd = Section.headerLength + (content.encode upper).length)
    (framed : whole.payloadEnd < 4096) (short : content.AllShort) :
    parse whole table = .ok (content.parsed table whole.header.sectionId) := by
  have total : (content.encode upper).length =
      2 + (RawDescriptor.encodeAll content.descriptors).length +
        (2 + (RawTransport.encodeAll upper content.transports).length) := by
    simp only [RawNetworkTable.encode, List.length_append, Bytes.length_ofWord,
      RawDescriptor.length_encodeLoop]
  obtain ⟨own, later⟩ := Bytes.at_append.mp stands
  rw [RawDescriptor.length_encodeLoop, ← Nat.add_assoc] at later
  obtain ⟨count, later⟩ := Bytes.at_append.mp later
  rw [Bytes.length_ofWord] at later
  have loop : whole.descriptorsAt Section.headerLength =
      .ok (RawDescriptor.encodeAll content.descriptors) :=
    Section.descriptorsAt_of_at own (by omega) (by omega)
  have transports := transportsFrom_of_at table later (by omega) framed short.2
  unfold parse
  rw [loop]
  simp only [bind, Except.bind]
  rw [count.word12 (by omega)]
  simp only
  rw [Nat.min_eq_left (by omega), transports, table.readLoop_encodeAll short.1]
  rfl

end NetworkSection

namespace NetworkTableReader

theorem process_of_parsed {reader : NetworkTableReader} {whole : Section} {parsed : NetworkSection}
    (read : NetworkSection.parse whole reader.table = .ok parsed) :
    reader.process whole =
      let tracked := reader.tracker.track whole.header
      .ok ({ reader with tracker := tracked.1 }, tracked.2,
        if tracked.2.isFresh then parsed.findings reader.kind else []) := by
  unfold process
  rw [read]
  rfl

/-- A section of a network or bouquet table is read back as it was written: the identifier, the transports in
order, and in each loop the descriptors that the table of readers understands. If it applies now, a reader that
has heard nothing tells, for each of these descriptors in the order in which they are written, what it stands
for, and nothing else. -/
theorem reads_written_network (kind : NetworkKind) (table : DescriptorTable) (upper : Fin 16)
    (header : SectionHeader) (content : RawNetworkTable) (checksum trailing : Bytes)
    (version : header.version < 32) (numbers : header.number ≤ header.lastNumber)
    (short : content.AllShort) (fits : (content.encode upper).length + 9 < 4096)
    (check : checksum.length = 4) :
    ∃ whole : Section,
      Section.parse (Section.encode upper header (content.encode upper) checksum ++ trailing) =
          .ok whole ∧
        NetworkSection.parse whole table = .ok {
          id := header.sectionId
          descriptors := content.descriptors.filterMap table.meaning?
          transports := content.transports.map fun transport => {
            tsid := transport.tsid
            onid := transport.onid
            descriptors := transport.descriptors.filterMap table.meaning? } } ∧
        (header.isCurrent = true → ∃ next arrival parts,
          (new kind table).process whole = .ok (next, arrival, parts.flatten) ∧
            List.Forall₂ (fun place part => StandsFor kind header.sectionId place.1 place.2 part)
              (content.understood table) parts) := by
  have ends : (Section.written upper header (content.encode upper) checksum).payloadEnd =
      8 + (content.encode upper).length := Section.payloadEnd_written check
  have parsed : NetworkSection.parse (Section.written upper header (content.encode upper) checksum) table =
      .ok (content.parsed table header.sectionId) :=
    NetworkSection.parse_of_at table Section.at_payload ends (by omega) short
  refine ⟨_, Section.parse_encode trailing fits version check, parsed, fun current => ?_⟩
  have news : ((new kind table).tracker.track
      (Section.written upper header (content.encode upper) checksum).header).2.isFresh = true :=
    TableTracker.isFresh_track_empty current numbers
  have processed := @process_of_parsed (new kind table) _ _ parsed
  simp only at processed
  rw [if_pos news, NetworkSection.findings_parsed, List.flatMap_def] at processed
  refine ⟨_, _, _, processed, ?_⟩
  apply List.forall₂_map_right_iff.mpr
  apply List.forall₂_same.mpr
  intro place _
  exact NetworkSection.standsFor_findingsIn kind header.sectionId place.1 place.2

end NetworkTableReader

/-! One multiplex at 578 MHz with two services, between descriptors that say nothing. -/

namespace AnnouncedMultiplex

open scoped HanDecoders

def header : SectionHeader where
  tableId := 0x40
  length := 0
  sectionId := 0x1001
  version := 0
  isCurrent := true
  number := 0
  lastNumber := 0

def content : RawNetworkTable where
  descriptors := [⟨0x99, [0x01]⟩, ⟨0x40, [0x42, 0x42, 0x43]⟩]
  transports := [{
    tsid := 0x1004
    onid := 0x233A
    descriptors := [
      ⟨0x5A, [0x03, 0x71, 0xF5, 0x40, 0x1F, 0x81, 0x03, 0xFF, 0xFF, 0xFF, 0xFF]⟩,
      ⟨0x41, [0x10]⟩,
      ⟨0x41, [0x10, 0x4B, 0x01, 0x10, 0x4C, 0x02]⟩] }]

def delivery : TerrestrialDelivery where
  frequency := 578000000
  bandwidth := 8000000
  modulation := .qam64
  hierarchy := .none
  codeRateHp := .fec2_3
  codeRateLp := .fec1_2
  guardInterval := .gi1_32
  transmissionMode := .mode8K

theorem reads_multiplex :
    (header.version < 32 ∧ header.number ≤ header.lastNumber) ∧
      content.AllShort ∧ (content.encode 15).length + 9 < 4096 ∧
      content.understood .standard = [(.group, .networkName "BBC"),
        (.transport 0x233A 0x1004, .terrestrialDelivery delivery),
        (.transport 0x233A 0x1004, .serviceList [⟨4171, 1⟩, ⟨4172, 2⟩])] ∧
      ∃ whole, Section.parse (Section.encode 15 header (content.encode 15) [0, 0, 0, 0] ++ [0xFF]) =
          .ok whole ∧
        ∃ next arrival parts,
          (NetworkTableReader.new .network .standard).process whole = .ok (next, arrival, parts.flatten) ∧
            List.Forall₂ (fun place part => StandsFor .network 0x1001 place.1 place.2 part)
              (content.understood .standard) parts := by
  have short : content.AllShort := by decide
  have fits : (content.encode 15).length + 9 < 4096 := by decide
  have understood : content.understood .standard = [(.group, .networkName "BBC"),
      (.transport 0x233A 0x1004, .terrestrialDelivery delivery),
      (.transport 0x233A 0x1004, .serviceList [⟨4171, 1⟩, ⟨4172, 2⟩])] := by
    decide +kernel
  obtain ⟨whole, framed, -, told⟩ :=
    NetworkTableReader.reads_written_network .network .standard 15 header content
    [0, 0, 0, 0] [0xFF] (by decide) (by decide) short fits rfl
  exact ⟨by decide, short, fits, understood, whole, framed, told rfl⟩

end AnnouncedMultiplex

end DvbScan
