import DvbScan.Proofs.SectionContent
import DvbScan.Proofs.ServiceFreshness

/-!
# Check sums of service sections

The services of a section do not depend on its check sum, and neither does what a reader remembers of it. The
network of origin is read before the payload is looked at. A section whose payload has no room for it is not
refused: its check sum is taken for the network, and a reader tells of that network if the section is a new one
of the transport that is being received.
-/

namespace DvbScan

variable {first second : Section}

/-- The payload has room for the network of origin. -/
def Section.HasOrigin (whole : Section) : Prop := headerLength + 2 ≤ whole.payloadEnd

instance (whole : Section) : Decidable whole.HasOrigin :=
  inferInstanceAs (Decidable (Section.headerLength + 2 ≤ whole.payloadEnd))

theorem Section.IsFramed.word16_origin (framed : first.IsFramed) :
    ∃ onid, first.bytes.word16 headerLength = .ok onid := by
  have long : 12 ≤ first.bytes.length := framed.long
  have inside : 8 + 2 ≤ first.bytes.length := by omega
  refine ⟨UInt16.ofNat (Bytes.bigEndian ((first.bytes.drop 8).take 2)), ?_⟩
  change ((first.bytes.field 8 2).map Bytes.bigEndian).map UInt16.ofNat = _
  rw [Bytes.field_of_inside inside]
  rfl

open Section (SameContent)

namespace ServiceSection

theorem servicesFrom_congr (same : SameContent first second) (table : DescriptorTable)
    (position : Nat) : servicesFrom first table position = servicesFrom second table position := by
  -- on the bytes that are left of the payload
  induction rest : first.payloadEnd - position using Nat.strong_induction_on generalizing position with
  | h left ih =>
    by_cases room : position + 5 ≤ first.payloadEnd
    · have room' : position + 5 ≤ second.payloadEnd := same.payloadEnd ▸ room
      rw [servicesFrom, servicesFrom, if_pos room, if_pos room', same.word16 (by omega),
        same.word8 (by omega), same.word12 (by omega)]
      refine congrArg _ (funext fun serviceId => congrArg _ (funext fun flags =>
        congrArg _ (funext fun length => ?_)))
      by_cases inside : position + 5 + length ≤ first.payloadEnd
      · rw [same.field inside, ih _ (by omega) (position + 5 + length) rfl, same.payloadEnd]
      · -- the loop is refused, whether or not the check sum is long enough for it
        have beyond : second.payloadEnd < position + 5 + length := by
          rw [← same.payloadEnd]
          omega
        simp only [if_pos (Nat.lt_of_not_le inside), if_pos beyond]
        by_cases whole : position + 5 + length ≤ first.bytes.length
        · rw [Bytes.field_of_inside whole, Bytes.field_of_inside (same.length ▸ whole),
            same.payloadEnd]
          rfl
        · have short : first.bytes.length < position + 5 + length := Nat.lt_of_not_le whole
          rw [Bytes.field_of_beyond short, Bytes.field_of_beyond (same.length ▸ short), same.length]
          rfl
    · rw [servicesFrom, servicesFrom, if_neg room, if_neg (same.payloadEnd ▸ room)]

/-- Nothing but the network of origin can depend on the check sum. -/
theorem parse_congr (same : SameContent first second) {table : DescriptorTable}
    {parsed : ServiceSection} (read : parse first table = .ok parsed) {onid : UInt16}
    (origin : second.bytes.word16 Section.headerLength = .ok onid) :
    parse second table = .ok { parsed with onid := onid } := by
  unfold parse at read ⊢
  obtain ⟨former, -, read⟩ := bind_eq_ok.mp read
  obtain ⟨services, listed, read⟩ := bind_eq_ok.mp read
  cases read
  rw [origin, ← servicesFrom_congr same, listed, same.header]
  rfl

theorem onid_of_parse {whole : Section} {table : DescriptorTable} {parsed : ServiceSection}
    (read : parse whole table = .ok parsed) :
    whole.bytes.word16 Section.headerLength = .ok parsed.onid := by
  unfold parse at read
  obtain ⟨onid, origin, read⟩ := bind_eq_ok.mp read
  obtain ⟨services, -, read⟩ := bind_eq_ok.mp read
  cases read
  exact origin

/-- A payload without room for a network of origin has no services, and is accepted. -/
theorem parse_of_no_origin {whole : Section} (framed : whole.IsFramed) (bare : ¬whole.HasOrigin)
    (table : DescriptorTable) : ∃ onid, whole.bytes.word16 Section.headerLength = .ok onid ∧
      parse whole table = .ok { tsid := whole.header.sectionId, onid, services := [] } := by
  have ends : whole.payloadEnd < 10 := Nat.lt_of_not_le bare
  obtain ⟨onid, origin⟩ := framed.word16_origin
  have nothing : servicesFrom whole table (Section.headerLength + 3) = .ok [] := by
    rw [servicesFrom, if_neg (by simp only [Section.headerLength]; omega)]
  refine ⟨onid, origin, ?_⟩
  unfold parse
  rw [origin, nothing]
  rfl

/-- The sections are read alike exactly if the payload has room for the network of origin, or both check sums
begin with the same network. -/
theorem parse_eq_iff (same : SameContent first second) (table : DescriptorTable) :
    parse first table = parse second table ↔ first.HasOrigin ∨
      first.bytes.word16 Section.headerLength = second.bytes.word16 Section.headerLength := by
  have headers := same.header
  constructor
  · intro equal
    by_cases room : first.HasOrigin
    · exact .inl room
    · obtain ⟨onid, origin, read⟩ := parse_of_no_origin same.former room table
      rw [equal] at read
      exact .inr (origin.trans (onid_of_parse read).symm)
  · intro settled
    have origin : first.bytes.word16 Section.headerLength =
        second.bytes.word16 Section.headerLength := by
      rcases settled with room | origin
      · exact same.word16 room
      · exact origin
    unfold parse
    rw [origin, servicesFrom_congr same, headers]

theorem findings_eq_iff {whole : Section} {table : DescriptorTable} {parsed : ServiceSection}
    (framed : whole.IsFramed) (read : parse whole table = .ok parsed) (bare : ¬whole.HasOrigin)
    (onid : UInt16) (isActual : Bool) :
    parsed.findings isActual = { parsed with onid := onid }.findings isActual ↔
      parsed.onid = onid ∨ isActual = false := by
  obtain ⟨former, -, empty⟩ := parse_of_no_origin framed bare table
  rw [read] at empty
  cases empty
  cases isActual with
  | false => simp [findings]
  | true => simp [findings]

end ServiceSection

namespace ServiceTableReader

theorem isActual?_iff {tableId : UInt8} {isActual : Bool} (known : isActual? tableId = some isActual) :
    isActual = true ↔ tableId = 0x42 := by
  unfold isActual? at known
  split at known
  next actual =>
    cases known
    simp [actual]
  next other =>
    split at known
    next =>
      cases known
      simp [other]
    next => cases known

theorem process_congr (same : SameContent first second) (reader : ServiceTableReader) :
    (∃ error, reader.process first = .error error ∧ reader.process second = .error error) ∨
      ∃ next parsed onid isActual, isActual? first.header.tableId = some isActual ∧
        ServiceSection.parse first reader.table = .ok parsed ∧
        second.bytes.word16 Section.headerLength = .ok onid ∧
        let arrival := ((reader.trackerOf isActual).track first.header).2
        reader.process first =
            .ok (next, arrival, if arrival.isFresh then parsed.findings isActual else []) ∧
          reader.process second = .ok (next, arrival,
            if arrival.isFresh then { parsed with onid := onid }.findings isActual else []) := by
  have headers := same.header
  obtain ⟨onid, origin⟩ := same.latter.word16_origin
  cases kind : isActual? first.header.tableId with
  | none =>
    have kind' : isActual? second.header.tableId = none := headers ▸ kind
    refine .inl ⟨.unexpectedTable first.header.tableId, ?_, ?_⟩
    · unfold process
      rw [kind]
    · unfold process
      rw [kind', headers]
  | some isActual =>
    have kind' : isActual? second.header.tableId = some isActual := headers ▸ kind
    cases read : ServiceSection.parse first reader.table with
    | error error =>
      -- the network of origin can always be read, so that the services are at fault, and they are the same
      have room : first.HasOrigin := by
        by_contra bare
        obtain ⟨onid, -, accepted⟩ := ServiceSection.parse_of_no_origin same.former bare reader.table
        rw [read] at accepted
        cases accepted
      have read' := ((ServiceSection.parse_eq_iff same reader.table).mpr (.inl room)).symm
      rw [read] at read'
      exact .inl ⟨error, process_of_malformed kind read, process_of_malformed kind' read'⟩
    | ok parsed =>
      have read' := ServiceSection.parse_congr same read origin
      refine .inr ⟨_, parsed, onid, isActual, rfl, rfl, origin, process_of_parsed kind read, ?_⟩
      rw [process_of_parsed kind' read', headers]

theorem hear_congr (same : SameContent first second) (reader : ServiceTableReader) :
    reader.hear first = reader.hear second := by
  unfold hear
  rcases process_congr same reader with
    ⟨error, refused, refused'⟩ | ⟨next, parsed, onid, isActual, -, -, -, taken, taken'⟩
  · rw [refused, refused']
  · rw [taken, taken']

/-- The answer to a section depends on its check sum exactly if the check sum is read as the network of origin,
and the section is a new one of the transport that is being received. -/
theorem process_eq_iff (same : SameContent first second) (reader : ServiceTableReader) :
    reader.process first = reader.process second ↔ first.HasOrigin ∨
      first.bytes.word16 Section.headerLength = second.bytes.word16 Section.headerLength ∨
      first.header.tableId ≠ 0x42 ∨ (reader.actual.track first.header).2.isFresh = false := by
  rcases process_congr same reader with
    ⟨error, refused, refused'⟩ | ⟨next, parsed, onid, isActual, kind, read, origin, taken, taken'⟩
  · refine iff_of_true (refused.trans refused'.symm) ?_
    by_contra unsettled
    simp only [not_or, not_not] at unsettled
    obtain ⟨bare, -, actual, -⟩ := unsettled
    obtain ⟨onid, -, read⟩ := ServiceSection.parse_of_no_origin same.former bare reader.table
    have kind : isActual? first.header.tableId = some true := actual ▸ rfl
    rw [process_of_parsed kind read] at refused
    cases refused
  · have former' := ServiceSection.onid_of_parse read
    rw [taken, taken', former', origin]
    rw [Except.ok.injEq, Prod.mk.injEq, Prod.mk.injEq]
    simp only [true_and]
    by_cases room : first.HasOrigin
    · have equal := (former'.symm.trans (same.word16 room)).trans origin
      cases equal
      simp [room]
    · rw [Except.ok.injEq, Ne, ← isActual?_iff kind]
      cases isActual with
      | false =>
        have alike := (ServiceSection.findings_eq_iff same.former read room onid false).mpr (.inr rfl)
        rw [alike]
        simp
      | true =>
        change _ ↔ _ ∨ _ ∨ _ ∨ ((reader.trackerOf true).track first.header).2.isFresh = false
        cases fresh : ((reader.trackerOf true).track first.header).2.isFresh with
        | false => simp
        | true => simp [ServiceSection.findings_eq_iff same.former read room, room]

theorem foldl_hear_congr {firsts seconds : List Section}
    (same : List.Forall₂ Section.EqualUpToChecksum firsts seconds) (reader : ServiceTableReader) :
    firsts.foldl hear reader = seconds.foldl hear reader := by
  induction same generalizing reader with
  | nil => rfl
  | cons pair rest ih => rw [List.foldl_cons, List.foldl_cons, hear_congr pair.sameContent, ih]

/-- Two byte strings that are read as sections with one content have one header. They are read as the same
services, for the same network of origin exactly if the payload has room for it or the check sums begin with the
same two bytes; without room, the check sum is taken for the network, of no services. After runs that differ in
check sums only, a reader remembers the same, and answers both sections the same exactly if they are the same
services of one network, or if no news of the transport that is being received is in them. -/
theorem sections_of_one_content {former latter : Bytes} {first second : Section}
    (framed : Section.parse former = .ok first) (framed' : Section.parse latter = .ok second)
    (content : first.content = second.content) :
    first.header = second.header ∧
      (∀ table,
        (ServiceSection.parse first table = ServiceSection.parse second table ↔
          Section.headerLength + 2 ≤ first.payloadEnd ∨
            first.bytes.word16 Section.headerLength = second.bytes.word16 Section.headerLength) ∧
        (first.payloadEnd < Section.headerLength + 2 →
          ∃ onid, first.bytes.word16 Section.headerLength = .ok onid ∧
            ServiceSection.parse first table =
              .ok { tsid := first.header.sectionId, onid, services := [] })) ∧
      ∀ (reader : ServiceTableReader) (firsts seconds : List Section),
        List.Forall₂ Section.EqualUpToChecksum firsts seconds →
        firsts.foldl hear reader = seconds.foldl hear reader ∧
        ((firsts.foldl hear reader).process first = (seconds.foldl hear reader).process second ↔
          Section.headerLength + 2 ≤ first.payloadEnd ∨
            first.bytes.word16 Section.headerLength = second.bytes.word16 Section.headerLength ∨
            first.header.tableId ≠ 0x42 ∨
            ((firsts.foldl hear reader).actual.track first.header).2.isFresh = false) := by
  have same : SameContent first second :=
    ⟨Section.isFramed_of_parse framed, Section.isFramed_of_parse framed', content⟩
  refine ⟨same.header, fun table => ⟨?_, fun bare => ?_⟩, fun reader firsts seconds past => ?_⟩
  · exact ServiceSection.parse_eq_iff same table
  · exact ServiceSection.parse_of_no_origin same.former (Nat.not_le_of_lt bare) table
  · have alike := foldl_hear_congr past reader
    rw [← alike]
    exact ⟨rfl, process_eq_iff same _⟩

end ServiceTableReader

/-! A section without a payload, with two check sums. -/

namespace BareSection

open scoped HanDecoders

def header : SectionHeader where
  tableId := 0x42
  length := 9
  sectionId := 0x1004
  version := 0
  isCurrent := true
  number := 0
  lastNumber := 0

def one : Section := ⟨header, [0x42, 0xF0, 0x09, 0x10, 0x04, 0xC1, 0x00, 0x00, 0xDE, 0xAD, 0xBE, 0xEF]⟩
def another : Section := ⟨header, [0x42, 0xF0, 0x09, 0x10, 0x04, 0xC1, 0x00, 0x00, 0x12, 0x34, 0x56, 0x78]⟩

theorem framed_one : Section.parse one.bytes = .ok one := by decide
theorem framed_another : Section.parse another.bytes = .ok another := by decide

theorem sections_of_bare_header :
    Section.parse one.bytes = .ok one ∧ Section.parse another.bytes = .ok another ∧
      one.content = another.content ∧
      (ServiceTableReader.new .standard true true).process one ≠
        (ServiceTableReader.new .standard true true).process another := by
  have content : one.content = another.content := by decide
  obtain ⟨-, -, answers⟩ :=
    ServiceTableReader.sections_of_one_content framed_one framed_another content
  refine ⟨framed_one, framed_another, content, fun equal => ?_⟩
  have settled := (answers _ [] [] .nil).2.mp equal
  revert settled
  decide

/-- Two sections that differ in their check sums only are read, and not as the same. -/
theorem checksum_read_as_network :
    ¬∀ (former latter : Bytes) (first second : Section) (table : DescriptorTable),
      Section.parse former = .ok first → Section.parse latter = .ok second →
      first.content = second.content →
      (∃ reason reason', ServiceSection.parse first table = .error reason ∧
        ServiceSection.parse second table = .error reason') ∨
      ServiceSection.parse first table = ServiceSection.parse second table := by
  intro claimed
  obtain ⟨onid, origin, read⟩ := ServiceSection.parse_of_no_origin
    (Section.isFramed_of_parse framed_one) (by decide) .standard
  rcases claimed one.bytes another.bytes one another .standard framed_one framed_another (by decide) with
    ⟨reason, -, refused, -⟩ | equal
  · rw [read] at refused
    cases refused
  · rw [equal] at read
    have networks := origin.trans (ServiceSection.onid_of_parse read).symm
    exact absurd networks (by decide)

end BareSection

end DvbScan
