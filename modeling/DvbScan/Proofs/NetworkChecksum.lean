import DvbScan.Proofs.SectionContent
import DvbScan.Si.NetworkTable
import Mathlib.Data.Nat.Init

/-!
# Check sums of network sections

A network or bouquet section is read alike whatever its check sum is. Two lengths may be taken from the check
sum: that of the loop of transports, if the descriptors of the group fill the payload, and then the loop has no
room for a transport at any length; and that of the descriptors of the group, if there is no payload, and then
the section is refused at any length, although the reason names the length.
-/

namespace DvbScan

variable {first second : Section}

namespace Section

variable {whole : Section} {offset : Nat} {loop : Bytes}

/-- Two bytes can be read wherever a payload may end, since a check sum follows. -/
theorem IsFramed.word12_of_le_payloadEnd (framed : whole.IsFramed) (inside : offset ≤ whole.payloadEnd) :
    ∃ length, whole.bytes.word12 offset = .ok length := by
  have total := framed.length_eq
  unfold checksumLength at total
  refine ⟨Bytes.bigEndian ((whole.bytes.drop offset).take 2) % 4096, ?_⟩
  unfold Bytes.word12 Bytes.number
  rw [Bytes.field_of_inside (by omega)]
  rfl

theorem descriptorsAt_of_word12 {length : Nat} (announced : whole.bytes.word12 offset = .ok length) :
    whole.descriptorsAt offset =
      if offset + 2 + length ≤ whole.payloadEnd then
        .ok ((whole.bytes.drop (offset + 2)).take length)
      else .error (.truncated (offset + 2) length whole.payloadEnd) := by
  unfold descriptorsAt
  rw [announced]
  rfl

theorem le_payloadEnd_of_descriptorsAt (read : whole.descriptorsAt offset = .ok loop) :
    offset + 2 + loop.length ≤ whole.payloadEnd := by
  unfold descriptorsAt at read
  obtain ⟨length, -, read⟩ := bind_eq_ok.mp read
  simp only at read
  split at read
  next inside =>
    cases read
    have short : ((whole.bytes.drop (offset + 2)).take length).length ≤ length := List.length_take_le _ _
    omega
  next => cases read

theorem SameContent.descriptorsAt (same : SameContent first second)
    (inside : offset + 2 ≤ first.payloadEnd) :
    first.descriptorsAt offset = second.descriptorsAt offset := by
  have before : offset ≤ first.payloadEnd := Nat.le_of_add_right_le inside
  obtain ⟨length, announced⟩ := same.former.word12_of_le_payloadEnd before
  have announced' : second.bytes.word12 offset = .ok length := (same.word12 inside).symm.trans announced
  rw [descriptorsAt_of_word12 announced, descriptorsAt_of_word12 announced', ← same.payloadEnd]
  by_cases ends : offset + 2 + length ≤ first.payloadEnd
  · have shared := same.field ends
    have within : first.payloadEnd ≤ first.bytes.length := Nat.sub_le _ _
    rw [Bytes.field_of_inside (Nat.le_trans ends within),
      Bytes.field_of_inside (same.length ▸ Nat.le_trans ends within)] at shared
    rw [if_pos ends, if_pos ends, shared]
  · rw [if_neg ends, if_neg ends]

/-- A loop whose length reaches into the check sum is refused. -/
theorem IsFramed.descriptorsAt_of_beyond (framed : whole.IsFramed) (inside : offset ≤ whole.payloadEnd)
    (beyond : whole.payloadEnd < offset + 2) :
    ∃ length, whole.bytes.word12 offset = .ok length ∧
      whole.descriptorsAt offset = .error (.truncated (offset + 2) length whole.payloadEnd) := by
  obtain ⟨length, announced⟩ := framed.word12_of_le_payloadEnd inside
  refine ⟨length, announced, ?_⟩
  rw [descriptorsAt_of_word12 announced, if_neg (by omega)]

end Section

open Section (SameContent)

namespace NetworkSection

theorem transportsFrom_congr (same : SameContent first second) (table : DescriptorTable) {limit : Nat}
    (within : limit ≤ first.payloadEnd) (position : Nat) :
    transportsFrom first table limit position = transportsFrom second table limit position := by
  -- on the bytes that are left of the loop
  induction rest : limit - position using Nat.strong_induction_on generalizing position with
  | h left ih =>
    by_cases room : position + 6 ≤ limit
    · rw [transportsFrom, transportsFrom, if_pos room, if_pos room, same.word16 (by omega),
        same.word16 (by omega), same.descriptorsAt (by omega)]
      refine congrArg _ (funext fun tsid => congrArg _ (funext fun onid =>
        congrArg _ (funext fun loop => ?_)))
      rw [ih _ (by omega) (position + 6 + loop.length) rfl]
    · rw [transportsFrom, transportsFrom, if_neg room, if_neg room]

/-- What follows the descriptors of the group is read alike, even if the length of the loop of transports is
taken from the check sum. -/
theorem transports_congr (same : SameContent first second) (table : DescriptorTable) {position : Nat}
    (inside : position ≤ first.payloadEnd) :
    ∃ length length' transports, first.bytes.word12 position = .ok length ∧
      second.bytes.word12 position = .ok length' ∧
      transportsFrom first table (min (position + 2 + length) first.payloadEnd) (position + 2) =
        transports ∧
      transportsFrom second table (min (position + 2 + length') second.payloadEnd) (position + 2) =
        transports := by
  obtain ⟨length, announced⟩ := same.former.word12_of_le_payloadEnd inside
  obtain ⟨length', announced'⟩ := same.latter.word12_of_le_payloadEnd (same.payloadEnd ▸ inside)
  refine ⟨length, length', _, announced, announced', rfl, ?_⟩
  rw [← same.payloadEnd]
  by_cases room : position + 2 ≤ first.payloadEnd
  · have equal : length = length' := by
      have lengths := announced.symm.trans ((same.word12 room).trans announced')
      exact Except.ok.inj lengths
    rw [← equal]
    exact (transportsFrom_congr same table (Nat.min_le_right _ _) _).symm
  · -- the loop would begin within the check sum, and ends before it
    rw [transportsFrom, transportsFrom, if_neg (by omega), if_neg (by omega)]

theorem parse_eq_bind (whole : Section) (table : DescriptorTable) :
    parse whole table = (whole.descriptorsAt Section.headerLength).bind fun loop =>
      let position := Section.headerLength + 2 + loop.length
      (whole.bytes.word12 position).bind fun length =>
        (transportsFrom whole table (min (position + 2 + length) whole.payloadEnd) (position + 2)).bind
          fun transports => .ok {
            id := whole.header.sectionId, descriptors := table.readLoop loop, transports } := rfl

theorem parse_congr (same : SameContent first second) (table : DescriptorTable)
    (room : Section.headerLength + 2 ≤ first.payloadEnd) : parse first table = parse second table := by
  rw [parse_eq_bind, parse_eq_bind, ← same.descriptorsAt room]
  cases read : first.descriptorsAt Section.headerLength with
  | error error => rfl
  | ok loop =>
    obtain ⟨length, length', transports, announced, announced', former, latter⟩ :=
      transports_congr same table (Section.le_payloadEnd_of_descriptorsAt read)
    simp only [Except.bind]
    rw [announced, announced']
    simp only
    rw [former, latter, same.header]

/-- A section without room for a loop is refused, and the reason names a length from its check sum. -/
theorem parse_of_no_loop {whole : Section} (framed : whole.IsFramed)
    (bare : whole.payloadEnd < Section.headerLength + 2) (table : DescriptorTable) :
    ∃ length, whole.bytes.word12 Section.headerLength = .ok length ∧
      parse whole table = .error (.truncated (Section.headerLength + 2) length whole.payloadEnd) := by
  obtain ⟨length, announced, refused⟩ := framed.descriptorsAt_of_beyond framed.le_payloadEnd bare
  refine ⟨length, announced, ?_⟩
  rw [parse_eq_bind, refused]
  rfl

theorem parse_alike (same : SameContent first second) (table : DescriptorTable) :
    (∃ reason reason', parse first table = .error reason ∧ parse second table = .error reason') ∨
      ∃ group, parse first table = .ok group ∧ parse second table = .ok group := by
  by_cases room : Section.headerLength + 2 ≤ first.payloadEnd
  · have alike := parse_congr same table room
    cases read : parse first table with
    | error reason => exact .inl ⟨reason, reason, rfl, alike ▸ read⟩
    | ok group => exact .inr ⟨group, rfl, alike ▸ read⟩
  · have bare : first.payloadEnd < Section.headerLength + 2 := Nat.lt_of_not_le room
    obtain ⟨length, -, refused⟩ := parse_of_no_loop same.former bare table
    obtain ⟨length', -, refused'⟩ := parse_of_no_loop same.latter (same.payloadEnd ▸ bare) table
    exact .inl ⟨_, _, refused, refused'⟩

/-- Even the reason is the same, unless there is no room for a loop and the check sums begin with different
lengths. -/
theorem parse_eq_iff (same : SameContent first second) (table : DescriptorTable) :
    parse first table = parse second table ↔ Section.headerLength + 2 ≤ first.payloadEnd ∨
      first.bytes.word12 Section.headerLength = second.bytes.word12 Section.headerLength := by
  by_cases room : Section.headerLength + 2 ≤ first.payloadEnd
  · exact iff_of_true (parse_congr same table room) (.inl room)
  · have bare : first.payloadEnd < Section.headerLength + 2 := Nat.lt_of_not_le room
    obtain ⟨length, announced, refused⟩ := parse_of_no_loop same.former bare table
    obtain ⟨length', announced', refused'⟩ :=
      parse_of_no_loop same.latter (same.payloadEnd ▸ bare) table
    rw [refused, refused', announced, announced', ← same.payloadEnd]
    simp [room]

end NetworkSection

namespace NetworkTableReader

theorem process_alike (same : SameContent first second) (reader : NetworkTableReader) :
    (reader.process first).toOption = (reader.process second).toOption := by
  unfold process
  rcases NetworkSection.parse_alike same reader.table with
    ⟨reason, reason', refused, refused'⟩ | ⟨group, read, read'⟩
  · rw [refused, refused']
    rfl
  · rw [read, read', same.header]

/-- Two byte strings that are read as sections with one content are both refused, or read as the same network
or bouquet, by every table of descriptors. They are refused for one reason too, unless there is no room for a
loop of descriptors and the check sums begin with different lengths. No reader remembers or tells anything that
depends on the check sum. -/
theorem groups_of_one_content {former latter : Bytes} {first second : Section}
    (framed : Section.parse former = .ok first) (framed' : Section.parse latter = .ok second)
    (content : first.content = second.content) :
    (∀ table,
      ((∃ reason reason', NetworkSection.parse first table = .error reason ∧
          NetworkSection.parse second table = .error reason') ∨
        ∃ group, NetworkSection.parse first table = .ok group ∧
          NetworkSection.parse second table = .ok group) ∧
      (NetworkSection.parse first table = NetworkSection.parse second table ↔
        Section.headerLength + 2 ≤ first.payloadEnd ∨
          first.bytes.word12 Section.headerLength = second.bytes.word12 Section.headerLength)) ∧
      ∀ reader : NetworkTableReader,
        (reader.process first).toOption = (reader.process second).toOption := by
  have same : SameContent first second :=
    ⟨Section.isFramed_of_parse framed, Section.isFramed_of_parse framed', content⟩
  refine ⟨fun table => ⟨?_, ?_⟩, fun reader => ?_⟩
  · exact NetworkSection.parse_alike same table
  · exact NetworkSection.parse_eq_iff same table
  · exact process_alike same reader

end NetworkTableReader

/-! A bouquet whose name fills the payload, with two check sums. -/

namespace FilledSection

open scoped HanDecoders

def header : SectionHeader where
  tableId := 0x4A
  length := 15
  sectionId := 0x100C
  version := 0
  isCurrent := true
  number := 0
  lastNumber := 0

def payload : Bytes :=
  [0x4A, 0xF0, 0x0F, 0x10, 0x0C, 0xC1, 0x00, 0x00, 0xF0, 0x04, 0x47, 0x02, 0x54, 0x56]

def one : Section := ⟨header, payload ++ [0x00, 0x06, 0x00, 0x00]⟩
def another : Section := ⟨header, payload ++ [0xFF, 0xFF, 0x12, 0x34]⟩

/-- The loop of transports has six bytes by one check sum and 4095 by the other, and is empty. -/
theorem groups_of_filled_payload :
    Section.parse one.bytes = .ok one ∧ Section.parse another.bytes = .ok another ∧
      one.content = another.content ∧
      one.bytes.word12 one.payloadEnd = .ok 6 ∧ another.bytes.word12 another.payloadEnd = .ok 4095 ∧
      NetworkSection.parse one .standard = NetworkSection.parse another .standard ∧
      (NetworkSection.parse one .standard).toOption =
        some { id := 0x100C, descriptors := [.bouquetName "TV"], transports := [] } := by
  have framed : Section.parse one.bytes = .ok one := rfl
  have framed' : Section.parse another.bytes = .ok another := rfl
  have content : one.content = another.content := by decide
  have alike :=
    ((NetworkTableReader.groups_of_one_content framed framed' content).1 .standard).2.mpr
      (.inl (by decide))
  exact ⟨framed, framed', content, rfl, rfl, alike, by decide +kernel⟩

end FilledSection

end DvbScan
