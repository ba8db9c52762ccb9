import DvbScan.Proofs.CheckedSections
import DvbScan.Proofs.FieldPlaces

/-!
# How sections are framed

A section is found in the front of some bytes by its length, twelve bits behind the table identifier. It is refused
if it has no room for a header and a check sum, or if there are fewer bytes than it announces; otherwise it is as many
bytes as that, whatever follows them, and its header is in the first eight. A loop of descriptors is found by twelve
bits too, at any offset, and has to end before the check sum.
-/

namespace DvbScan

theorem bits_eq (byte : UInt8) (low count : Nat) :
    bits byte low count = byte.toNat / (1 <<< low) % (1 <<< count) := by
  unfold bits
  rw [Nat.shiftRight_eq_div_pow, ← Nat.one_shiftLeft]

namespace Bytes

/-- The byte at the offset; zero beyond the end. -/
def byteAt (bytes : Bytes) (offset : Nat) : UInt8 := bytes[offset]?.getD 0

def wordAt (bytes : Bytes) (offset : Nat) : Nat :=
  256 * (bytes.byteAt offset).toNat + (bytes.byteAt (offset + 1)).toNat

def lengthAt (bytes : Bytes) (offset : Nat) : Nat := bytes.wordAt offset % 4096

variable {bytes : Bytes} {offset count : Nat}

theorem byteAt_append (inside : offset < bytes.length) (trailing : Bytes) :
    byteAt (bytes ++ trailing) offset = bytes.byteAt offset := by
  unfold byteAt
  rw [List.getElem?_append_left inside]

theorem byteAt_take (inside : offset < count) : byteAt (bytes.take count) offset = bytes.byteAt offset := by
  unfold byteAt
  rw [List.getElem?_take_of_lt inside]

theorem wordAt_append (inside : offset + 1 < bytes.length) (trailing : Bytes) :
    wordAt (bytes ++ trailing) offset = bytes.wordAt offset := by
  unfold wordAt
  rw [byteAt_append (Nat.lt_of_succ_lt inside), byteAt_append inside]

theorem wordAt_take (inside : offset + 1 < count) : wordAt (bytes.take count) offset = bytes.wordAt offset := by
  unfold wordAt
  rw [byteAt_take (Nat.lt_of_succ_lt inside), byteAt_take inside]

theorem lengthAt_append (inside : offset + 1 < bytes.length) (trailing : Bytes) :
    lengthAt (bytes ++ trailing) offset = bytes.lengthAt offset :=
  congrArg (· % 4096) (wordAt_append inside trailing)

theorem drop_eq_byteAt_cons (inside : offset < bytes.length) :
    bytes.drop offset = bytes.byteAt offset :: bytes.drop (offset + 1) := by
  unfold byteAt
  rw [List.getElem?_eq_getElem inside]
  exact List.drop_eq_getElem_cons inside

theorem word8_of_inside (inside : offset + 1 ≤ bytes.length) :
    bytes.word8 offset = .ok (bytes.byteAt offset) := by
  unfold word8 number
  rw [field_of_inside inside, drop_eq_byteAt_cons inside]
  simp [Except.map, bigEndian]

theorem number_two_of_inside (inside : offset + 2 ≤ bytes.length) :
    bytes.number offset 2 = .ok (bytes.wordAt offset) := by
  unfold number
  rw [field_of_inside inside, drop_eq_byteAt_cons (by omega), drop_eq_byteAt_cons (by omega)]
  simp [Except.map, bigEndian, wordAt]

theorem word16_of_inside (inside : offset + 2 ≤ bytes.length) :
    bytes.word16 offset = .ok (UInt16.ofNat (bytes.wordAt offset)) := by
  unfold word16
  rw [number_two_of_inside inside]
  rfl

theorem word8_take (inside : offset + 1 ≤ count) (enough : count ≤ bytes.length) :
    word8 (bytes.take count) offset = .ok (bytes.byteAt offset) := by
  rw [word8_of_inside (by rw [List.length_take_of_le enough]; exact inside), byteAt_take inside]

theorem word16_take (inside : offset + 2 ≤ count) (enough : count ≤ bytes.length) :
    word16 (bytes.take count) offset = .ok (UInt16.ofNat (bytes.wordAt offset)) := by
  rw [word16_of_inside (by rw [List.length_take_of_le enough]; exact inside), wordAt_take inside]

theorem word12_of_inside (inside : offset + 2 ≤ bytes.length) :
    bytes.word12 offset = .ok (bytes.lengthAt offset) := by
  unfold word12
  rw [number_two_of_inside inside]
  rfl

theorem word12_of_beyond (beyond : bytes.length < offset + 2) :
    bytes.word12 offset = .error (.truncated offset 2 bytes.length) := by
  unfold word12 number
  rw [field_of_beyond beyond]
  rfl

end Bytes

def SectionHeader.inFrontOf (bytes : Bytes) : SectionHeader where
  tableId := bytes.byteAt 0
  length := bytes.lengthAt 1
  sectionId := UInt16.ofNat (bytes.wordAt 3)
  version := UInt8.ofNat ((bytes.byteAt 5).toNat / 2 % 32)
  isCurrent := (bytes.byteAt 5).toNat % 2 == 1
  number := bytes.byteAt 6
  lastNumber := bytes.byteAt 7

theorem SectionHeader.inFrontOf_append {bytes : Bytes} (long : 8 ≤ bytes.length) (trailing : Bytes) :
    inFrontOf (bytes ++ trailing) = inFrontOf bytes := by
  unfold inFrontOf
  rw [Bytes.byteAt_append (by omega), Bytes.lengthAt_append (by omega), Bytes.wordAt_append (by omega),
    Bytes.byteAt_append (by omega), Bytes.byteAt_append (by omega), Bytes.byteAt_append (by omega)]

namespace Section

variable {data : Bytes} {whole : Section} {offset : Nat}

/-- There is a length, it leaves room for a header and a check sum, and there are as many bytes. -/
def Announced (data : Bytes) : Prop :=
  3 ≤ data.length ∧ 9 ≤ data.lengthAt 1 ∧ 3 + data.lengthAt 1 ≤ data.length

def inFrontOf (data : Bytes) : Section where
  header := .inFrontOf data
  bytes := data.take (3 + data.lengthAt 1)

theorem parse_of_announced (announced : Announced data) : parse data = .ok (inFrontOf data) := by
  obtain ⟨readable, room, complete⟩ := announced
  unfold parse
  rw [Bytes.word12_of_inside readable]
  simp only [bind, Except.bind]
  rw [if_neg (by simp only [headerLength, checksumLength]; omega), if_neg (Nat.not_lt_of_le complete),
    Bytes.word8_take (by omega) complete, Bytes.word16_take (by omega) complete,
    Bytes.word8_take (by omega) complete, Bytes.word8_take (by omega) complete,
    Bytes.word8_take (by omega) complete]
  simp only [flag, bits_eq, Nat.shiftLeft_zero, Nat.div_one]
  rfl

theorem announced_of_parse (parsed : parse data = .ok whole) : Announced data := by
  unfold parse at parsed
  obtain ⟨length, read, parsed⟩ := bind_eq_ok.mp parsed
  have readable := (Bytes.word12_spec read).1
  rw [Bytes.word12_of_inside readable] at read
  cases read
  split at parsed
  next => cases parsed
  next room =>
    split at parsed
    next => cases parsed
    next complete =>
      simp only [headerLength, checksumLength] at room
      exact ⟨readable, by omega, by omega⟩

theorem parse_eq_ok_iff : parse data = .ok whole ↔ Announced data ∧ whole = inFrontOf data := by
  constructor
  · intro parsed
    have announced := announced_of_parse parsed
    rw [parse_of_announced announced] at parsed
    cases parsed
    exact ⟨announced, rfl⟩
  · rintro ⟨announced, rfl⟩
    exact parse_of_announced announced

/-- What follows a section does not matter. -/
theorem parse_append (parsed : parse data = .ok whole) (trailing : Bytes) :
    parse (data ++ trailing) = .ok whole := by
  obtain ⟨⟨readable, room, complete⟩, rfl⟩ := parse_eq_ok_iff.mp parsed
  have length : Bytes.lengthAt (data ++ trailing) 1 = data.lengthAt 1 :=
    Bytes.lengthAt_append (by omega) trailing
  have announced : Announced (data ++ trailing) := by
    unfold Announced
    rw [length, List.length_append]
    omega
  rw [parse_of_announced announced, inFrontOf, inFrontOf, length, List.take_append_of_le_length complete,
    SectionHeader.inFrontOf_append (by omega)]

theorem descriptorsAt_eq_ok_iff {loop : Bytes} : whole.descriptorsAt offset = .ok loop ↔
    offset + 2 + whole.bytes.lengthAt offset ≤ whole.payloadEnd ∧
      loop = (whole.bytes.drop (offset + 2)).take (whole.bytes.lengthAt offset) := by
  have within : whole.payloadEnd ≤ whole.bytes.length := Nat.sub_le _ _
  unfold descriptorsAt
  by_cases readable : offset + 2 ≤ whole.bytes.length
  · rw [Bytes.word12_of_inside readable]
    change (if _ then _ else _) = _ ↔ _
    split
    next inside => simp [inside, eq_comm]
    next beyond => simp [beyond]
  · rw [Bytes.word12_of_beyond (by omega)]
    constructor
    · intro read
      cases read
    · intro ⟨inside, _⟩
      omega

/-- A loop is as long as it announces, and is a part of the content, so that no byte of the check sum is in it. -/
theorem at_content_of_descriptorsAt {loop : Bytes} (framed : whole.IsFramed)
    (read : whole.descriptorsAt offset = .ok loop) :
    loop.length = whole.bytes.lengthAt offset ∧ whole.content.At (offset + 2) loop := by
  obtain ⟨inside, shape⟩ := descriptorsAt_eq_ok_iff.mp read
  have size := framed.length_content
  have part : loop = (whole.content.drop (offset + 2)).take (whole.bytes.lengthAt offset) := by
    unfold content
    rw [List.drop_take, List.take_take, Nat.min_eq_left (by omega), shape]
  have found : whole.content.field (offset + 2) (whole.bytes.lengthAt offset) = .ok loop := by
    rw [Bytes.field_of_inside (by omega), part]
  exact Bytes.field_eq_ok_iff.mp found

/-- Exactly the bytes that announce a length from nine on, and have as many bytes behind it, are a section. It is these
bytes, with the header in front of them and at least eight bytes before the check sum, and it is the same whatever
follows. At exactly the offsets where a length and as many bytes end before the check sum there is a loop, and it is a
part of what comes before the check sum. A machine reads sections and loops in the same way, at every offset that it
has a word for. -/
theorem framed_exactly (data : Bytes) :
    ((∃ whole, parse data = .ok whole) ↔
      3 ≤ data.length ∧ 9 ≤ data.lengthAt 1 ∧ 3 + data.lengthAt 1 ≤ data.length) ∧
    (data.Fits → (Checked.parseSection data).Gives (parse data)) ∧
    ∀ whole, parse data = .ok whole →
      whole.bytes = data.take (3 + data.lengthAt 1) ∧ whole.header = .inFrontOf data ∧
      whole.payloadEnd + checksumLength = whole.bytes.length ∧ 8 ≤ whole.payloadEnd ∧
      (∀ trailing, parse (data ++ trailing) = .ok whole) ∧
      (∀ offset,
        ((∃ loop, whole.descriptorsAt offset = .ok loop) ↔
          offset + 2 + whole.bytes.lengthAt offset ≤ whole.payloadEnd) ∧
        ∀ loop, whole.descriptorsAt offset = .ok loop →
          loop.length = whole.bytes.lengthAt offset ∧
            Bytes.At (whole.bytes.take whole.payloadEnd) (offset + 2) loop) ∧
      ∀ offset : UInt64, (Checked.descriptorsAt whole offset.toNat).Gives (whole.descriptorsAt offset.toNat) := by
  refine ⟨?_, fun fits => Machine.gives_of (Checked.parseSection_eq fits), fun whole parsed => ?_⟩
  · constructor
    · rintro ⟨whole, parsed⟩
      exact announced_of_parse parsed
    · exact fun announced => ⟨_, parse_of_announced announced⟩
  · have framed := isFramed_of_parse parsed
    obtain ⟨-, shape⟩ := parse_eq_ok_iff.mp parsed
    refine ⟨by rw [shape]; rfl, by rw [shape]; rfl, framed.length_eq.symm, framed.le_payloadEnd,
      parse_append parsed, fun offset => ⟨?_, fun loop => at_content_of_descriptorsAt framed⟩,
      fun offset => Machine.gives_of (Checked.descriptorsAt_eq framed _)⟩
    constructor
    · rintro ⟨loop, read⟩
      exact (descriptorsAt_eq_ok_iff.mp read).1
    · exact fun inside => ⟨_, descriptorsAt_eq_ok_iff.mpr ⟨inside, rfl⟩⟩

end Section

/-! A network section with one empty descriptor, and two bytes that do not belong to it. -/

namespace EmptyDescriptor

def bytes : Bytes :=
  [0x40, 0xF0, 0x0D, 0x30, 0x01, 0xC7, 0x02, 0x03, 0xF0, 0x02, 0x40, 0x00, 0xDE, 0xAD, 0xBE, 0xEF]

def header : SectionHeader := ⟨0x40, 13, 0x3001, 3, true, 2, 3⟩

/-- The descriptor is a loop, and so is the nothing that it announces; a length that reaches into the check sum is
none. -/
theorem framed_empty_descriptor :
    (bytes ++ [0xFF, 0xFF]).Fits ∧ (Checked.parseSection (bytes ++ [0xFF, 0xFF])).Gives (.ok ⟨header, bytes⟩) ∧
      Section.parse (bytes ++ [0xFF, 0xFF]) = .ok ⟨header, bytes⟩ ∧
      Section.parse (bytes ++ [0xFF, 0xFF] ++ [0x47]) = .ok ⟨header, bytes⟩ ∧
      Section.descriptorsAt ⟨header, bytes⟩ 8 = .ok [0x40, 0x00] ∧
      Bytes.At (bytes.take 12) 10 [0x40, 0x00] ∧
      Section.descriptorsAt ⟨header, bytes⟩ 10 = .ok [] ∧
      ¬∃ loop, Section.descriptorsAt ⟨header, bytes⟩ 11 = .ok loop := by
  have fits : (bytes ++ [0xFF, 0xFF]).Fits := by decide
  have parsed : Section.parse (bytes ++ [0xFF, 0xFF]) = .ok ⟨header, bytes⟩ := by decide
  have named : Section.descriptorsAt ⟨header, bytes⟩ 8 = .ok [0x40, 0x00] := by decide
  obtain ⟨-, machine, framed⟩ := Section.framed_exactly (bytes ++ [0xFF, 0xFF])
  have given := machine fits
  rw [parsed] at given
  obtain ⟨-, -, -, -, trailing, loops, -⟩ := framed _ parsed
  refine ⟨fits, given, parsed, trailing _, named, ((loops 8).2 _ named).2, by decide, ?_⟩
  rw [(loops 11).1]
  decide

end EmptyDescriptor

end DvbScan
