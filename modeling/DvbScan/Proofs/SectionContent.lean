import DvbScan.Proofs.Result
import DvbScan.Si.Section

/-!
# The content of a section

The bytes of a section before its check sum are its content. The header is part of it, and a read that ends
within it does not depend on the check sum.
-/

namespace DvbScan

namespace Bytes

variable {first second : Bytes} {limit offset length : Nat}

theorem field_of_inside (inside : offset + length ≤ first.length) :
    first.field offset length = .ok ((first.drop offset).take length) := by
  unfold field
  rw [if_pos inside]

theorem field_of_beyond (beyond : first.length < offset + length) :
    first.field offset length = .error (.truncated offset length first.length) := by
  unfold field
  rw [if_neg (by omega)]

theorem field_congr (same : first.take limit = second.take limit) (former : limit ≤ first.length)
    (latter : limit ≤ second.length) (inside : offset + length ≤ limit) :
    first.field offset length = second.field offset length := by
  have part (bytes : Bytes) :
      (bytes.drop offset).take length = ((bytes.take limit).drop offset).take length := by
    rw [List.drop_take, List.take_take, Nat.min_eq_left (by omega)]
  rw [field_of_inside (by omega), field_of_inside (by omega), part first, part second, same]

end Bytes

namespace Section

def content (whole : Section) : Bytes := whole.bytes.take whole.payloadEnd

/-- The header is what the bytes say, and there are as many bytes as it says. -/
structure IsFramed (whole : Section) : Prop where
  long : headerLength + checksumLength ≤ whole.bytes.length
  length : whole.bytes.length = 3 + whole.header.length
  short : whole.header.length < 4096
  tableId : whole.bytes.word8 0 = .ok whole.header.tableId
  sectionId : whole.bytes.word16 3 = .ok whole.header.sectionId
  version : (whole.bytes.word8 5).map (fun byte => UInt8.ofNat (bits byte 1 5)) = .ok whole.header.version
  isCurrent : (whole.bytes.word8 5).map (flag · 0) = .ok whole.header.isCurrent
  number : whole.bytes.word8 6 = .ok whole.header.number
  lastNumber : whole.bytes.word8 7 = .ok whole.header.lastNumber

theorem isFramed_of_parse {data : Bytes} {whole : Section} (parsed : parse data = .ok whole) :
    whole.IsFramed := by
  unfold parse at parsed
  obtain ⟨length, announced, parsed⟩ := bind_eq_ok.mp parsed
  obtain ⟨word, -, rfl⟩ := map_eq_ok announced
  have short : word % 4096 < 4096 := Nat.mod_lt _ (by omega)
  split at parsed
  next => cases parsed
  next enough =>
    split at parsed
    next => cases parsed
    next complete =>
      have total : (data.take (3 + word % 4096)).length = 3 + word % 4096 := by
        rw [List.length_take]
        omega
      obtain ⟨tableId, first, parsed⟩ := bind_eq_ok.mp parsed
      obtain ⟨sectionId, second, parsed⟩ := bind_eq_ok.mp parsed
      obtain ⟨versionByte, third, parsed⟩ := bind_eq_ok.mp parsed
      obtain ⟨number, fourth, parsed⟩ := bind_eq_ok.mp parsed
      obtain ⟨lastNumber, fifth, parsed⟩ := bind_eq_ok.mp parsed
      cases parsed
      refine ⟨?_, total, short, first, second, ?_, ?_, fourth, fifth⟩
      · simp only [headerLength, checksumLength] at enough ⊢
        omega
      · rw [third]
        rfl
      · rw [third]
        rfl

namespace IsFramed

variable {whole : Section}

theorem le_payloadEnd (framed : whole.IsFramed) : headerLength ≤ whole.payloadEnd :=
  Nat.le_sub_of_add_le framed.long

theorem length_eq (framed : whole.IsFramed) : whole.bytes.length = whole.payloadEnd + checksumLength :=
  (Nat.sub_add_cancel (Nat.le_trans (Nat.le_add_left _ _) framed.long)).symm

theorem length_content (framed : whole.IsFramed) : whole.content.length = whole.payloadEnd := by
  unfold content
  rw [List.length_take, framed.length_eq]
  exact Nat.min_eq_left (Nat.le_add_right _ _)

end IsFramed

def EqualUpToChecksum (first second : Section) : Prop :=
  ∃ former latter, parse former = .ok first ∧ parse latter = .ok second ∧ first.content = second.content

structure SameContent (first second : Section) : Prop where
  former : first.IsFramed
  latter : second.IsFramed
  content : first.content = second.content

theorem EqualUpToChecksum.sameContent {first second : Section} (same : EqualUpToChecksum first second) :
    SameContent first second := by
  obtain ⟨former, latter, framed, framed', content⟩ := same
  exact ⟨isFramed_of_parse framed, isFramed_of_parse framed', content⟩

namespace SameContent

variable {first second : Section} {offset count : Nat}

theorem payloadEnd (same : SameContent first second) : first.payloadEnd = second.payloadEnd := by
  rw [← same.former.length_content, ← same.latter.length_content, same.content]

theorem length (same : SameContent first second) : first.bytes.length = second.bytes.length := by
  rw [same.former.length_eq, same.latter.length_eq, same.payloadEnd]

theorem field (same : SameContent first second) (inside : offset + count ≤ first.payloadEnd) :
    first.bytes.field offset count = second.bytes.field offset count := by
  have within : first.payloadEnd ≤ first.bytes.length := Nat.sub_le _ _
  have shared : first.bytes.take first.payloadEnd = second.bytes.take first.payloadEnd := by
    have whole := same.content
    unfold Section.content at whole
    rw [← same.payloadEnd] at whole
    exact whole
  exact Bytes.field_congr shared within (same.length ▸ within) inside

theorem number (same : SameContent first second) (inside : offset + count ≤ first.payloadEnd) :
    first.bytes.number offset count = second.bytes.number offset count := by
  unfold Bytes.number
  rw [same.field inside]

theorem word8 (same : SameContent first second) (inside : offset + 1 ≤ first.payloadEnd) :
    first.bytes.word8 offset = second.bytes.word8 offset :=
  congrArg (Except.map _) (same.number inside)

theorem word16 (same : SameContent first second) (inside : offset + 2 ≤ first.payloadEnd) :
    first.bytes.word16 offset = second.bytes.word16 offset :=
  congrArg (Except.map _) (same.number inside)

theorem word12 (same : SameContent first second) (inside : offset + 2 ≤ first.payloadEnd) :
    first.bytes.word12 offset = second.bytes.word12 offset :=
  congrArg (Except.map _) (same.number inside)

theorem header (same : SameContent first second) : first.header = second.header := by
  have former := same.former
  have latter := same.latter
  have long : 8 ≤ first.payloadEnd := former.le_payloadEnd
  have tableId := former.tableId.symm.trans ((same.word8 (by omega)).trans latter.tableId)
  have sectionId := former.sectionId.symm.trans ((same.word16 (by omega)).trans latter.sectionId)
  have flags : first.bytes.word8 5 = second.bytes.word8 5 := same.word8 (by omega)
  have version := former.version.symm.trans ((congrArg (Except.map _) flags).trans latter.version)
  have isCurrent :=
    former.isCurrent.symm.trans ((congrArg (Except.map _) flags).trans latter.isCurrent)
  have number := former.number.symm.trans ((same.word8 (by omega)).trans latter.number)
  have lastNumber :=
    former.lastNumber.symm.trans ((same.word8 (by omega)).trans latter.lastNumber)
  have length : first.header.length = second.header.length := by
    have total := same.length
    rw [former.length, latter.length] at total
    exact Nat.add_left_cancel total
  cases firstHeader : first.header
  cases secondHeader : second.header
  rw [firstHeader, secondHeader] at tableId sectionId version isCurrent number lastNumber length
  cases tableId
  cases sectionId
  cases version
  cases isCurrent
  cases number
  cases lastNumber
  cases length
  rfl

end SameContent

end Section

end DvbScan
