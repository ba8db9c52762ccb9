import DvbScan.Proofs.Result
import DvbScan.Si.Descriptor.Table

/-!
# How sections are written

Writers for words, lengths, descriptors, loops and sections, and what the readers make of them. A reader is
given an offset, and all that it needs to know of the bytes there is which part of them it stands before; what
comes before and after that part does not matter to it.
-/

namespace DvbScan

namespace Bytes

/-- The part stands at the offset. -/
def At (bytes : Bytes) (offset : Nat) (part : Bytes) : Prop :=
  ∃ before after, bytes = before ++ part ++ after ∧ before.length = offset

variable {bytes : Bytes} {offset : Nat}

theorem at_append {first second : Bytes} : bytes.At offset (first ++ second) ↔
    bytes.At offset first ∧ bytes.At (offset + first.length) second := by
  constructor
  · rintro ⟨before, after, rfl, rfl⟩
    refine ⟨⟨before, second ++ after, ?_, rfl⟩, before ++ first, after, ?_, ?_⟩
    · simp only [List.append_assoc]
    · simp only [List.append_assoc]
    · rw [List.length_append]
  · rintro ⟨⟨before, after, shape, rfl⟩, former, rest, same, reach⟩
    have front : former = before ++ first := by
      rw [shape, List.append_assoc former] at same
      exact (List.append_inj_left same (by rw [List.length_append, reach])).symm
    refine ⟨before, rest, ?_, rfl⟩
    rw [same, front]
    simp only [List.append_assoc]

theorem at_cons {byte : UInt8} {rest : Bytes} :
    bytes.At offset (byte :: rest) ↔ bytes.At offset [byte] ∧ bytes.At (offset + 1) rest := by
  rw [← List.singleton_append, at_append, List.length_singleton]

theorem at_front (bytes trailing : Bytes) : (bytes ++ trailing).At 0 bytes := ⟨[], trailing, rfl, rfl⟩

theorem at_self (bytes : Bytes) : bytes.At 0 bytes := by
  have front := at_front bytes []
  rwa [List.append_nil] at front

theorem At.le_length {part : Bytes} (stands : bytes.At offset part) :
    offset + part.length ≤ bytes.length := by
  obtain ⟨before, after, rfl, rfl⟩ := stands
  simp only [List.length_append]
  omega

theorem At.field {part : Bytes} (stands : bytes.At offset part) :
    bytes.field offset part.length = .ok part := by
  have inside := stands.le_length
  obtain ⟨before, after, rfl, rfl⟩ := stands
  unfold Bytes.field
  rw [if_pos inside, List.append_assoc, List.drop_left, List.take_left]

def ofWord (value : Nat) : Bytes := [UInt8.ofNat (value / 256), UInt8.ofNat value]

@[simp]
theorem length_ofWord (value : Nat) : (ofWord value).length = 2 := rfl

theorem bigEndian_ofWord {value : Nat} (fits : value < 65536) : bigEndian (ofWord value) = value := by
  simp only [bigEndian, ofWord, List.foldl_cons, List.foldl_nil, UInt8.toNat_ofNat']
  omega

theorem At.number {value : Nat} (stands : bytes.At offset (ofWord value)) (fits : value < 65536) :
    bytes.number offset 2 = .ok value := by
  have read : bytes.field offset 2 = .ok (ofWord value) := stands.field
  unfold Bytes.number
  rw [read]
  exact congrArg _ (bigEndian_ofWord fits)

theorem At.word8 {byte : UInt8} (stands : bytes.At offset [byte]) : bytes.word8 offset = .ok byte := by
  have read : bytes.field offset 1 = .ok [byte] := stands.field
  unfold Bytes.word8 Bytes.number
  rw [read]
  simp [Except.map, bigEndian]

theorem At.word16 {value : UInt16} (stands : bytes.At offset (ofWord value.toNat)) :
    bytes.word16 offset = .ok value := by
  unfold Bytes.word16
  rw [stands.number value.toNat_lt_size]
  simp [Except.map]

/-- A length shares its word with four bits of another use. -/
theorem At.word12 {length : Nat} {upper : Fin 16}
    (stands : bytes.At offset (ofWord (4096 * upper + length))) (fits : length < 4096) :
    bytes.word12 offset = .ok length := by
  have bound := upper.isLt
  unfold Bytes.word12
  rw [stands.number (by omega)]
  change Except.ok ((4096 * upper.val + length) % 4096) = _
  rw [Nat.mul_add_mod, Nat.mod_eq_of_lt fits]

end Bytes

namespace RawDescriptor

def encode (raw : RawDescriptor) : Bytes :=
  raw.tag :: UInt8.ofNat raw.payload.length :: raw.payload

def encodeAll (raws : List RawDescriptor) : Bytes := raws.flatMap encode

/-- A loop after its length, which shares its word with four bits of another use. -/
def encodeLoop (upper : Fin 16) (raws : List RawDescriptor) : Bytes :=
  Bytes.ofWord (4096 * upper + (encodeAll raws).length) ++ encodeAll raws

def AllShort (raws : List RawDescriptor) : Prop := ∀ raw ∈ raws, raw.payload.length < 256

instance (raws : List RawDescriptor) : Decidable (AllShort raws) :=
  inferInstanceAs (Decidable (∀ raw ∈ raws, raw.payload.length < 256))

@[simp]
theorem length_encodeLoop (upper : Fin 16) (raws : List RawDescriptor) :
    (encodeLoop upper raws).length = 2 + (encodeAll raws).length := by
  rw [encodeLoop, List.length_append, Bytes.length_ofWord]

theorem entries_append (total : Nat) {raws : List RawDescriptor} (short : AllShort raws) (rest : Bytes) :
    entries total (encodeAll raws ++ rest) = raws.map .ok ++ entries total rest := by
  induction raws with
  | nil => rfl
  | cons raw others ih =>
    have length : (UInt8.ofNat raw.payload.length).toNat = raw.payload.length := by
      rw [UInt8.toNat_ofNat']
      exact Nat.mod_eq_of_lt (short raw List.mem_cons_self)
    have shape : encodeAll (raw :: others) ++ rest =
        raw.tag :: UInt8.ofNat raw.payload.length :: (raw.payload ++ (encodeAll others ++ rest)) := by
      rw [← List.append_assoc raw.payload]
      rfl
    rw [shape, entries, length, if_pos (by rw [List.length_append]; omega), List.take_left,
      List.drop_left, ih fun other member => short other (List.mem_cons_of_mem raw member),
      List.map_cons, List.cons_append]

theorem entries_encodeAll (total : Nat) {raws : List RawDescriptor} (short : AllShort raws) :
    entries total (encodeAll raws) = raws.map .ok := by
  have alone := entries_append total short []
  rwa [List.append_nil, entries, List.append_nil] at alone

end RawDescriptor

/-- What a descriptor says; nothing if its tag is unknown, or if it is malformed or of no interest. -/
def DescriptorTable.meaning? (table : DescriptorTable) (raw : RawDescriptor) : Option Descriptor :=
  match table.read raw with
  | .ok found => found
  | .error _ => none

theorem DescriptorTable.readLoop_encodeAll (table : DescriptorTable) {raws : List RawDescriptor}
    (short : RawDescriptor.AllShort raws) :
    table.readLoop (RawDescriptor.encodeAll raws) = raws.filterMap table.meaning? := by
  unfold readLoop RawDescriptor.ofLoop
  rw [RawDescriptor.entries_encodeAll _ short, List.filterMap_map]
  rfl

namespace SectionHeader

/-- The byte of the version, which ends with the mark of what applies now. -/
def versionByte (header : SectionHeader) (upper : Fin 16) : UInt8 :=
  UInt8.ofNat (64 * (upper.val % 4) + 2 * header.version.toNat + header.isCurrent.toNat)

theorem bits_versionByte (header : SectionHeader) (upper : Fin 16) (version : header.version < 32) :
    UInt8.ofNat (bits (header.versionByte upper) 1 5) = header.version := by
  have bound : header.version.toNat < 32 := UInt8.lt_iff_toNat_lt.mp version
  have current := header.isCurrent.toNat_lt
  apply UInt8.toNat_inj.mp
  simp only [bits, versionByte, UInt8.toNat_ofNat', Nat.shiftRight_eq_div_pow, Nat.shiftLeft_eq]
  omega

theorem flag_versionByte (header : SectionHeader) (upper : Fin 16) :
    flag (header.versionByte upper) 0 = header.isCurrent := by
  have odd : bits (header.versionByte upper) 0 1 = header.isCurrent.toNat := by
    have current := header.isCurrent.toNat_lt
    simp only [bits, versionByte, UInt8.toNat_ofNat', Nat.shiftRight_eq_div_pow, Nat.shiftLeft_eq]
    omega
  unfold flag
  rw [odd]
  cases header.isCurrent <;> rfl

end SectionHeader

namespace Section

/-- A section with the payload and the check sum. Its length is counted and not taken from the header, and the
bits that the format leaves free are those of `upper`. -/
def encode (upper : Fin 16) (header : SectionHeader) (payload checksum : Bytes) : Bytes :=
  header.tableId :: (Bytes.ofWord (4096 * upper + (payload.length + 9)) ++
    (Bytes.ofWord header.sectionId.toNat ++
      (header.versionByte upper :: header.number :: header.lastNumber :: (payload ++ checksum))))

def written (upper : Fin 16) (header : SectionHeader) (payload checksum : Bytes) : Section where
  header := { header with length := payload.length + 9 }
  bytes := encode upper header payload checksum

variable {upper : Fin 16} {header : SectionHeader} {payload checksum : Bytes}

theorem length_encode (check : checksum.length = 4) :
    (encode upper header payload checksum).length = payload.length + 12 := by
  simp only [encode, List.length_cons, List.length_append, Bytes.length_ofWord]
  omega

theorem payloadEnd_written (check : checksum.length = 4) :
    (written upper header payload checksum).payloadEnd = 8 + payload.length := by
  unfold payloadEnd checksumLength
  rw [written, length_encode check]
  omega

theorem fields_of_at {bytes : Bytes} (stands : bytes.At 0 (encode upper header payload checksum)) :
    bytes.At 0 [header.tableId] ∧
      bytes.At 1 (Bytes.ofWord (4096 * upper + (payload.length + 9))) ∧
      bytes.At 3 (Bytes.ofWord header.sectionId.toNat) ∧
      bytes.At 5 [header.versionByte upper] ∧ bytes.At 6 [header.number] ∧
      bytes.At 7 [header.lastNumber] ∧ bytes.At 8 payload := by
  obtain ⟨tableId, stands⟩ := Bytes.at_cons.mp stands
  obtain ⟨length, stands⟩ := Bytes.at_append.mp stands
  obtain ⟨sectionId, stands⟩ := Bytes.at_append.mp stands
  obtain ⟨version, stands⟩ := Bytes.at_cons.mp stands
  obtain ⟨number, stands⟩ := Bytes.at_cons.mp stands
  obtain ⟨lastNumber, stands⟩ := Bytes.at_cons.mp stands
  exact ⟨tableId, length, sectionId, version, number, lastNumber, (Bytes.at_append.mp stands).1⟩

theorem at_payload : (written upper header payload checksum).bytes.At 8 payload :=
  (fields_of_at (Bytes.at_self _)).2.2.2.2.2.2

theorem parse_encode (trailing : Bytes) (short : payload.length + 9 < 4096)
    (version : header.version < 32) (check : checksum.length = 4) :
    parse (encode upper header payload checksum ++ trailing) =
      .ok (written upper header payload checksum) := by
  have total : (encode upper header payload checksum).length = payload.length + 12 := length_encode check
  have front : (encode upper header payload checksum ++ trailing).take (3 + (payload.length + 9)) =
      encode upper header payload checksum := by
    rw [show 3 + (payload.length + 9) = (encode upper header payload checksum).length by omega,
      List.take_left]
  have reach : ¬(encode upper header payload checksum ++ trailing).length < 3 + (payload.length + 9) := by
    rw [List.length_append]
    omega
  obtain ⟨-, length, -⟩ :=
    fields_of_at (Bytes.at_front (encode upper header payload checksum) trailing)
  obtain ⟨tableId, -, sectionId, versionByte, number, lastNumber, -⟩ :=
    fields_of_at (Bytes.at_self (encode upper header payload checksum))
  unfold parse
  rw [length.word12 short]
  simp only [bind, Except.bind]
  rw [if_neg (by simp only [headerLength, checksumLength]; omega), if_neg reach, front,
    tableId.word8, sectionId.word16, versionByte.word8, number.word8, lastNumber.word8]
  simp only [header.bits_versionByte upper version, header.flag_versionByte upper]
  rfl

theorem descriptorsAt_of_at {whole : Section} {offset : Nat} {raws : List RawDescriptor}
    (stands : whole.bytes.At offset (RawDescriptor.encodeLoop upper raws))
    (inside : offset + 2 + (RawDescriptor.encodeAll raws).length ≤ whole.payloadEnd)
    (short : (RawDescriptor.encodeAll raws).length < 4096) :
    whole.descriptorsAt offset = .ok (RawDescriptor.encodeAll raws) := by
  obtain ⟨length, content⟩ := Bytes.at_append.mp stands
  obtain ⟨before, after, shape, start⟩ := content
  unfold descriptorsAt
  rw [length.word12 short]
  change (if _ then _ else _) = _
  rw [if_pos inside, shape, List.append_assoc, show offset + 2 = before.length from start.symm,
    List.drop_left, List.take_left]

end Section

end DvbScan
