import DvbScan.Proofs.MultiplexLine
import DvbScan.Proofs.SectionLayout
import DvbScan.Scan.Platform

/-!
# The frequency of the first cell

A delivery descriptor of the second generation ends with the cells of its multiplex. A cell lists one frequency or,
if the multiplex hops between several, a loop of them behind its length. The reader looks at one place only, where
the first frequency of the first cell stands if that cell lists any. Behind an empty loop other fields stand there,
and wherever these are four bytes or more the reader takes them for a frequency.
-/

namespace DvbScan

open Bytes

namespace Bytes

variable {bytes : Bytes} {offset : Nat}

def ofDoubleWord (word : UInt32) : Bytes := ofWord (word.toNat / 65536) ++ ofWord (word.toNat % 65536)

theorem bigEndian_ofDoubleWord (word : UInt32) : bigEndian (ofDoubleWord word) = word.toNat := by
  have bound := word.toNat_lt
  simp only [bigEndian, ofDoubleWord, ofWord, List.cons_append, List.nil_append, List.foldl_cons, List.foldl_nil,
    UInt8.toNat_ofNat']
  omega

theorem At.word32 {word : UInt32} (stands : bytes.At offset (ofDoubleWord word)) :
    bytes.word32 offset = .ok word := by
  have read : bytes.field offset 4 = .ok (ofDoubleWord word) := stands.field
  unfold Bytes.word32 Bytes.number
  rw [read]
  change Except.ok (UInt32.ofNat (bigEndian (ofDoubleWord word))) = _
  rw [bigEndian_ofDoubleWord, UInt32.ofNat_toNat]

theorem isSome_word32_iff : (bytes.word32 offset).toOption.isSome ↔ offset + 4 ≤ bytes.length := by
  unfold Bytes.word32 Bytes.number Bytes.field
  split
  next inside => exact iff_of_true rfl inside
  next beyond => exact iff_of_false Bool.false_ne_true beyond

end Bytes

structure RawSubcell where
  extension : UInt8
  transposer : UInt32
  deriving DecidableEq, Repr

def RawSubcell.encode (subcell : RawSubcell) : Bytes := subcell.extension :: ofDoubleWord subcell.transposer

/-- The frequencies of a cell between which a multiplex hops, in units of 10 Hz; they fit their length. -/
structure FrequencyLoop where
  frequencies : List UInt32
  short : 4 * frequencies.length < 256
  deriving DecidableEq, Repr

def FrequencyLoop.encode (loop : FrequencyLoop) : Bytes :=
  UInt8.ofNat (4 * loop.frequencies.length) :: loop.frequencies.flatMap ofDoubleWord

/-- A cell, with the frequencies that it lists in some form, and with subcells that fit their length. -/
structure RawCell (φ : Type) where
  id : UInt16
  listed : φ
  subcells : List RawSubcell
  short : 5 * subcells.length < 256
  deriving DecidableEq, Repr

namespace RawCell

variable {φ : Type} {write : φ → Bytes} {cell : RawCell φ} {others : List (RawCell φ)}
  {bytes : Bytes} {offset : Nat}

def encodeSubcells (cell : RawCell φ) : Bytes :=
  UInt8.ofNat (5 * cell.subcells.length) :: cell.subcells.flatMap RawSubcell.encode

def encode (write : φ → Bytes) (cell : RawCell φ) : Bytes :=
  ofWord cell.id.toNat ++ (write cell.listed ++ cell.encodeSubcells)

theorem length_encodeSubcells (cell : RawCell φ) : cell.encodeSubcells.length = 5 * cell.subcells.length + 1 := by
  have size (subcell : RawSubcell) : subcell.encode.length = 5 := rfl
  unfold encodeSubcells
  rw [List.length_cons, List.length_flatMap]
  simp only [size, List.map_const', List.sum_replicate_nat, Nat.mul_comm]

theorem length_encode (write : φ → Bytes) (cell : RawCell φ) :
    (cell.encode write).length = (write cell.listed).length + 5 * cell.subcells.length + 3 := by
  unfold encode
  rw [List.length_append, List.length_append, length_ofWord, length_encodeSubcells]
  omega

theorem at_listed (stands : bytes.At offset ((cell :: others).flatMap (encode write))) :
    bytes.At (offset + 2) (write cell.listed) := by
  rw [List.flatMap_cons] at stands
  obtain ⟨first, -⟩ := at_append.mp stands
  obtain ⟨-, second⟩ := at_append.mp first
  exact (at_append.mp second).1

end RawCell

/-- The cells of a multiplex with one frequency in each, or of one that hops. -/
inductive RawCells where
  | single (cells : List (RawCell UInt32))
  | hopping (cells : List (RawCell FrequencyLoop))
  deriving DecidableEq, Repr

namespace RawCells

def hops : RawCells → Bool
  | single _ => false
  | hopping _ => true

def encode : RawCells → Bytes
  | single cells => cells.flatMap (RawCell.encode ofDoubleWord)
  | hopping cells => cells.flatMap (RawCell.encode FrequencyLoop.encode)

/-- The first frequency of the first cell. -/
def listed? : RawCells → Option UInt32
  | single cells => cells.head?.map RawCell.listed
  | hopping cells => cells.head?.bind fun cell => cell.listed.frequencies.head?

/-- The loop of the first cell is empty, and the cell has a subcell or another cell follows. -/
def Misleading : RawCells → Prop
  | hopping (cell :: others) => cell.listed.frequencies = [] ∧ (cell.subcells ≠ [] ∨ others ≠ [])
  | _ => False

variable {cells : RawCells} {bytes : Bytes} {offset : Nat}

/-- The offset among the cells at which the reader looks for a frequency. -/
def place (cells : RawCells) : Nat := if cells.hops then 3 else 2

theorem at_of_listed {units : UInt32} (stands : bytes.At offset cells.encode) (listed : cells.listed? = some units) :
    bytes.At (offset + cells.place) (ofDoubleWord units) := by
  cases cells with
  | single cells =>
    obtain ⟨cell, first, rfl⟩ := Option.map_eq_some_iff.mp listed
    obtain ⟨others, rfl⟩ := List.head?_eq_some_iff.mp first
    exact RawCell.at_listed stands
  | hopping cells =>
    obtain ⟨cell, first, found⟩ := Option.bind_eq_some_iff.mp listed
    obtain ⟨others, rfl⟩ := List.head?_eq_some_iff.mp first
    obtain ⟨further, shape⟩ := List.head?_eq_some_iff.mp found
    have loop := RawCell.at_listed stands
    unfold FrequencyLoop.encode at loop
    rw [shape, List.flatMap_cons] at loop
    exact (at_append.mp (at_cons.mp loop).2).1

/-- Where no frequency is listed, there is room for one in the place exactly if the cells are misleading. -/
theorem room_iff (unlisted : cells.listed? = none) : cells.place + 4 ≤ cells.encode.length ↔ cells.Misleading := by
  cases cells with
  | single cells =>
    obtain rfl := List.head?_eq_none_iff.mp (Option.map_eq_none_iff.mp unlisted)
    exact iff_of_false (by decide) id
  | hopping cells =>
    cases cells with
    | nil => exact iff_of_false (by decide) id
    | cons cell others =>
      have empty : cell.listed.frequencies = [] := List.head?_eq_none_iff.mp unlisted
      have loop : cell.listed.encode.length = 1 := by
        unfold FrequencyLoop.encode
        rw [empty]
        rfl
      change 7 ≤ ((cell :: others).flatMap (RawCell.encode FrequencyLoop.encode)).length ↔ _ ∧ _
      rw [List.flatMap_cons, List.length_append, RawCell.length_encode, loop, and_iff_right empty]
      cases others with
      | nil =>
        rw [← List.length_pos_iff]
        simp only [List.flatMap_nil, List.length_nil, ne_eq, not_true_eq_false, or_false]
        omega
      | cons other others =>
        have further := RawCell.length_encode FrequencyLoop.encode other
        have positive : 0 < other.listed.encode.length := Nat.succ_pos _
        refine iff_of_true ?_ (.inr (List.cons_ne_nil _ _))
        rw [List.flatMap_cons, List.length_append, further]
        omega

theorem listed?_of_misleading (misleading : cells.Misleading) : cells.listed? = none := by
  cases cells with
  | single cells => exact misleading.elim
  | hopping cells =>
    cases cells with
    | nil => rfl
    | cons cell others => exact List.head?_eq_none_iff.mpr misleading.1

end RawCells

/-- A delivery descriptor of the second generation with the codes of its parameters. Two bits are reserved, and one
tells whether other frequencies are used. -/
structure RawT2Delivery where
  pipe : UInt8
  systemId : UInt16
  antennas : BitVec 2
  bandwidth : BitVec 4
  reserved : BitVec 2
  guardInterval : BitVec 3
  transmissionMode : BitVec 3
  otherFrequencies : Bool
  cells : RawCells
  deriving DecidableEq, Repr

namespace RawT2Delivery

def channelByte (raw : RawT2Delivery) : UInt8 :=
  UInt8.ofNat (64 * raw.antennas.toNat + 4 * raw.bandwidth.toNat + raw.reserved.toNat)

def signalByte (raw : RawT2Delivery) : UInt8 :=
  UInt8.ofNat (32 * raw.guardInterval.toNat + 4 * raw.transmissionMode.toNat + 2 * raw.otherFrequencies.toNat +
    raw.cells.hops.toNat)

def encode (raw : RawT2Delivery) : Bytes :=
  [0x04, raw.pipe] ++ (ofWord raw.systemId.toNat ++ ([raw.channelByte, raw.signalByte] ++ raw.cells.encode))

def meaning (raw : RawT2Delivery) (frequency : Option UInt32) : T2Delivery where
  pipe := raw.pipe
  systemId := raw.systemId
  details := some {
    antennas := raw.antennas.toNat
    bandwidth := bandwidthOf raw.bandwidth.toNat
    guardInterval := guardIntervalOf raw.guardInterval.toNat
    transmissionMode := transmissionModeOf raw.transmissionMode.toNat
    frequency }

def found? (raw : RawT2Delivery) : Option UInt32 := (raw.encode.word32 (6 + raw.cells.place)).toOption

theorem at_cells (raw : RawT2Delivery) : raw.encode.At 6 raw.cells.encode :=
  (at_append.mp (at_append.mp (at_append.mp (at_self raw.encode)).2).2).2

theorem length_encode (raw : RawT2Delivery) : raw.encode.length = 6 + raw.cells.encode.length := by
  unfold encode
  simp only [List.length_append, List.length_cons, List.length_nil, length_ofWord]
  omega

theorem at_bytes (raw : RawT2Delivery) :
    raw.encode.At 0 [0x04] ∧ raw.encode.At 1 [raw.pipe] ∧ raw.encode.At 2 (ofWord raw.systemId.toNat) ∧
      raw.encode.At 4 [raw.channelByte] ∧ raw.encode.At 5 [raw.signalByte] := by
  obtain ⟨front, stands⟩ := at_append.mp (at_self raw.encode)
  obtain ⟨identifier, stands⟩ := at_append.mp stands
  obtain ⟨codes, -⟩ := at_append.mp stands
  exact ⟨(at_cons.mp front).1, (at_cons.mp front).2, identifier, (at_cons.mp codes).1, (at_cons.mp codes).2⟩

theorem bits_channelByte (raw : RawT2Delivery) :
    bits raw.channelByte 6 2 = raw.antennas.toNat ∧ bits raw.channelByte 2 4 = raw.bandwidth.toNat := by
  simp only [bits, channelByte, UInt8.toNat_ofNat', Nat.shiftRight_eq_div_pow, Nat.shiftLeft_eq]
  omega

theorem bits_signalByte (raw : RawT2Delivery) :
    bits raw.signalByte 5 3 = raw.guardInterval.toNat ∧ bits raw.signalByte 2 3 = raw.transmissionMode.toNat ∧
      bits raw.signalByte 0 1 = raw.cells.hops.toNat := by
  have other := raw.otherFrequencies.toNat_lt
  have hops := raw.cells.hops.toNat_lt
  simp only [bits, signalByte, UInt8.toNat_ofNat', Nat.shiftRight_eq_div_pow, Nat.shiftLeft_eq]
  omega

theorem offset_eq (raw : RawT2Delivery) : (if flag raw.signalByte 0 then 9 else 8) = 6 + raw.cells.place := by
  have odd := raw.bits_signalByte.2.2
  unfold flag RawCells.place
  rw [odd]
  cases raw.cells.hops <;> rfl

theorem readDetails_encode (raw : RawT2Delivery) : T2Delivery.readDetails raw.encode = .ok {
    antennas := raw.antennas.toNat
    bandwidth := bandwidthOf raw.bandwidth.toNat
    guardInterval := guardIntervalOf raw.guardInterval.toNat
    transmissionMode := transmissionModeOf raw.transmissionMode.toNat
    frequency := raw.found?.map tenHertz } := by
  obtain ⟨-, -, -, fourth, fifth⟩ := raw.at_bytes
  obtain ⟨antennas, bandwidth⟩ := raw.bits_channelByte
  obtain ⟨guardInterval, transmissionMode, -⟩ := raw.bits_signalByte
  refine bind_eq_ok.mpr ⟨_, fourth.word8, bind_eq_ok.mpr ⟨_, fifth.word8, ?_⟩⟩
  rw [raw.offset_eq, antennas, bandwidth, guardInterval, transmissionMode]
  rfl

theorem read_encode (raw : RawT2Delivery) :
    T2Delivery.read raw.encode = .ok (raw.meaning (raw.found?.map tenHertz)) := by
  obtain ⟨-, pipe, identifier, -, -⟩ := raw.at_bytes
  have long : 4 < raw.encode.length := by
    rw [length_encode]
    omega
  refine bind_eq_ok.mpr ⟨_, pipe.word8, bind_eq_ok.mpr ⟨_, identifier.word16, ?_⟩⟩
  rw [if_pos long, readDetails_encode]
  rfl

/-- No platform has another reader for extensions. -/
theorem table_read_encode [HanDecoders] (kind : PlatformKind) (raw : RawT2Delivery) :
    (Platform.ofKind kind).table.read ⟨0x7F, raw.encode⟩ =
      .ok (some (.t2Delivery (raw.meaning (raw.found?.map tenHertz)))) := by
  have read : DescriptorReader.extension raw.encode =
      .ok (some (.t2Delivery (raw.meaning (raw.found?.map tenHertz)))) := by
    refine bind_eq_ok.mpr ⟨_, raw.at_bytes.1.word8, ?_⟩
    rw [if_pos rfl]
    unfold DescriptorReader.of
    rw [read_encode]
    rfl
  cases kind <;> exact read

theorem found?_of_listed {raw : RawT2Delivery} {units : UInt32} (listed : raw.cells.listed? = some units) :
    raw.found? = some units := by
  unfold found?
  rw [(RawCells.at_of_listed raw.at_cells listed).word32]
  rfl

theorem isSome_found?_iff {raw : RawT2Delivery} (unlisted : raw.cells.listed? = none) :
    raw.found?.isSome ↔ raw.cells.Misleading := by
  unfold found?
  rw [isSome_word32_iff, length_encode, ← RawCells.room_iff unlisted]
  omega

theorem found?_eq_listed? {raw : RawT2Delivery} (clear : ¬raw.cells.Misleading) : raw.found? = raw.cells.listed? := by
  cases listed : raw.cells.listed? with
  | some units => exact found?_of_listed listed
  | none => exact Option.not_isSome_iff_eq_none.mp fun found => clear ((isSome_found?_iff listed).mp found)

theorem frequency_toTuning? (raw : RawT2Delivery) (frequency : Option UInt32) :
    (raw.meaning frequency).toTuning?.map Tuning.frequency? = frequency.map some := by
  cases frequency with
  | none => rfl
  | some units =>
    refine congrArg some (Tuning.get?_ofPairs (Multiplex.distinct_properties _) ?_)
    simp [Multiplex.properties, Multiplex.auto]

end RawT2Delivery

/-- Every delivery descriptor of the second generation is read with its identifiers and parameters. The frequency is
ten times the first one of the first cell, and a tuning has that one or there is none, exactly unless the cells are
misleading. Then a frequency is read though the first cell lists none. -/
theorem T2Delivery.reads_first_cell [HanDecoders] (kind : PlatformKind) (raw : RawT2Delivery) :
    ∃ frequency : Option UInt32,
      (Platform.ofKind kind).table.read ⟨0x7F, raw.encode⟩ = .ok (some (.t2Delivery (raw.meaning frequency))) ∧
      (raw.meaning frequency).toTuning?.map Tuning.frequency? = frequency.map some ∧
      (frequency = raw.cells.listed?.map tenHertz ↔ ¬raw.cells.Misleading) ∧
      (raw.cells.Misleading → raw.cells.listed? = none ∧ frequency.isSome) := by
  have misread (misleading : raw.cells.Misleading) :
      raw.cells.listed? = none ∧ (raw.found?.map tenHertz).isSome := by
    have unlisted := RawCells.listed?_of_misleading misleading
    rw [Option.isSome_map]
    exact ⟨unlisted, (RawT2Delivery.isSome_found?_iff unlisted).mpr misleading⟩
  refine ⟨raw.found?.map tenHertz, raw.table_read_encode kind, raw.frequency_toTuning? _, ?_, misread⟩
  constructor
  · intro same misleading
    obtain ⟨unlisted, found⟩ := misread misleading
    rw [same, unlisted] at found
    cases found
  · intro clear
    rw [RawT2Delivery.found?_eq_listed? clear]

/-! A cell without a frequency that is received through a transposer. -/

namespace TransposedCell

open scoped HanDecoders

def cell : RawCell FrequencyLoop where
  id := 1
  listed := { frequencies := [], short := by decide }
  subcells := [{ extension := 1, transposer := 47400000 }]
  short := by decide

def descriptor : RawT2Delivery where
  pipe := 1
  systemId := 0x8001
  antennas := 0#2
  bandwidth := 0#4
  reserved := 0#2
  guardInterval := 4#3
  transmissionMode := 5#3
  otherFrequencies := false
  cells := .hopping [cell]

def payload : Bytes := [0x04, 0x01, 0x80, 0x01, 0x00, 0x95, 0x00, 0x01, 0x00, 0x05, 0x01, 0x02, 0xD3, 0x44, 0x40]

/-- The length of the subcells, the number of the first one and half of its frequency are taken for a frequency. -/
theorem subcell_taken_for_frequency :
    descriptor.encode = payload ∧ descriptor.cells.listed? = none ∧
      Platform.standard.table.read ⟨0x7F, payload⟩ =
        .ok (some (.t2Delivery (descriptor.meaning (some 839523390)))) ∧
      (descriptor.meaning (some 839523390)).toTuning?.bind Tuning.frequency? = some 839523390 := by
  refine ⟨by decide, by decide, by decide +kernel, by decide⟩

end TransposedCell

end DvbScan
