import DvbScan.Proofs.EntryLists
import DvbScan.Scan.Platform

/-!
# Descriptors that are lists

The payloads of four kinds of descriptors are lists: services, channel numbers of Freeview, channels of Freesat with
their numbers in each region, and regions of Freesat. A payload is accepted exactly if it is made of whole entries,
and is then read as they were written, in order and whatever the reserved bits are. A payload that breaks off within
an entry is refused as a whole.
-/

namespace DvbScan

open Bytes

def ServiceListEntry.format : EntryFormat ServiceListEntry ServiceListEntry where
  encode entry := ofWord entry.serviceId.toNat ++ [entry.serviceType]
  meaning := id

theorem ServiceListEntry.readsGroups : format.ReadsGroups 3 ofGroup where
  length_encode _ := rfl
  ofGroup_eq_ok_iff group value := by
    constructor
    · intro read
      obtain ⟨serviceId, first, read⟩ := bind_eq_ok.mp read
      obtain ⟨serviceType, second, read⟩ := bind_eq_ok.mp read
      cases read
      exact ⟨⟨serviceId, serviceType⟩,
        at_append.mpr ⟨word16_eq_ok_iff.mp first, word8_eq_ok_iff.mp second⟩, rfl⟩
    · rintro ⟨raw, stands, rfl⟩
      obtain ⟨first, second⟩ := at_append.mp stands
      exact bind_eq_ok.mpr ⟨_, first.word16, bind_eq_ok.mpr ⟨_, second.word8, rfl⟩⟩

/-- A channel number as it is written, five bits of its word being reserved. -/
structure RawLogicalChannel where
  serviceId : UInt16
  visible : Bool
  reserved : Fin 32
  number : Fin 1024
  deriving DecidableEq, Repr

namespace RawLogicalChannel

def word (raw : RawLogicalChannel) : Nat := 32768 * raw.visible.toNat + 1024 * raw.reserved + raw.number

theorem word_lt (raw : RawLogicalChannel) : raw.word < 65536 := by
  have visible := raw.visible.toNat_lt
  unfold word
  omega

def ofWord (serviceId word : UInt16) : RawLogicalChannel where
  serviceId := serviceId
  visible := 32768 ≤ word.toNat
  reserved := ⟨word.toNat / 1024 % 32, Nat.mod_lt _ (by decide)⟩
  number := ⟨word.toNat % 1024, Nat.mod_lt _ (by decide)⟩

theorem word_ofWord (serviceId word : UInt16) : (ofWord serviceId word).word = word.toNat := by
  have bound := word.toNat_lt
  unfold RawLogicalChannel.word ofWord
  by_cases high : 32768 ≤ word.toNat
  · simp only [high, decide_true, Bool.toNat_true]
    omega
  · simp only [high, decide_false, Bool.toNat_false]
    omega

end RawLogicalChannel

def LogicalChannel.format : EntryFormat RawLogicalChannel LogicalChannel where
  encode raw := ofWord raw.serviceId.toNat ++ ofWord raw.word
  meaning raw := { serviceId := raw.serviceId, number := UInt16.ofNat raw.number, visible := raw.visible }

theorem LogicalChannel.readsGroups : format.ReadsGroups 4 ofGroup where
  length_encode _ := rfl
  ofGroup_eq_ok_iff group value := by
    constructor
    · intro read
      obtain ⟨word, second, read⟩ := bind_eq_ok.mp read
      obtain ⟨serviceId, first, read⟩ := bind_eq_ok.mp read
      cases read
      refine ⟨.ofWord serviceId word, at_append.mpr ⟨word16_eq_ok_iff.mp first, ?_⟩, rfl⟩
      rw [RawLogicalChannel.word_ofWord]
      exact word16_eq_ok_iff.mp second
    · rintro ⟨raw, stands, rfl⟩
      obtain ⟨first, second⟩ := at_append.mp stands
      have bound := raw.word_lt
      have number : raw.word % 1024 = raw.number := by
        unfold RawLogicalChannel.word
        omega
      have visible : decide (32768 ≤ raw.word) = raw.visible := by
        unfold RawLogicalChannel.word
        cases raw.visible <;> simp <;> omega
      refine bind_eq_ok.mpr ⟨_, second.word16_ofNat bound, bind_eq_ok.mpr ⟨_, first.word16, ?_⟩⟩
      rw [UInt16.toNat_ofNat_of_lt' bound, number, visible]
      rfl

structure RawRegionalNumber where
  reserved : Fin 16
  number : Fin 4096
  region : UInt16
  deriving DecidableEq, Repr

def RegionalNumber.format : EntryFormat RawRegionalNumber RegionalNumber where
  encode raw := ofWord (4096 * raw.reserved + raw.number) ++ ofWord raw.region.toNat
  meaning raw := { number := UInt16.ofNat raw.number, region := raw.region }

theorem RegionalNumber.readsGroups : format.ReadsGroups 4 ofGroup where
  length_encode _ := rfl
  ofGroup_eq_ok_iff group value := by
    constructor
    · intro read
      obtain ⟨number, first, read⟩ := bind_eq_ok.mp read
      obtain ⟨region, second, read⟩ := bind_eq_ok.mp read
      cases read
      obtain ⟨fits, reserved, stands⟩ := word12_eq_ok_iff.mp first
      exact ⟨⟨reserved, ⟨number, fits⟩, region⟩, at_append.mpr ⟨stands, word16_eq_ok_iff.mp second⟩, rfl⟩
    · rintro ⟨raw, stands, rfl⟩
      obtain ⟨first, second⟩ := at_append.mp stands
      exact bind_eq_ok.mpr ⟨_, first.word12 raw.number.isLt, bind_eq_ok.mpr ⟨_, second.word16, rfl⟩⟩

/-- A channel of Freesat as it is written. One bit of the word of its identifier is reserved, and its numbers fit
their length. -/
structure RawFreesatChannel where
  serviceId : UInt16
  reserved : Fin 2
  freesatId : Fin 32768
  numbers : List RawRegionalNumber
  short : 4 * numbers.length < 256
  deriving DecidableEq, Repr

namespace FreesatChannel

def format : EntryFormat RawFreesatChannel FreesatChannel where
  encode raw := ofWord raw.serviceId.toNat ++
    (ofWord (32768 * raw.reserved + raw.freesatId) ++
      (UInt8.ofNat (4 * raw.numbers.length) :: RegionalNumber.format.encodeAll raw.numbers))
  meaning raw := {
    serviceId := raw.serviceId
    freesatId := UInt16.ofNat raw.freesatId
    numbers := raw.numbers.map RegionalNumber.format.meaning }

theorem length_encode (raw : RawFreesatChannel) : (format.encode raw).length = 4 * raw.numbers.length + 5 := by
  have numbers := RegionalNumber.readsGroups.length_encodeAll raw.numbers
  simp only [format, List.length_append, length_ofWord, List.length_cons, numbers]
  omega

theorem encode_positive (raw : RawFreesatChannel) : 0 < (format.encode raw).length := by
  rw [length_encode]
  omega

theorem readsEntries : format.ReadsEntries readAt := by
  intro payload offset found
  constructor
  · intro read
    obtain ⟨serviceId, first, read⟩ := bind_eq_ok.mp read
    obtain ⟨word, second, read⟩ := bind_eq_ok.mp read
    obtain ⟨length, third, read⟩ := bind_eq_ok.mp read
    obtain ⟨pairs, fourth, read⟩ := bind_eq_ok.mp read
    obtain ⟨numbers, fifth, read⟩ := bind_eq_ok.mp read
    cases read
    obtain ⟨size, content⟩ := field_eq_ok_iff.mp fourth
    obtain ⟨raws, rfl, rfl⟩ := (RegionalNumber.readsGroups.mapM_groups_eq_ok_iff _ _ _).mp fifth
    rw [RegionalNumber.readsGroups.length_encodeAll] at size
    have bound := length.toNat_lt
    have upper := word.toNat_lt
    have parts : 32768 * (word.toNat / 32768) + word.toNat % 32768 = word.toNat := Nat.div_add_mod _ _
    let raw : RawFreesatChannel :=
      { serviceId, reserved := ⟨word.toNat / 32768, by omega⟩,
        freesatId := ⟨word.toNat % 32768, Nat.mod_lt _ (by decide)⟩, numbers := raws, short := by omega }
    refine ⟨raw, ?_, ?_⟩
    · refine at_append.mpr ⟨word16_eq_ok_iff.mp first, at_append.mpr ⟨?_, at_cons.mpr ⟨?_, content⟩⟩⟩
      · change payload.At (offset + 2) (ofWord (32768 * (word.toNat / 32768) + word.toNat % 32768))
        rw [parts]
        exact word16_eq_ok_iff.mp second
      · change payload.At (offset + 4) [UInt8.ofNat (4 * raws.length)]
        rw [size, UInt8.ofNat_toNat]
        exact word8_eq_ok_iff.mp third
    · rw [length_encode, ← size]
      rfl
  · rintro ⟨raw, stands, rfl⟩
    obtain ⟨first, stands⟩ := at_append.mp stands
    obtain ⟨second, stands⟩ := at_append.mp stands
    obtain ⟨third, content⟩ := at_cons.mp stands
    have bound : 32768 * raw.reserved.val + raw.freesatId.val < 65536 := by omega
    have identifier : (32768 * raw.reserved.val + raw.freesatId.val) % 32768 = raw.freesatId := by omega
    have size : (UInt8.ofNat (4 * raw.numbers.length)).toNat = 4 * raw.numbers.length :=
      UInt8.toNat_ofNat_of_lt' raw.short
    have numbers := RegionalNumber.readsGroups.length_encodeAll raw.numbers
    have fourth : payload.field (offset + 5) (4 * raw.numbers.length) =
        .ok (RegionalNumber.format.encodeAll raw.numbers) :=
      field_eq_ok_iff.mpr ⟨numbers, content⟩
    have fifth := (RegionalNumber.readsGroups.mapM_groups_eq_ok_iff (by decide : 0 < 4) _ _).mpr
      ⟨raw.numbers, rfl, rfl⟩
    refine bind_eq_ok.mpr ⟨_, first.word16, bind_eq_ok.mpr ⟨_, second.word16_ofNat bound, ?_⟩⟩
    refine bind_eq_ok.mpr ⟨_, third.word8, ?_⟩
    rw [size]
    refine bind_eq_ok.mpr ⟨_, fourth, bind_eq_ok.mpr ⟨_, fifth, ?_⟩⟩
    rw [length_encode, UInt16.toNat_ofNat_of_lt' bound, identifier]
    rfl

end FreesatChannel

structure RawFreesatRegion where
  region : UInt16
  language : Bytes
  name : Bytes
  three : language.length = 3
  short : name.length < 256
  deriving DecidableEq, Repr

namespace FreesatRegion

def format [HanDecoders] : EntryFormat RawFreesatRegion FreesatRegion where
  encode raw := ofWord raw.region.toNat ++ (raw.language ++ (UInt8.ofNat raw.name.length :: raw.name))
  meaning raw := {
    region := raw.region
    language := String.ofList (Utf8.decode raw.language)
    name := BroadcastText.decode raw.name }

theorem length_encode [HanDecoders] (raw : RawFreesatRegion) : (format.encode raw).length = raw.name.length + 6 := by
  simp only [format, List.length_append, length_ofWord, List.length_cons, raw.three]
  omega

theorem encode_positive [HanDecoders] (raw : RawFreesatRegion) : 0 < (format.encode raw).length := by
  rw [length_encode]
  omega

theorem readsEntries [HanDecoders] : format.ReadsEntries readAt := by
  intro payload offset found
  constructor
  · intro read
    obtain ⟨region, first, read⟩ := bind_eq_ok.mp read
    obtain ⟨language, second, read⟩ := bind_eq_ok.mp read
    obtain ⟨length, third, read⟩ := bind_eq_ok.mp read
    obtain ⟨name, fourth, read⟩ := bind_eq_ok.mp read
    cases read
    obtain ⟨three, spoken⟩ := field_eq_ok_iff.mp second
    obtain ⟨size, content⟩ := field_eq_ok_iff.mp fourth
    let raw : RawFreesatRegion := { region, language, name, three, short := size ▸ length.toNat_lt }
    refine ⟨raw, ?_, ?_⟩
    · refine at_append.mpr ⟨word16_eq_ok_iff.mp first, at_append.mpr ⟨spoken, ?_⟩⟩
      change payload.At (offset + 2 + language.length) (UInt8.ofNat name.length :: name)
      rw [three, size, UInt8.ofNat_toNat]
      exact at_cons.mpr ⟨word8_eq_ok_iff.mp third, content⟩
    · rw [length_encode, ← size]
      rfl
  · rintro ⟨raw, stands, rfl⟩
    obtain ⟨first, stands⟩ := at_append.mp stands
    obtain ⟨spoken, stands⟩ := at_append.mp stands
    rw [length_ofWord, raw.three] at stands
    obtain ⟨third, content⟩ := at_cons.mp stands
    have size : (UInt8.ofNat raw.name.length).toNat = raw.name.length := UInt8.toNat_ofNat_of_lt' raw.short
    have second : payload.field (offset + 2) 3 = .ok raw.language :=
      field_eq_ok_iff.mpr ⟨raw.three, spoken⟩
    refine bind_eq_ok.mpr ⟨_, first.word16, bind_eq_ok.mpr ⟨_, second, ?_⟩⟩
    refine bind_eq_ok.mpr ⟨_, third.word8, ?_⟩
    rw [size]
    refine bind_eq_ok.mpr ⟨_, content.field, ?_⟩
    rw [length_encode]
    rfl

end FreesatRegion

namespace EntryFormat

variable {ρ α : Type} {format : EntryFormat ρ α}

structure IsReadBy (format : EntryFormat ρ α) (read : DescriptorReader) (make : List α → Descriptor) : Prop where
  /-- Every list is read as it was written. -/
  written : ∀ raws, read (format.encodeAll raws) = .ok (some (make (raws.map format.meaning)))
  /-- Nothing else is accepted. -/
  accepts_iff : ∀ payload, (∃ found, read payload = .ok found) ↔ ∃ raws, payload = format.encodeAll raws
  /-- An entry that breaks off takes the entries before it along. -/
  refuses_cut : ∀ raws raw count, 0 < count → count < (format.encode raw).length →
    ∃ error, read (format.encodeAll raws ++ (format.encode raw).take count) = .error error

theorem ReadsLists.isReadBy {read : Bytes → Except SiError (List α)} (reads : format.ReadsLists read)
    (delimited : format.IsSelfDelimiting) (make : List α → Descriptor) :
    format.IsReadBy (DescriptorReader.of make read) make := by
  have accepts (payload : Bytes) : (∃ found, DescriptorReader.of make read payload = .ok found) ↔
      ∃ raws, payload = format.encodeAll raws := by
    constructor
    · rintro ⟨found, given⟩
      obtain ⟨values, listed, rfl⟩ := map_eq_ok given
      obtain ⟨raws, shape, rfl⟩ := (reads payload values).mp listed
      exact ⟨raws, shape⟩
    · rintro ⟨raws, rfl⟩
      exact ⟨_, congrArg _ ((reads _ _).mpr ⟨raws, rfl, rfl⟩)⟩
  refine ⟨fun raws => congrArg _ ((reads _ _).mpr ⟨raws, rfl, rfl⟩), accepts, ?_⟩
  intro raws raw count some_byte cut
  cases given : DescriptorReader.of make read (format.encodeAll raws ++ (format.encode raw).take count) with
  | error error => exact ⟨error, rfl⟩
  | ok found =>
    obtain ⟨others, shape⟩ := (accepts _).mp ⟨found, given⟩
    exact absurd shape (delimited.ne_encodeAll_of_cut some_byte cut raws others)

theorem ReadsGroups.isReadBy {size : Nat} {ofGroup : Bytes → Except SiError α}
    (reads : format.ReadsGroups size ofGroup) (positive : 0 < size) (make : List α → Descriptor) :
    format.IsReadBy (DescriptorReader.of make fun payload => (payload.groups size positive).mapM ofGroup) make :=
  (reads.readsLists positive).isReadBy (reads.isSelfDelimiting positive) make

theorem ReadsEntries.isReadBy {readAt : Bytes → Nat → Except SiError (α × Nat)}
    (reads : format.ReadsEntries readAt) (positive : ∀ raw, 0 < (format.encode raw).length)
    (make : List α → Descriptor) :
    format.IsReadBy (DescriptorReader.of make fun payload => payload.readEntries readAt 0) make :=
  (reads.readsLists positive).isReadBy (reads.isSelfDelimiting positive) make

end EntryFormat

/-- The descriptors of services, of channel numbers, of channels and of regions are the lists of their entries, and
nothing but these is accepted. -/
theorem Platform.reads_lists_of_whole_entries [HanDecoders] :
    (∀ kind, ServiceListEntry.format.IsReadBy
      (fun payload => (ofKind kind).table.read ⟨0x41, payload⟩) .serviceList) ∧
    LogicalChannel.format.IsReadBy (fun payload => freeview.table.read ⟨0x83, payload⟩) .logicalChannels ∧
    FreesatChannel.format.IsReadBy (fun payload => freesat.table.read ⟨0xD3, payload⟩) .freesatChannels ∧
    FreesatRegion.format.IsReadBy (fun payload => freesat.table.read ⟨0xD4, payload⟩) .freesatRegions := by
  refine ⟨?services, ?numbers, ?channels, ?regions⟩
  case services =>
    have lists := ServiceListEntry.readsGroups.isReadBy (by decide) .serviceList
    intro kind
    -- no platform has another reader for services
    cases kind <;> exact lists
  case numbers => exact LogicalChannel.readsGroups.isReadBy (by decide) .logicalChannels
  case channels => exact FreesatChannel.readsEntries.isReadBy FreesatChannel.encode_positive .freesatChannels
  case regions => exact FreesatRegion.readsEntries.isReadBy FreesatRegion.encode_positive .freesatRegions

namespace NumberedChannel

open scoped HanDecoders

def raw : RawFreesatChannel where
  serviceId := 101
  reserved := Fin.last 1
  freesatId := 0x123
  numbers := [⟨Fin.last 15, 101, 0xFFFF⟩, ⟨Fin.last 15, 106, 12⟩]
  short := by decide

def payload : Bytes := [0x00, 0x65, 0x81, 0x23, 0x08, 0xF0, 0x65, 0xFF, 0xFF, 0xF0, 0x6A, 0x00, 0x0C]

/-! The channel is read without its reserved bits; after it four bytes of another one are refused with the whole. -/

theorem read_whole_and_refused_cut :
    Platform.freesat.table.read ⟨0xD3, payload⟩ = .ok (some (.freesatChannels
      [{ serviceId := 101, freesatId := 0x123, numbers := [⟨101, 0xFFFF⟩, ⟨106, 12⟩] }])) ∧
    ∃ error, Platform.freesat.table.read ⟨0xD3, payload ++ [0x00, 0x65, 0x81, 0x23]⟩ = .error error := by
  obtain ⟨-, -, channels, -⟩ := Platform.reads_lists_of_whole_entries
  have shape : FreesatChannel.format.encodeAll [raw] = payload := by decide
  have whole := channels.written [raw]
  have cut := channels.refuses_cut [raw] raw 4 (by decide) (by decide)
  rw [shape] at whole cut
  exact ⟨whole, cut⟩

end NumberedChannel

end DvbScan
