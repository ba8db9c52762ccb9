import DvbScan.Proofs.CheckedText
import DvbScan.Scan.Platform
import Mathlib.Data.List.Forall2

/-!
# Descriptors on a machine

Every reader of a payload with the operations of a machine. The lists of Freesat are read entry by entry, each
entry as long as it says, until the payload is used up; an entry takes at least five bytes. The frequency and the
symbol rate of a satellite descriptor are the largest numbers that are computed, and both stay below 2 to the 32
whatever the digits are.
-/

namespace DvbScan

open Machine

namespace Checked

/-! ## Lists of groups -/

def pieces (size : Nat) (data : Bytes) : Machine (List Bytes) :=
  if positive : 0 < size then pure (data.groups size positive) else fault .piece

def serviceListEntry (group : Bytes) : Machine ServiceListEntry := do
  let serviceId ← word16 group 0
  let serviceType ← word8 group 2
  pure { serviceId, serviceType }

def serviceList (payload : Bytes) : Machine (List ServiceListEntry) := do
  let groups ← pieces 3 payload
  groups.mapM serviceListEntry

def logicalChannel (group : Bytes) : Machine LogicalChannel := do
  let word ← word16 group 2
  let serviceId ← word16 group 0
  pure { serviceId, number := UInt16.ofNat (word.toNat % 1024), visible := 32768 ≤ word.toNat }

def logicalChannels (payload : Bytes) : Machine (List LogicalChannel) := do
  let groups ← pieces 4 payload
  groups.mapM logicalChannel

def regionalNumber (group : Bytes) : Machine RegionalNumber := do
  let number ← word12 group 0
  let region ← word16 group 2
  pure { number := UInt16.ofNat number, region }

/-! ## Names -/

def serviceDescriptor [HanDecoders] (payload : Bytes) : Machine ServiceDescriptor := do
  let serviceType ← word8 payload 0
  let providerLength ← word8 payload 1
  let provider ← field payload 2 providerLength.toNat
  let nameOffset ← add .size 2 providerLength.toNat
  let nameLength ← word8 payload nameOffset
  let nameStart ← add .size nameOffset 1
  let name ← field payload nameStart nameLength.toNat
  let provider ← decode provider
  let name ← decode name
  pure { serviceType, provider, name }

/-! ## Lists of entries -/

noncomputable def entries {α : Type} (readAt : Bytes → Nat → Machine (α × Nat)) (payload : Bytes) :
    Machine (List α) :=
  gather (fun position => pure (position < payload.length)) (readAt payload) 0

def freesatChannelAt (payload : Bytes) (position : Nat) : Machine (FreesatChannel × Nat) := do
  let serviceId ← word16 payload position
  let place ← add .size position 2
  let freesatId ← word16 payload place
  let place ← add .size position 4
  let length ← word8 payload place
  let place ← add .size position 5
  let pairs ← field payload place length.toNat
  let groups ← pieces 4 pairs
  let numbers ← groups.mapM regionalNumber
  let size ← add .size length.toNat 5
  let next ← add .size position size
  pure ({ serviceId, freesatId := UInt16.ofNat (freesatId.toNat % 32768), numbers }, next)

def freesatRegionAt [HanDecoders] (payload : Bytes) (position : Nat) : Machine (FreesatRegion × Nat) := do
  let region ← word16 payload position
  let place ← add .size position 2
  let language ← field payload place 3
  let place ← add .size position 5
  let length ← word8 payload place
  let place ← add .size position 6
  let name ← field payload place length.toNat
  let name ← decode name
  let size ← add .size length.toNat 6
  let next ← add .size position size
  pure ({ region, language := String.ofList (Utf8.decode language), name }, next)

noncomputable def freesatChannels (payload : Bytes) : Machine (List FreesatChannel) :=
  entries freesatChannelAt payload
noncomputable def freesatRegions [HanDecoders] (payload : Bytes) : Machine (List FreesatRegion) :=
  entries freesatRegionAt payload

/-! ## Delivery -/

def satelliteDelivery (payload : Bytes) : Machine SatelliteDelivery := do
  let codes ← word8 payload 6
  let digits ← decimal32 payload 0
  let frequency ← mul .word digits 10
  let orbitalPosition ← decimal16 payload 4
  let digits ← decimal24 payload 7
  let tens ← mul .word digits 10
  let last ← word8 payload 10
  let hundreds ← add .word tens (bits last 4 4)
  let symbolRate ← mul .word hundreds 100
  let last ← word8 payload 10
  pure {
    frequency := UInt32.ofNat frequency
    orbitalPosition
    east := flag codes 7
    polarization := polarizationOf (bits codes 5 2)
    rolloff := rolloffOf (bits codes 3 2)
    secondGeneration := flag codes 2
    modulation := satelliteModulationOf (bits codes 0 2)
    symbolRate := UInt32.ofNat symbolRate
    codeRate := codeRateOf (bits last 0 4) }

/-- Multiplication by ten stops at the largest word by itself. -/
def terrestrialDelivery (payload : Bytes) : Machine TerrestrialDelivery := do
  let fourth ← word8 payload 4
  let fifth ← word8 payload 5
  let sixth ← word8 payload 6
  let frequency ← word32 payload 0
  let highPriority ← add .byte (bits fifth 0 3) 1
  let lowPriority ← add .byte (bits sixth 5 3) 1
  pure {
    frequency := tenHertz frequency
    bandwidth := bandwidthOf (bits fourth 5 3)
    modulation := terrestrialModulationOf (bits fifth 6 2)
    hierarchy := hierarchyOf (bits fifth 3 2)
    codeRateHp := codeRateOf highPriority
    codeRateLp := codeRateOf lowPriority
    guardInterval := guardIntervalOf (bits sixth 3 2)
    transmissionMode := transmissionModeOf (bits sixth 1 2) }

def t2Details (payload : Bytes) : Machine T2Details := do
  let fourth ← word8 payload 4
  let fifth ← word8 payload 5
  let frequency ← attempt (word32 payload (if flag fifth 0 then 9 else 8))
  pure {
    antennas := bits fourth 6 2
    bandwidth := bandwidthOf (bits fourth 2 4)
    guardInterval := guardIntervalOf (bits fifth 5 3)
    transmissionMode := transmissionModeOf (bits fifth 2 3)
    frequency := frequency.toOption.map tenHertz }

def t2Delivery (payload : Bytes) : Machine T2Delivery := do
  let pipe ← word8 payload 1
  let systemId ← word16 payload 2
  if 4 < payload.length then do
    let details ← t2Details payload
    pure { pipe, systemId, details := some details }
  else pure { pipe, systemId, details := none }

/-! ## Nothing goes wrong in a list -/

variable {payload : Bytes}

theorem fits_of_mem_groups {size : Nat} {positive : 0 < size} {group : Bytes} (fits : payload.Fits)
    (member : group ∈ payload.groups size positive) : group.Fits := by
  induction payload using Bytes.groups.induct size positive with
  | case1 =>
    rw [Bytes.groups] at member
    cases member
  | case2 byte rest ih =>
    rw [Bytes.groups] at member
    rcases List.mem_cons.mp member with rfl | later
    · exact fits.of_le (List.length_take_le' _ _)
    · exact ih (fits.drop size) later

theorem readGroups_eq {α : Type} {size : Nat} (positive : 0 < size) {checked : Bytes → Machine α}
    {plain : Bytes → Except SiError α} (fits : payload.Fits)
    (agree : ∀ group : Bytes, group.Fits → checked group = of (plain group)) :
    (pieces size payload >>= fun groups => groups.mapM checked) =
      of ((payload.groups size positive).mapM plain) := by
  have cut : pieces size payload = pure (payload.groups size positive) := dif_pos positive
  rw [cut, pure_bind]
  exact mapM_of fun group member => agree group (fits_of_mem_groups fits member)

theorem serviceList_eq (fits : payload.Fits) :
    serviceList payload = of (ServiceListEntry.readList payload) := by
  refine readGroups_eq _ fits fun group small => ?_
  unfold serviceListEntry ServiceListEntry.ofGroup
  rw [word16_eq small]
  refine bind_of fun serviceId _ => ?_
  rw [word8_eq small]
  exact bind_of fun serviceType _ => rfl

theorem logicalChannels_eq (fits : payload.Fits) :
    logicalChannels payload = of (LogicalChannel.readList payload) := by
  refine readGroups_eq _ fits fun group small => ?_
  unfold logicalChannel LogicalChannel.ofGroup
  rw [word16_eq small]
  refine bind_of fun word _ => ?_
  rw [word16_eq small]
  exact bind_of fun serviceId _ => rfl

theorem regionalNumber_eq (fits : payload.Fits) :
    regionalNumber payload = of (RegionalNumber.ofGroup payload) := by
  unfold regionalNumber RegionalNumber.ofGroup
  rw [word12_eq fits]
  refine bind_of fun number _ => ?_
  rw [word16_eq fits]
  exact bind_of fun region _ => rfl

theorem serviceDescriptor_eq [HanDecoders] (fits : payload.Fits) :
    serviceDescriptor payload = of (ServiceDescriptor.read payload) := by
  unfold serviceDescriptor ServiceDescriptor.read
  rw [word8_eq fits]
  refine bind_of fun serviceType _ => ?_
  rw [word8_eq fits]
  refine bind_of fun providerLength _ => ?_
  rw [field_eq fits]
  refine bind_of fun provider read => ?_
  have inside := (Bytes.field_eq_ok read).1
  rw [add_size fits (by omega), pure_bind, word8_eq fits]
  refine bind_of fun nameLength read => ?_
  have inside := Bytes.word8_inside read
  rw [add_size fits (by omega), pure_bind, field_eq fits]
  refine bind_of fun name _ => ?_
  rw [decode_eq, pure_bind, decode_eq, pure_bind]
  rfl

/-! ## Every list of entries ends -/

theorem entries_eq {α : Type} {readAt : Bytes → Nat → Machine (α × Nat)}
    {plain : Bytes → Nat → Except SiError (α × Nat)}
    (agree : ∀ position < payload.length, readAt payload position =
      of ((plain payload position).map fun read => (read.1, position + read.2)))
    (onward : ∀ position entry length, plain payload position = .ok (entry, length) →
      0 < length ∧ position + length ≤ payload.length) :
    entries readAt payload = of (payload.readEntries plain 0) := by
  refine gather_of payload.length (fun position _ => rfl)
    (fun position _ more => agree position (of_decide_eq_true more)) ?_ ?_ ?_ (Nat.zero_le _)
  · intro position entry next _ read
    obtain ⟨⟨first, length⟩, taken, same⟩ := map_eq_ok read
    cases same
    have room := onward position first length taken
    omega
  · intro position last
    rw [Bytes.readEntries, if_neg (of_decide_eq_false last)]
  · intro position more
    rw [Bytes.readEntries, if_pos (of_decide_eq_true more)]
    cases read : plain payload position with
    | error reason => rfl
    | ok taken =>
      obtain ⟨entry, length⟩ := taken
      simp only [bind, Except.bind, Except.map]
      rw [if_pos (onward position entry length read).1]

/-- An entry ends within the payload, so that the position behind it is a word. -/
theorem freesatChannelAt_eq (fits : payload.Fits) {position : Nat} (inside : position < payload.length) :
    freesatChannelAt payload position =
      of ((FreesatChannel.readAt payload position).map fun read => (read.1, position + read.2)) := by
  unfold freesatChannelAt FreesatChannel.readAt
  rw [word16_eq fits]
  refine bind_of_map fun serviceId _ => ?_
  rw [add_size fits (by omega), pure_bind, word16_eq fits]
  refine bind_of_map fun freesatId _ => ?_
  rw [add_size fits (by omega), pure_bind, word8_eq fits]
  refine bind_of_map fun length _ => ?_
  rw [add_size fits (by omega), pure_bind, field_eq fits]
  refine bind_of_map fun pairs read => ?_
  have reach := (Bytes.field_eq_ok read).1
  have numbers := readGroups_eq (by decide : 0 < 4) (fits.field read) fun group small =>
    regionalNumber_eq small
  rw [← bind_assoc, numbers]
  refine bind_of_map fun numbers _ => ?_
  rw [add_size fits (by omega), pure_bind, add_size fits (by omega), pure_bind]
  rfl

theorem freesatChannels_eq (fits : payload.Fits) :
    freesatChannels payload = of (FreesatChannel.readList payload) := by
  refine entries_eq (fun position inside => freesatChannelAt_eq fits inside) ?_
  intro position entry length read
  obtain ⟨serviceId, -, read⟩ := bind_eq_ok.mp read
  obtain ⟨freesatId, -, read⟩ := bind_eq_ok.mp read
  obtain ⟨size, -, read⟩ := bind_eq_ok.mp read
  obtain ⟨pairs, last, read⟩ := bind_eq_ok.mp read
  obtain ⟨numbers, -, read⟩ := bind_eq_ok.mp read
  have reach := (Bytes.field_eq_ok last).1
  cases read
  omega

theorem freesatRegionAt_eq [HanDecoders] (fits : payload.Fits) {position : Nat} (inside : position < payload.length) :
    freesatRegionAt payload position =
      of ((FreesatRegion.readAt payload position).map fun read => (read.1, position + read.2)) := by
  unfold freesatRegionAt FreesatRegion.readAt
  rw [word16_eq fits]
  refine bind_of_map fun region _ => ?_
  rw [add_size fits (by omega), pure_bind, field_eq fits]
  refine bind_of_map fun language _ => ?_
  rw [add_size fits (by omega), pure_bind, word8_eq fits]
  refine bind_of_map fun length _ => ?_
  rw [add_size fits (by omega), pure_bind, field_eq fits]
  refine bind_of_map fun name read => ?_
  have reach := (Bytes.field_eq_ok read).1
  rw [decode_eq, pure_bind, add_size fits (by omega), pure_bind, add_size fits (by omega), pure_bind]
  rfl

theorem freesatRegions_eq [HanDecoders] (fits : payload.Fits) :
    freesatRegions payload = of (FreesatRegion.readList payload) := by
  refine entries_eq (fun position inside => freesatRegionAt_eq fits inside) ?_
  intro position entry length read
  obtain ⟨region, -, read⟩ := bind_eq_ok.mp read
  obtain ⟨language, -, read⟩ := bind_eq_ok.mp read
  obtain ⟨size, -, read⟩ := bind_eq_ok.mp read
  obtain ⟨name, last, read⟩ := bind_eq_ok.mp read
  have reach := (Bytes.field_eq_ok last).1
  cases read
  omega

/-! ## No frequency is too large -/

theorem satelliteDelivery_eq (fits : payload.Fits) :
    satelliteDelivery payload = of (SatelliteDelivery.read payload) := by
  unfold satelliteDelivery SatelliteDelivery.read
  rw [word8_eq fits]
  refine bind_of fun codes _ => ?_
  rw [decimal32_eq fits]
  refine bind_of fun frequency read => ?_
  have carrier := (Bytes.decimal32_upTo payload 0 frequency read).2
  rw [mul_word (by omega), pure_bind, decimal16_eq fits]
  refine bind_of fun orbitalPosition _ => ?_
  rw [decimal24_eq fits]
  refine bind_of fun symbols read => ?_
  have rate := (Bytes.decimal24_upTo payload 7 symbols read).2
  rw [mul_word (by omega), pure_bind, word8_eq fits]
  refine bind_of fun last read => ?_
  have digit := Bytes.bits_lt last 4 4
  rw [add_word (by omega), pure_bind, mul_word (by omega), pure_bind, read, of_ok, pure_bind,
    Nat.mul_comm frequency, Nat.mul_comm symbols, Nat.mul_comm (10 * symbols + _)]
  rfl

theorem terrestrialDelivery_eq (fits : payload.Fits) :
    terrestrialDelivery payload = of (TerrestrialDelivery.read payload) := by
  unfold terrestrialDelivery TerrestrialDelivery.read
  rw [word8_eq fits]
  refine bind_of fun fourth _ => ?_
  rw [word8_eq fits]
  refine bind_of fun fifth _ => ?_
  rw [word8_eq fits]
  refine bind_of fun sixth _ => ?_
  rw [word32_eq fits]
  refine bind_of fun frequency _ => ?_
  have high := Bytes.bits_lt fifth 0 3
  have low := Bytes.bits_lt sixth 5 3
  rw [add_eq (by simp only [Width.values, Width.bits]; omega), pure_bind,
    add_eq (by simp only [Width.values, Width.bits]; omega), pure_bind]
  rfl

theorem t2Details_eq (fits : payload.Fits) : t2Details payload = of (T2Delivery.readDetails payload) := by
  unfold t2Details T2Delivery.readDetails
  rw [word8_eq fits]
  refine bind_of fun fourth _ => ?_
  rw [word8_eq fits]
  refine bind_of fun fifth _ => ?_
  rw [word32_eq fits, attempt_of, pure_bind]
  rfl

theorem t2Delivery_eq (fits : payload.Fits) : t2Delivery payload = of (T2Delivery.read payload) := by
  unfold t2Delivery T2Delivery.read
  rw [word8_eq fits]
  refine bind_of fun pipe _ => ?_
  rw [word16_eq fits]
  refine bind_of fun systemId _ => ?_
  by_cases longer : 4 < payload.length
  · rw [if_pos longer, if_pos longer, t2Details_eq fits]
    cases T2Delivery.readDetails payload with
    | error reason => rfl
    | ok details => rfl
  · rw [if_neg longer, if_neg longer]
    rfl

end Checked

/-! ## Tables of readers -/

structure CheckedTable where
  readers : List (UInt8 × (Bytes → Machine (Option Descriptor)))

namespace CheckedTable

def always {α : Type} (make : α → Descriptor) (read : Bytes → Machine α) :
    Bytes → Machine (Option Descriptor) := fun payload => do
  let value ← read payload
  pure (some (make value))

def extension (payload : Bytes) : Machine (Option Descriptor) := do
  let kind ← Checked.word8 payload 0
  if kind = 0x04 then always .t2Delivery Checked.t2Delivery payload else pure none

def standard [HanDecoders] : CheckedTable where
  readers := [
    (0x40, always .networkName Checked.decode),
    (0x41, always .serviceList Checked.serviceList),
    (0x43, always .satelliteDelivery Checked.satelliteDelivery),
    (0x47, always .bouquetName Checked.decode),
    (0x48, always .service Checked.serviceDescriptor),
    (0x5A, always .terrestrialDelivery Checked.terrestrialDelivery),
    (0x7F, extension)]

def adding (table : CheckedTable) (tag : UInt8) (reader : Bytes → Machine (Option Descriptor)) :
    CheckedTable :=
  ⟨(tag, reader) :: table.readers⟩

noncomputable def ofKind [HanDecoders] : PlatformKind → CheckedTable
  | .standard => standard
  | .freeview => standard.adding 0x83 (always .logicalChannels Checked.logicalChannels)
  | .freesat => (standard.adding 0xD3 (always .freesatChannels Checked.freesatChannels)).adding 0xD4
      (always .freesatRegions Checked.freesatRegions)

def read (table : CheckedTable) (raw : RawDescriptor) : Machine (Option Descriptor) :=
  match table.readers.find? fun entry => entry.1 == raw.tag with
  | some entry => entry.2 raw.payload
  | none => pure none

/-- The machine reads every payload as the reader says. -/
def Follows (checked : Bytes → Machine (Option Descriptor)) (plain : DescriptorReader) : Prop :=
  ∀ payload : Bytes, payload.Fits → checked payload = of (plain payload)

theorem follows_always {α : Type} {make : α → Descriptor} {checked : Bytes → Machine α}
    {plain : Bytes → Except SiError α}
    (agree : ∀ payload : Bytes, payload.Fits → checked payload = of (plain payload)) :
    Follows (always make checked) (DescriptorReader.of make plain) := by
  intro payload fits
  unfold always DescriptorReader.of
  rw [agree payload fits, of_map]

theorem follows_extension : Follows extension DescriptorReader.extension := by
  intro payload fits
  unfold extension DescriptorReader.extension
  rw [Checked.word8_eq fits]
  refine bind_of fun kind _ => ?_
  by_cases delivery : kind = 0x04
  · rw [if_pos delivery, if_pos delivery]
    exact follows_always (fun payload fits => Checked.t2Delivery_eq fits) payload fits
  · rw [if_neg delivery, if_neg delivery]
    rfl

def Agrees (checked : CheckedTable) (table : DescriptorTable) : Prop :=
  List.Forall₂ (fun first second => first.1 = second.1 ∧ Follows first.2 second.2)
    checked.readers table.readers

variable {checked : CheckedTable} {table : DescriptorTable}

theorem agrees_standard [HanDecoders] : standard.Agrees .standard := by
  have text (make : String → Descriptor) : Follows (always make Checked.decode)
      fun payload => .ok (some (make (BroadcastText.decode payload))) := by
    intro payload fits
    unfold always
    rw [Checked.decode_eq, pure_bind]
    rfl
  refine .cons ⟨rfl, text .networkName⟩ (.cons ⟨rfl, ?_⟩ (.cons ⟨rfl, ?_⟩
    (.cons ⟨rfl, text .bouquetName⟩ (.cons ⟨rfl, ?_⟩ (.cons ⟨rfl, ?_⟩
      (.cons ⟨rfl, follows_extension⟩ .nil))))))
  · exact follows_always fun payload fits => Checked.serviceList_eq fits
  · exact follows_always fun payload fits => Checked.satelliteDelivery_eq fits
  · exact follows_always fun payload fits => Checked.serviceDescriptor_eq fits
  · exact follows_always fun payload fits => Checked.terrestrialDelivery_eq fits

theorem Agrees.adding (agrees : checked.Agrees table) (tag : UInt8)
    {reader : Bytes → Machine (Option Descriptor)} {plain : DescriptorReader}
    (follows : Follows reader plain) : (checked.adding tag reader).Agrees (table.adding tag plain) :=
  .cons ⟨rfl, follows⟩ agrees

theorem agrees_ofKind [HanDecoders] (kind : PlatformKind) : (ofKind kind).Agrees (Platform.ofKind kind).table := by
  cases kind with
  | standard => exact agrees_standard
  | freeview =>
    exact agrees_standard.adding 0x83 (follows_always fun payload fits => Checked.logicalChannels_eq fits)
  | freesat =>
    exact (agrees_standard.adding 0xD3
      (follows_always fun payload fits => Checked.freesatChannels_eq fits)).adding 0xD4
      (follows_always fun payload fits => Checked.freesatRegions_eq fits)

theorem read_eq (agrees : checked.Agrees table) {raw : RawDescriptor} (fits : raw.payload.Fits) :
    checked.read raw = of (table.read raw) := by
  obtain ⟨readers⟩ := checked
  obtain ⟨plain⟩ := table
  unfold Agrees at agrees
  unfold read DescriptorTable.read DescriptorTable.reader?
  simp only at agrees ⊢
  induction agrees with
  | nil => rfl
  | @cons first second rest others pair later ih =>
    obtain ⟨same, follows⟩ := pair
    by_cases found : first.1 = raw.tag
    · rw [List.find?_cons_of_pos (by simp [found]), List.find?_cons_of_pos (by simp [← same, found])]
      exact follows raw.payload fits
    · rw [List.find?_cons_of_neg (by simp [found]), List.find?_cons_of_neg (by simp [← same, found])]
      exact ih

end CheckedTable

end DvbScan
