import DvbScan.Proofs.CheckedSections
import DvbScan.Proofs.CheckedTunings

/-!
# Nothing that is received stops the machine

Whatever bytes are received, a machine that reads them ends, and gives what the readers of this library give: a
value, or the reason why the bytes are refused. No index or slice is out of range, nothing that is computed leaves
its word, and no loop goes on for ever. The same holds of the tunings that are announced, of their keys and of
their texts.
-/

namespace DvbScan.Machine

/-- For every byte string: it is read as a section, and so are the descriptor loops at all offsets of the section
and the network table and the service table in it, under the table of readers of every platform; it is read as a
loop of descriptors, and as the payload of every descriptor. Every delivery gives its tuning, and every tuning its
key, its description and its line. -/
theorem gives_everything [HanDecoders] (data : Bytes) (fits : data.Fits) :
    (Checked.parseSection data).Gives (Section.parse data) ∧
    (∀ whole, Section.parse data = .ok whole →
      (∀ offset : UInt64,
        (Checked.descriptorsAt whole offset.toNat).Gives (whole.descriptorsAt offset.toNat)) ∧
      ∀ kind,
        (Checked.parseNetwork whole (.ofKind kind)).Gives
          (NetworkSection.parse whole (Platform.ofKind kind).table) ∧
        (Checked.parseService whole (.ofKind kind)).Gives
          (ServiceSection.parse whole (Platform.ofKind kind).table)) ∧
    (∀ kind,
      (Checked.collect (.ofKind kind) data).Gives (.ok ((Platform.ofKind kind).table.readLoop data)) ∧
      ∀ tag, ((CheckedTable.ofKind kind).read ⟨tag, data⟩).Gives
        ((Platform.ofKind kind).table.read ⟨tag, data⟩)) ∧
    ((Checked.decode data).Gives (.ok (BroadcastText.decode data)) ∧
      (Checked.serviceList data).Gives (ServiceListEntry.readList data) ∧
      (Checked.serviceDescriptor data).Gives (ServiceDescriptor.read data) ∧
      (Checked.satelliteDelivery data).Gives (SatelliteDelivery.read data) ∧
      (Checked.terrestrialDelivery data).Gives (TerrestrialDelivery.read data) ∧
      (Checked.t2Delivery data).Gives (T2Delivery.read data) ∧
      (Checked.logicalChannels data).Gives (LogicalChannel.readList data) ∧
      (Checked.freesatChannels data).Gives (FreesatChannel.readList data) ∧
      (Checked.freesatRegions data).Gives (FreesatRegion.readList data)) ∧
    ((∀ delivery, (Checked.satelliteTuning delivery).Gives (.ok delivery.toTuning)) ∧
      (∀ delivery, (Checked.terrestrialTuning delivery).Gives (.ok delivery.toTuning)) ∧
      ∀ delivery, (Checked.t2Tuning? delivery).Gives (.ok delivery.toTuning?)) ∧
    ∀ tuning : Tuning,
      (Checked.equivalence tuning).Gives (.ok tuning.equivalence) ∧
      (Checked.describe tuning).Gives (.ok tuning.describe) ∧
      (Checked.print tuning).Gives (.ok tuning.print) := by
  refine ⟨gives_of (Checked.parseSection_eq fits), fun whole parsed => ⟨fun offset => ?_, fun kind => ⟨?_, ?_⟩⟩,
    fun kind => ⟨?_, fun tag => ?_⟩, ?_, ?_, fun tuning => ⟨?_, ?_, ?_⟩⟩
  · exact gives_of (Checked.descriptorsAt_eq (Section.isFramed_of_parse parsed) _)
  · exact gives_of (Checked.parseNetwork_eq (Section.isFramed_of_parse parsed) (CheckedTable.agrees_ofKind kind))
  · exact gives_of (Checked.parseService_eq (Section.isFramed_of_parse parsed) (CheckedTable.agrees_ofKind kind))
  · exact gives_of (Checked.collect_eq (CheckedTable.agrees_ofKind kind) fits)
  · exact gives_of (CheckedTable.read_eq (CheckedTable.agrees_ofKind kind) fits)
  · refine ⟨gives_of (Checked.decode_eq data), gives_of (Checked.serviceList_eq fits),
      gives_of (Checked.serviceDescriptor_eq fits), gives_of (Checked.satelliteDelivery_eq fits),
      gives_of (Checked.terrestrialDelivery_eq fits), gives_of (Checked.t2Delivery_eq fits),
      gives_of (Checked.logicalChannels_eq fits), gives_of (Checked.freesatChannels_eq fits),
      gives_of (Checked.freesatRegions_eq fits)⟩
  · exact ⟨fun delivery => gives_of (Checked.ofPairs_eq _), fun delivery => gives_of (Checked.ofPairs_eq _),
      fun delivery => gives_of (Checked.t2Tuning?_eq delivery)⟩
  · exact gives_of (Checked.equivalence_eq tuning)
  · exact gives_of (Checked.describe_eq tuning)
  · exact gives_of (Checked.print_eq tuning)

/-! The largest digits, in which the frequency and the symbol rate are as large as they can be, and the last offset
that a word can hold. -/

namespace LargestWords

open scoped HanDecoders

def digits : Bytes := List.replicate 11 0xFF

def delivery : SatelliteDelivery where
  frequency := 1666666650
  orbitalPosition := 16665
  east := true
  polarization := .right
  rolloff := .auto
  secondGeneration := true
  modulation := .qam16
  symbolRate := 1666666500
  codeRate := .none

def whole : Section where
  header := ⟨0x42, 9, 0x1004, 0, true, 0, 0⟩
  bytes := [0x42, 0xF0, 0x09, 0x10, 0x04, 0xC1, 0x00, 0x00, 0xDE, 0xAD, 0xBE, 0xEF]

theorem gives_largest_words :
    digits.Fits ∧ (Checked.satelliteDelivery digits).Gives (.ok delivery) ∧
      whole.bytes.Fits ∧ Section.parse whole.bytes = .ok whole ∧
      (Checked.descriptorsAt whole 18446744073709551615).Gives
        (.error (.truncated 18446744073709551615 2 12)) := by
  have small : digits.Fits := by decide
  obtain ⟨-, -, -, ⟨-, -, -, satellite, -⟩, -⟩ := gives_everything digits small
  rw [show SatelliteDelivery.read digits = .ok delivery by decide] at satellite
  have framed : Section.parse whole.bytes = .ok whole := by decide
  have fits : whole.bytes.Fits := by decide
  obtain ⟨-, sections, -⟩ := gives_everything whole.bytes fits
  have last := (sections whole framed).1 18446744073709551615
  rw [show whole.descriptorsAt (18446744073709551615 : UInt64).toNat =
    .error (.truncated 18446744073709551615 2 12) by decide] at last
  exact ⟨small, satellite, fits, framed, last⟩

end LargestWords

end DvbScan.Machine
