import DvbScan.Proofs.CheckedBytes
import DvbScan.Proofs.SectionLayout

/-!
# Where fields stand

A reader gives a field exactly if the field stands at its offset: what is read is what was written there, and
nothing else is read there.
-/

namespace DvbScan.Bytes

variable {bytes part : Bytes} {offset length value : Nat}

theorem At.drop_eq (stands : bytes.At offset part) :
    bytes.drop offset = part ++ bytes.drop (offset + part.length) := by
  obtain ⟨before, after, rfl, rfl⟩ := stands
  rw [← List.length_append, List.drop_left, List.append_assoc, List.drop_left]

theorem at_of_drop {after : Bytes} (inside : offset ≤ bytes.length)
    (shape : bytes.drop offset = part ++ after) : bytes.At offset part := by
  refine ⟨bytes.take offset, after, ?_, List.length_take_of_le inside⟩
  rw [List.append_assoc, ← shape, List.take_append_drop]

theorem at_zero_iff : bytes.At 0 part ↔ part <+: bytes := by
  constructor
  · intro stands
    exact ⟨_, stands.drop_eq.symm⟩
  · rintro ⟨after, shape⟩
    exact at_of_drop (Nat.zero_le _) shape.symm

theorem field_eq_ok_iff : bytes.field offset length = .ok part ↔ part.length = length ∧ bytes.At offset part := by
  constructor
  · intro read
    refine ⟨length_of_field read, ?_⟩
    obtain ⟨inside, rfl⟩ := field_eq_ok read
    exact at_of_drop (by omega) (List.take_append_drop length (bytes.drop offset)).symm
  · rintro ⟨rfl, stands⟩
    exact stands.field

theorem ofWord_pair (high low : UInt8) : ofWord (256 * high.toNat + low.toNat) = [high, low] := by
  have bound := low.toNat_lt
  have upper : (256 * high.toNat + low.toNat) / 256 = high.toNat := by omega
  have lower : UInt8.ofNat (256 * high.toNat + low.toNat) = low := by
    apply UInt8.toNat_inj.mp
    rw [UInt8.toNat_ofNat']
    omega
  rw [ofWord, upper, lower, UInt8.ofNat_toNat]

theorem number_two_eq_ok_iff :
    bytes.number offset 2 = .ok value ↔ value < 65536 ∧ bytes.At offset (ofWord value) := by
  constructor
  · intro read
    obtain ⟨part, found, rfl⟩ := map_eq_ok read
    obtain ⟨two, stands⟩ := field_eq_ok_iff.mp found
    match part, two, stands with
    | [high, low], _, stands =>
      have sum : bigEndian [high, low] = 256 * high.toNat + low.toNat := by simp [bigEndian]
      have first := high.toNat_lt
      have second := low.toNat_lt
      rw [sum, ofWord_pair]
      exact ⟨by omega, stands⟩
  · rintro ⟨fits, stands⟩
    exact stands.number fits

theorem word8_eq_ok_iff {byte : UInt8} : bytes.word8 offset = .ok byte ↔ bytes.At offset [byte] := by
  constructor
  · intro read
    obtain ⟨value, found, rfl⟩ := map_eq_ok read
    obtain ⟨part, taken, rfl⟩ := map_eq_ok found
    obtain ⟨one, stands⟩ := field_eq_ok_iff.mp taken
    obtain ⟨byte, rfl⟩ := List.length_eq_one_iff.mp one
    simpa [bigEndian] using stands
  · exact At.word8

theorem word16_eq_ok_iff {word : UInt16} :
    bytes.word16 offset = .ok word ↔ bytes.At offset (ofWord word.toNat) := by
  constructor
  · intro read
    obtain ⟨value, found, rfl⟩ := map_eq_ok read
    obtain ⟨fits, stands⟩ := number_two_eq_ok_iff.mp found
    rwa [UInt16.toNat_ofNat_of_lt' fits]
  · exact At.word16

theorem At.word16_ofNat (stands : bytes.At offset (ofWord value)) (fits : value < 65536) :
    bytes.word16 offset = .ok (UInt16.ofNat value) :=
  word16_eq_ok_iff.mpr (by rwa [UInt16.toNat_ofNat_of_lt' fits])

theorem word12_eq_ok_iff : bytes.word12 offset = .ok value ↔
    value < 4096 ∧ ∃ upper : Fin 16, bytes.At offset (ofWord (4096 * upper + value)) := by
  constructor
  · intro read
    obtain ⟨word, found, rfl⟩ := map_eq_ok read
    obtain ⟨fits, stands⟩ := number_two_eq_ok_iff.mp found
    refine ⟨Nat.mod_lt _ (by decide), ⟨word / 4096, by omega⟩, ?_⟩
    rwa [Nat.div_add_mod]
  · rintro ⟨fits, upper, stands⟩
    exact stands.word12 fits

end DvbScan.Bytes
