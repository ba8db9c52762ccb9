import DvbScan.Proofs.MultiplexLine
import DvbScan.Proofs.TransponderLine

/-!
# Tunings are read back

The line that is printed for a tuning is read as the same list of properties, for every tuning that is read
from a line or taken from a delivery descriptor.
-/

namespace DvbScan

namespace Tuning

inductive IsRegular : Tuning → Prop where
  | transponder {transponder : Transponder} (regular : transponder.IsRegular) :
    IsRegular transponder.toTuning
  | multiplex {multiplex : Multiplex} (regular : multiplex.IsRegular) :
    IsRegular multiplex.toTuning

theorem regular_of_readTokens {tokens : List String} {tuning : Tuning}
    (read : readTokens tokens = .ok tuning) : IsRegular tuning := by
  unfold readTokens at read
  split at read
  · cases read
  · split at read
    · obtain ⟨transponder, made, rfl⟩ := map_eq_ok read
      exact .transponder (Transponder.regular_of_readTransponder (by simp) made)
    · obtain ⟨transponder, made, rfl⟩ := map_eq_ok read
      exact .transponder (Transponder.regular_of_readTransponder (by simp) made)
    · obtain ⟨transponder, made, rfl⟩ := map_eq_ok read
      exact .transponder (Transponder.regular_of_readTransponder (by simp) made)
    · obtain ⟨multiplex, made, rfl⟩ := map_eq_ok read
      exact .multiplex (Multiplex.regular_of_readFirstGeneration made)
    · obtain ⟨multiplex, made, rfl⟩ := map_eq_ok read
      exact .multiplex (Multiplex.regular_of_readFirstGeneration made)
    · obtain ⟨multiplex, made, rfl⟩ := map_eq_ok read
      exact .multiplex (Multiplex.regular_of_readSecondGeneration made)
    · cases read

theorem regular_of_parse {text : String} {tuning : Tuning} (read : parse text = .ok tuning) :
    IsRegular tuning := by
  unfold parse at read
  rcases tokens : readTokens (significantTokens text) with failure | found
  · rw [tokens] at read
    cases read
  · rw [tokens] at read
    cases read
    exact regular_of_readTokens tokens

end Tuning

theorem T2Delivery.regular_toTuning? {payload : Bytes} {delivery : T2Delivery} {tuning : Tuning}
    (read : T2Delivery.read payload = .ok delivery) (known : delivery.toTuning? = some tuning) :
    tuning.IsRegular := by
  unfold T2Delivery.read at read
  obtain ⟨pipe, -, rest⟩ := bind_eq_ok.mp read
  obtain ⟨systemId, -, rest⟩ := bind_eq_ok.mp rest
  unfold T2Delivery.toTuning? at known
  obtain ⟨details, found, known⟩ := Option.bind_eq_some_iff.mp known
  obtain ⟨frequency, -, tuned⟩ := Option.bind_eq_some_iff.mp known
  obtain rfl := Option.some.inj tuned
  simp only at rest
  split at rest
  next =>
    obtain ⟨details?, detailed, made⟩ := bind_eq_ok.mp rest
    obtain ⟨read, parsed, same⟩ := map_eq_ok detailed
    cases same
    cases made
    cases found
    exact .multiplex (.second rfl rfl (writable_of_readDetails parsed))
  next =>
    -- a payload of identifiers alone has no details
    cases rest
    cases found

namespace Tuning

/-- A tuning that is read from a line or taken from the payload of a delivery descriptor. -/
inductive Announced : Tuning → Prop where
  | line {text : String} {tuning : Tuning} (read : parse text = .ok tuning) : Announced tuning
  | satellite {payload : Bytes} {delivery : SatelliteDelivery}
      (read : SatelliteDelivery.read payload = .ok delivery) : Announced delivery.toTuning
  | terrestrial {payload : Bytes} {delivery : TerrestrialDelivery}
      (read : TerrestrialDelivery.read payload = .ok delivery) : Announced delivery.toTuning
  | secondGeneration {payload : Bytes} {delivery : T2Delivery} {tuning : Tuning}
      (read : T2Delivery.read payload = .ok delivery) (known : delivery.toTuning? = some tuning) :
      Announced tuning

theorem Announced.isRegular {tuning : Tuning} (announced : Announced tuning) : IsRegular tuning := by
  cases announced with
  | line read => exact regular_of_parse read
  | @satellite payload delivery read => exact .transponder delivery.regular_transponder
  | terrestrial read => exact .multiplex (TerrestrialDelivery.regular_multiplex read)
  | secondGeneration read known => exact T2Delivery.regular_toTuning? read known

/-- The line that is printed for an announced tuning is read as the same properties in the same order with
the same values. -/
theorem parse_print_announced {tuning : Tuning} (announced : Announced tuning) :
    parse tuning.print = .ok tuning := by
  cases announced.isRegular with
  | transponder regular => exact Transponder.parse_print regular
  | multiplex regular => exact Multiplex.parse_print regular

theorem parse_print_satellite_line :
    ∃ tuning, parse "s 11778000 l +27500000 2/3 25 8psk # full band" = .ok tuning ∧
      tuning.print = "S2 11778000 H 27500000 2/3 25 8PSK" ∧ parse tuning.print = .ok tuning := by
  let transponder : Transponder :=
    { system := .dvbS2, frequency := 11778000, polarization := .left, symbolRate := 27500000
      codeRate := .fec2_3, rolloff := some .r25, modulation := some .psk8 }
  have read : parse "s 11778000 l +27500000 2/3 25 8psk # full band" = .ok transponder.toTuning := by
    decide +kernel
  exact ⟨transponder.toTuning, read, by decide +kernel, parse_print_announced (.line read)⟩

end Tuning

end DvbScan
