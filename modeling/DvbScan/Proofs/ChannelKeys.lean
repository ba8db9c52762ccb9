import DvbScan.Proofs.MultiplexLine
import DvbScan.Proofs.PropertyOrder
import DvbScan.Proofs.TransponderLine
import DvbScan.Proofs.TuneOnce
import DvbScan.Tuning.Equivalence
import Mathlib.Data.Nat.Dist

/-!
# What a key tells of a channel

The parts of a key do not overlap, so a key tells the family, the tone and the voltage of a tuning, and the step of
2 MHz in which its frequency lies. Tunings with one key are therefore less than 2 MHz apart. The steps are fixed:
tunings that are nearer to each other have one key unless an edge between two steps lies between them.
-/

namespace DvbScan

namespace Tuning

variable {first second : Tuning}

def programmed (tuning : Tuning) : Nat :=
  (tuning.frequency?.getD 0).toNat

def stepWidth : Option DeliveryFamily → Nat
  | some .satellite => 2000
  | some .terrestrial | none => 2000000

theorem frequencyBucket_eq (tuning : Tuning) :
    tuning.frequencyBucket = tuning.programmed / stepWidth tuning.family? := by
  unfold frequencyBucket
  rw [Nat.div_div_eq_div_mul]
  rcases tuning.family? with _ | _ | _ <;> rfl

theorem familyNumber_injective : Function.Injective familyNumber := by
  intro family other same
  rcases family with _ | _ | _ <;> rcases other with _ | _ | _ <;> first | rfl | cases same

/-- Each part of a key is below the next one. -/
theorem parts_of_equivalence (same : first.equivalence = second.equivalence) :
    familyNumber first.family? = familyNumber second.family? ∧
      (Coded.code first.effectiveTone).toNat = (Coded.code second.effectiveTone).toNat ∧
      (Coded.code first.effectiveVoltage).toNat = (Coded.code second.effectiveVoltage).toNat ∧
      first.frequencyBucket = second.frequencyBucket := by
  have tones (tone : Tone) : (Coded.code tone).toNat ≤ 1 := by cases tone <;> decide
  have voltages (voltage : Voltage) : (Coded.code voltage).toNat ≤ 2 := by cases voltage <;> decide
  have tone := tones first.effectiveTone
  have tone' := tones second.effectiveTone
  have voltage := voltages first.effectiveVoltage
  have voltage' := voltages second.effectiveVoltage
  have bucket := first.frequencyBucket_lt
  have bucket' := second.frequencyBucket_lt
  have values := congrArg EquivalenceKey.value same
  simp only [equivalence, UInt32.size] at values bucket bucket'
  omega

theorem equivalence_eq_iff : first.equivalence = second.equivalence ↔
    first.family? = second.family? ∧ first.effectiveTone = second.effectiveTone ∧
      first.effectiveVoltage = second.effectiveVoltage ∧
      first.programmed / stepWidth first.family? = second.programmed / stepWidth second.family? := by
  rw [← frequencyBucket_eq, ← frequencyBucket_eq]
  constructor
  · intro same
    obtain ⟨family, tone, voltage, bucket⟩ := parts_of_equivalence same
    exact ⟨familyNumber_injective family, code_injective (UInt32.toNat_inj.mp tone),
      code_injective (UInt32.toNat_inj.mp voltage), bucket⟩
  · intro ⟨family, tone, voltage, bucket⟩
    unfold equivalence
    rw [family, tone, voltage, bucket]

theorem isEquivalent_iff : first.isEquivalent second = true ↔ first.equivalence = second.equivalence := by
  unfold isEquivalent
  exact beq_iff_eq

theorem dist_lt_of_div_eq {width low high : Nat} (positive : 0 < width) (same : low / width = high / width) :
    Nat.dist low high < width := by
  have lows := Nat.div_add_mod low width
  have highs := Nat.div_add_mod high width
  have below := Nat.mod_lt low positive
  have above := Nat.mod_lt high positive
  rw [same] at lows
  unfold Nat.dist
  omega

theorem stepWidth_pos (family : Option DeliveryFamily) : 0 < stepWidth family := by
  rcases family with _ | _ | _ <;> decide

theorem dist_programmed_lt (same : first.equivalence = second.equivalence) :
    Nat.dist first.programmed second.programmed < stepWidth first.family? := by
  obtain ⟨family, -, -, step⟩ := equivalence_eq_iff.mp same
  rw [← family] at step
  exact dist_lt_of_div_eq (stepWidth_pos _) step

theorem toNat_downlink (tuning : Tuning) :
    tuning.downlink.toNat =
      min (tuning.programmed + (Converter.oscillator tuning.band).toNat) (UInt32.size - 1) := by
  unfold downlink Converter.downlink programmed
  rw [UInt32.toNat_ofNat']
  apply Nat.mod_eq_of_lt
  simp only [UInt32.size]
  omega

theorem dist_downlink_lt (same : first.equivalence = second.equivalence)
    (satellite : first.family? = some .satellite) :
    first.band = second.band ∧ Nat.dist first.downlink.toNat second.downlink.toNat < 2000 := by
  have band : first.band = second.band := (equivalence_eq_iff.mp same).2.1
  have near := dist_programmed_lt same
  rw [satellite] at near
  refine ⟨band, ?_⟩
  rw [toNat_downlink, toNat_downlink, ← band]
  simp only [Nat.dist, stepWidth] at near ⊢
  omega

theorem named?_set_self {α : Type} [Coded α] [LawfulCoded α] (tuning : Tuning) (key : PropertyKey) (value : α) :
    (tuning.set key (Coded.code value)).named? key α = some value := by
  unfold named?
  rw [get?_set_self]
  exact ofCode?_code value

theorem equivalence_ne_of_voltage (different : first.effectiveVoltage ≠ second.effectiveVoltage) :
    first.equivalence ≠ second.equivalence :=
  fun same => different (equivalence_eq_iff.mp same).2.2.1

end Tuning

namespace Transponder

variable {first second : Transponder}

theorem family?_toTuning (transponder : Transponder) :
    transponder.toTuning.family? = some transponder.system.family := by
  unfold Tuning.family?
  rw [system?_toTuning]
  rfl

theorem effectiveVoltage_toTuning (transponder : Transponder) :
    transponder.toTuning.effectiveVoltage = transponder.polarization.voltage := by
  have voltage : transponder.toTuning.voltage? = some transponder.polarization.voltage :=
    Tuning.named?_ofPairs transponder.distinct_properties (by simp [properties])
  unfold Tuning.effectiveVoltage
  rw [voltage]
  rfl

theorem band_toTuning (transponder : Transponder) :
    transponder.toTuning.band = Converter.tone transponder.frequency := by
  have tone : transponder.toTuning.tone? = some (Converter.tone transponder.frequency) :=
    Tuning.named?_ofPairs transponder.distinct_properties (by simp [properties])
  unfold Tuning.band
  rw [tone]
  rfl

theorem toNat_downlink_toTuning (transponder : Transponder)
    (above : Converter.lowOscillator ≤ transponder.frequency) :
    transponder.toTuning.downlink.toNat = transponder.frequency.toNat := by
  have low : 9750000 ≤ transponder.frequency.toNat := UInt32.le_iff_toNat_le.mp above
  rw [downlink_toTuning, Converter.toNat_normalize]
  exact Nat.max_eq_left low

/-- From the lower oscillator on the downlink of a tuning is the one that was announced, so what is said of tunings
with one key holds of announced transponders. -/
theorem near_of_equivalence (satellite : first.system.family = .satellite)
    (above : Converter.lowOscillator ≤ first.frequency) (above' : Converter.lowOscillator ≤ second.frequency)
    (same : first.toTuning.equivalence = second.toTuning.equivalence) :
    first.polarization.voltage = second.polarization.voltage ∧
      Converter.tone first.frequency = Converter.tone second.frequency ∧
      Nat.dist first.frequency.toNat second.frequency.toNat < 2000 := by
  have family : first.toTuning.family? = some .satellite := by rw [family?_toTuning, satellite]
  have voltage := (Tuning.equivalence_eq_iff.mp same).2.2.1
  obtain ⟨band, near⟩ := Tuning.dist_downlink_lt same family
  rw [effectiveVoltage_toTuning, effectiveVoltage_toTuning] at voltage
  rw [band_toTuning, band_toTuning] at band
  rw [toNat_downlink_toTuning first above, toNat_downlink_toTuning second above'] at near
  exact ⟨voltage, band, near⟩

end Transponder

namespace Tuning

/-- Tunings have one key if and only if they agree in the family, in the tone and the voltage in effect, and in the
step of their frequency. So tunings with one key have one family and lie within 2 MHz; those of satellites have one
voltage and one band too, and their downlinks lie within 2 MHz, as do those that are announced for transponders, from
the lower oscillator on. The other polarization is always another key. -/
theorem equivalence_exact (first second : Tuning) :
    (first.equivalence = second.equivalence ↔
      first.family? = second.family? ∧ first.effectiveTone = second.effectiveTone ∧
        first.effectiveVoltage = second.effectiveVoltage ∧
        first.programmed / stepWidth first.family? = second.programmed / stepWidth second.family?) ∧
    (first.equivalence = second.equivalence → first.family? = some .satellite →
      first.effectiveVoltage = second.effectiveVoltage ∧ first.band = second.band ∧
        Nat.dist first.downlink.toNat second.downlink.toNat < 2000) ∧
    (first.equivalence = second.equivalence → first.family? = some .terrestrial →
      Nat.dist first.programmed second.programmed < 2000000) ∧
    (first.family? ≠ second.family? → first.isEquivalent second = false) ∧
    (first.set .voltage (Coded.code Polarization.horizontal.voltage)).equivalence ≠
      (first.set .voltage (Coded.code Polarization.vertical.voltage)).equivalence ∧
    (∀ transponder other : Transponder, transponder.system.family = .satellite →
      Converter.lowOscillator ≤ transponder.frequency → Converter.lowOscillator ≤ other.frequency →
      transponder.toTuning.equivalence = other.toTuning.equivalence →
      transponder.polarization.voltage = other.polarization.voltage ∧
        Converter.tone transponder.frequency = Converter.tone other.frequency ∧
        Nat.dist transponder.frequency.toNat other.frequency.toNat < 2000) ∧
    ∀ transponder : Transponder,
      { transponder with polarization := .horizontal }.toTuning.equivalence ≠
        { transponder with polarization := .vertical }.toTuning.equivalence := by
  refine ⟨equivalence_eq_iff, ?_, ?_, ?_, ?_, ?_, ?_⟩
  · intro same satellite
    exact ⟨(equivalence_eq_iff.mp same).2.2.1, dist_downlink_lt same satellite⟩
  · intro same terrestrial
    have near := dist_programmed_lt same
    rwa [terrestrial] at near
  · intro different
    rw [← Bool.not_eq_true, isEquivalent_iff, equivalence_eq_iff]
    exact fun same => different same.1
  · apply equivalence_ne_of_voltage
    unfold effectiveVoltage voltage?
    rw [named?_set_self, named?_set_self]
    decide
  · exact fun _ _ => Transponder.near_of_equivalence
  · intro transponder
    apply equivalence_ne_of_voltage
    rw [Transponder.effectiveVoltage_toTuning, Transponder.effectiveVoltage_toTuning]
    intro voltage
    cases voltage

end Tuning

/-! A transponder and a multiplex, each announced anew for the second generation. -/

namespace TwoGenerations

def transponder : Transponder := ⟨.dvbS, 11023900, .left, 22000000, .fec3_4, none, none⟩

def transponder2 : Transponder := ⟨.dvbS2, 11023250, .horizontal, 23000000, .fec2_3, some .r25, some .psk8⟩

def multiplex : Tuning := (Multiplex.auto 578000000 8000000).toTuning

def multiplex2 : Tuning := { Multiplex.auto 578166000 8000000 with system := .dvbT2, pipe := some 0 }.toTuning

theorem equivalence_of_generations :
    (transponder.system.family = .satellite ∧ Converter.lowOscillator ≤ transponder.frequency ∧
      Converter.lowOscillator ≤ transponder2.frequency ∧
      transponder.toTuning.equivalence = transponder2.toTuning.equivalence) ∧
    (transponder.polarization.voltage = transponder2.polarization.voltage ∧
      Converter.tone transponder.frequency = Converter.tone transponder2.frequency ∧
      Nat.dist transponder.frequency.toNat transponder2.frequency.toNat < 2000) ∧
    (multiplex.equivalence = multiplex2.equivalence ∧ multiplex.family? = some .terrestrial) ∧
    Nat.dist multiplex.programmed multiplex2.programmed < 2000000 := by
  obtain ⟨-, -, terrestrial, -, -, satellite, -⟩ := Tuning.equivalence_exact multiplex multiplex2
  have family : transponder.system.family = .satellite := rfl
  have above : Converter.lowOscillator ≤ transponder.frequency := by decide
  have above' : Converter.lowOscillator ≤ transponder2.frequency := by decide
  have same : transponder.toTuning.equivalence = transponder2.toTuning.equivalence := by decide
  have same' : multiplex.equivalence = multiplex2.equivalence := by decide
  exact ⟨⟨family, above, above', same⟩, satellite _ _ family above above' same, ⟨same', rfl⟩, terrestrial same' rfl⟩

end TwoGenerations

end DvbScan
