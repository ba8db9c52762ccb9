import DvbScan.Proofs.Result
import DvbScan.Proofs.TuningFields
import DvbScan.Si.Descriptor.Delivery

/-!
# Lines for transponders

The line of a transponder tells the downlink that leads to its intermediate frequency, and one polarization
for each voltage. It is read as a transponder with the same properties.
-/

namespace DvbScan

namespace Converter

/-- The downlink that a converter turns into the same intermediate frequency. It differs only where the
announced one lies below the oscillator. -/
def normalize (frequency : UInt32) : UInt32 :=
  downlink (tone frequency) (intermediate frequency)

theorem tone_eq (frequency : UInt32) :
    tone frequency = if frequency.toNat < 11700000 then .off else .on := rfl

theorem toNat_normalize (frequency : UInt32) :
    (normalize frequency).toNat = max frequency.toNat 9750000 := by
  have bound := frequency.toNat_lt
  have low : lowOscillator.toNat = 9750000 := rfl
  have high : highOscillator.toNat = 10600000 := rfl
  unfold normalize downlink intermediate
  rw [tone_eq]
  by_cases band : frequency.toNat < 11700000
  · simp only [band, if_true, oscillator, low, UInt32.toNat_ofNat', UInt32.size]
    omega
  · simp only [band, if_false, oscillator, high, UInt32.toNat_ofNat', UInt32.size]
    omega

theorem tone_normalize (frequency : UInt32) : tone (normalize frequency) = tone frequency := by
  rw [tone_eq, tone_eq, toNat_normalize]
  by_cases band : frequency.toNat < 11700000
  · rw [if_pos band, if_pos (by omega)]
  · rw [if_neg band, if_neg (by omega)]

theorem intermediate_normalize (frequency : UInt32) :
    intermediate (normalize frequency) = intermediate frequency := by
  have low : lowOscillator.toNat = 9750000 := rfl
  unfold intermediate
  rw [tone_normalize, toNat_normalize, tone_eq]
  congr 1
  by_cases band : frequency.toNat < 11700000
  · rw [if_pos band]
    simp only [oscillator, low]
    omega
  · rw [if_neg band]
    omega

end Converter

namespace Transponder

/-- A transponder that a line can tell: of the first generation, or of the second with roll-off and
modulation both known or both left out. -/
inductive IsRegular (transponder : Transponder) : Prop where
  | first (system : transponder.system = .dvbS) (rolloff : transponder.rolloff = none)
      (modulation : transponder.modulation = none)
  | plain (system : transponder.system = .dvbS2) (rolloff : transponder.rolloff = none)
      (modulation : transponder.modulation = none)
  | shaped {r : Rolloff} {m : Modulation} (system : transponder.system = .dvbS2)
      (rolloff : transponder.rolloff = some r) (modulation : transponder.modulation = some m)

theorem IsRegular.satellite {transponder : Transponder} (regular : transponder.IsRegular) :
    transponder.system = .dvbS ∨ transponder.system = .dvbS2 := by
  cases regular with
  | first system => exact .inl system
  | plain system => exact .inr system
  | shaped system => exact .inr system

theorem distinct_properties (transponder : Transponder) :
    Tuning.Distinct transponder.properties := by
  obtain ⟨system, frequency, polarization, symbolRate, codeRate, rolloff, modulation⟩ := transponder
  cases system <;> cases rolloff <;> cases modulation <;>
    simp [Tuning.Distinct, properties, secondGeneration]

/-- What the printed line of a transponder says. Polarizations with one voltage are not told apart, nor are
frequencies below the oscillator. -/
def normalize (transponder : Transponder) : Transponder :=
  { transponder with
    frequency := Converter.normalize transponder.frequency
    polarization :=
      if transponder.polarization.voltage = .v13 then .vertical else .horizontal }

theorem properties_normalize (transponder : Transponder) :
    transponder.normalize.properties = transponder.properties := by
  have voltage : transponder.normalize.polarization.voltage = transponder.polarization.voltage := by
    unfold normalize
    cases transponder.polarization <;> rfl
  have frequency : Converter.intermediate transponder.normalize.frequency =
      Converter.intermediate transponder.frequency :=
    Converter.intermediate_normalize transponder.frequency
  have tone : Converter.tone transponder.normalize.frequency =
      Converter.tone transponder.frequency :=
    Converter.tone_normalize transponder.frequency
  unfold properties
  rw [voltage, frequency, tone]
  rfl

def shape (transponder : Transponder) : List String :=
  match transponder.rolloff, transponder.modulation with
  | some rolloff, some modulation => [Coded.token rolloff, Coded.token modulation]
  | _, _ => []

def fields (transponder : Transponder) : List String :=
  [Decimal.write transponder.frequency.toNat, Coded.token transponder.polarization,
    Decimal.write transponder.symbolRate.toNat, Coded.token transponder.codeRate] ++
    transponder.shape

theorem isToken_of_mem_fields {transponder : Transponder} {field : String}
    (member : field ∈ transponder.fields) : isToken field = true := by
  unfold fields at member
  rcases List.mem_append.mp member with basic | shape
  · simp only [List.mem_cons, List.not_mem_nil, or_false] at basic
    rcases basic with rfl | rfl | rfl | rfl
    · exact Decimal.isToken_write _
    · exact isToken_token _
    · exact Decimal.isToken_write _
    · exact isToken_token _
  · unfold Transponder.shape at shape
    split at shape
    · simp only [List.mem_cons, List.not_mem_nil, or_false] at shape
      rcases shape with rfl | rfl
      · exact isToken_token _
      · exact isToken_token _
    · cases shape

theorem readShape_shape {transponder : Transponder} (regular : transponder.IsRegular) :
    Tuning.readShape transponder.system transponder.shape =
      .ok (transponder.rolloff, transponder.modulation) := by
  unfold shape
  cases regular with
  | first system rolloff modulation =>
    rw [system, rolloff, modulation]
    rfl
  | plain system rolloff modulation =>
    rw [system, rolloff, modulation]
    rfl
  | shaped system rolloff modulation =>
    rw [system, rolloff, modulation]
    simp only [Tuning.readShape, Tuning.Reading.named_token, bind, Except.bind]

theorem readTransponder_fields {transponder : Transponder} (regular : transponder.IsRegular) :
    Tuning.readTransponder (some transponder.system) transponder.fields = .ok transponder := by
  unfold Tuning.readTransponder fields
  simp only [List.cons_append, List.nil_append, Option.getD_some, readShape_shape regular,
    Tuning.Reading.word_write, Tuning.Reading.named_token, bind, Except.bind]

theorem system?_toTuning (transponder : Transponder) :
    transponder.toTuning.system? = some transponder.system :=
  Tuning.named?_ofPairs transponder.distinct_properties (by simp [properties])

theorem downlink_toTuning (transponder : Transponder) :
    transponder.toTuning.downlink = Converter.normalize transponder.frequency := by
  have tone : transponder.toTuning.tone? = some (Converter.tone transponder.frequency) :=
    Tuning.named?_ofPairs transponder.distinct_properties (by simp [properties])
  have frequency : transponder.toTuning.frequency? =
      some (Converter.intermediate transponder.frequency) :=
    Tuning.get?_ofPairs transponder.distinct_properties (by simp [properties])
  unfold Tuning.downlink Tuning.band
  rw [tone, frequency]
  rfl

theorem polarizationToken_toTuning (transponder : Transponder) :
    transponder.toTuning.polarizationToken = Coded.token transponder.normalize.polarization := by
  have voltage : transponder.toTuning.voltage? = some transponder.polarization.voltage :=
    Tuning.named?_ofPairs transponder.distinct_properties (by simp [properties])
  unfold Tuning.polarizationToken normalize
  rw [voltage]
  cases transponder.polarization <;> rfl

theorem shapingTokens_toTuning {transponder : Transponder} (regular : transponder.IsRegular) :
    (if transponder.system = .dvbS2 then transponder.toTuning.shapingTokens else []) =
      transponder.shape := by
  unfold shape
  cases regular with
  | first system rolloff modulation =>
    rw [if_neg (by rw [system]; decide), rolloff]
  | plain system rolloff modulation =>
    have absent : transponder.toTuning.named? .rolloff Rolloff = none := by
      unfold Tuning.named?
      rw [toTuning, Tuning.get?_ofPairs_of_absent transponder.distinct_properties (by decide)]
      · rfl
      · simp [properties, secondGeneration, system, rolloff, modulation]
    rw [if_pos system, Tuning.shapingTokens, absent, rolloff]
  | @shaped r m system rolloff modulation =>
    have rolls : transponder.toTuning.named? .rolloff Rolloff = some r :=
      Tuning.named?_ofPairs transponder.distinct_properties
        (by simp [properties, secondGeneration, system, rolloff])
    have modulates : transponder.toTuning.named? .modulation Modulation = some m :=
      Tuning.named?_ofPairs transponder.distinct_properties
        (by simp [properties, secondGeneration, system, modulation])
    rw [if_pos system, Tuning.shapingTokens, rolls, modulates, rolloff, modulation]

theorem tokens_toTuning {transponder : Transponder} (regular : transponder.IsRegular) :
    transponder.toTuning.tokens =
      Coded.token transponder.system :: transponder.normalize.fields := by
  have symbolRate : transponder.toTuning.numeralOf .symbolRate =
      Decimal.write transponder.symbolRate.toNat :=
    Tuning.numeralOf_ofPairs transponder.distinct_properties (by simp [properties])
  have codeRate : transponder.toTuning.tokenOf .innerFec CodeRate =
      Coded.token transponder.codeRate :=
    Tuning.tokenOf_ofPairs transponder.distinct_properties (by simp [properties])
  have line : transponder.toTuning.satelliteTokens transponder.system =
      Coded.token transponder.system :: transponder.normalize.fields := by
    unfold Tuning.satelliteTokens
    rw [shapingTokens_toTuning regular, downlink_toTuning, polarizationToken_toTuning, symbolRate,
      codeRate]
    rfl
  rw [← line]
  unfold Tuning.tokens
  rw [system?_toTuning]
  rcases regular.satellite with first | second
  · rw [first]
  · rw [second]

theorem regular_normalize {transponder : Transponder} (regular : transponder.IsRegular) :
    transponder.normalize.IsRegular := by
  cases regular with
  | first system rolloff modulation => exact .first system rolloff modulation
  | plain system rolloff modulation => exact .plain system rolloff modulation
  | shaped system rolloff modulation => exact .shaped system rolloff modulation

theorem readTokens_fields {transponder : Transponder} (regular : transponder.IsRegular) :
    Tuning.readTokens (Coded.token transponder.system :: transponder.fields) =
      .ok transponder.toTuning := by
  have fields := readTransponder_fields regular
  rcases regular.satellite with first | second
  · rw [first] at fields ⊢
    change (Tuning.readTransponder (some .dvbS) transponder.fields).map Transponder.toTuning = _
    rw [fields]
    rfl
  · rw [second] at fields ⊢
    change (Tuning.readTransponder (some .dvbS2) transponder.fields).map Transponder.toTuning = _
    rw [fields]
    rfl

theorem parse_print {transponder : Transponder} (regular : transponder.IsRegular) :
    Tuning.parse transponder.toTuning.print = .ok transponder.toTuning := by
  have clean : ∀ token ∈ Coded.token transponder.system :: transponder.normalize.fields,
      isToken token = true := by
    intro token member
    rcases List.mem_cons.mp member with rfl | field
    · exact isToken_token _
    · exact isToken_of_mem_fields field
  have same : transponder.normalize.toTuning = transponder.toTuning := by
    rw [toTuning, toTuning, properties_normalize]
  have read := readTokens_fields (regular_normalize regular)
  rw [same] at read
  unfold Tuning.print
  rw [tokens_toTuning regular]
  exact Tuning.parse_intercalate clean read

theorem shape_of_readShape {system : DeliverySystem} {extension : List String}
    {shape : Option Rolloff × Option Modulation} (read : Tuning.readShape system extension = .ok shape) :
    shape = (none, none) ∨
      system = .dvbS2 ∧ ∃ rolloff modulation, shape = (some rolloff, some modulation) := by
  unfold Tuning.readShape at read
  split at read
  · cases read
  · obtain ⟨rolloff, -, rest⟩ := bind_eq_ok.mp read
    obtain ⟨modulation, -, made⟩ := bind_eq_ok.mp rest
    cases made
    exact .inr ⟨rfl, rolloff, modulation, rfl⟩
  · cases read
    exact .inl rfl

theorem regular_of_readTransponder {system? : Option DeliverySystem} {fields : List String}
    {transponder : Transponder}
    (known : ∀ system, system? = some system → system = .dvbS ∨ system = .dvbS2)
    (read : Tuning.readTransponder system? fields = .ok transponder) : transponder.IsRegular := by
  unfold Tuning.readTransponder at read
  split at read
  next extension =>
    simp only at read
    obtain ⟨⟨rolloff, modulation⟩, shaped, rest⟩ := bind_eq_ok.mp read
    obtain ⟨frequency, -, rest⟩ := bind_eq_ok.mp rest
    obtain ⟨polarization, -, rest⟩ := bind_eq_ok.mp rest
    obtain ⟨symbolRate, -, rest⟩ := bind_eq_ok.mp rest
    obtain ⟨codeRate, -, made⟩ := bind_eq_ok.mp rest
    cases made
    have satellite : system?.getD (if extension.isEmpty then .dvbS else .dvbS2) = .dvbS ∨
        system?.getD (if extension.isEmpty then .dvbS else .dvbS2) = .dvbS2 := by
      cases system? with
      | none => cases extension <;> simp
      | some system => exact known system rfl
    rcases shape_of_readShape shaped with plain | ⟨second, r, m, both⟩
    · cases plain
      rcases satellite with first | second
      · exact .first first rfl rfl
      · exact .plain second rfl rfl
    · cases both
      exact .shaped second rfl rfl
  next => cases read

end Transponder

theorem SatelliteDelivery.regular_transponder (delivery : SatelliteDelivery) :
    delivery.transponder.IsRegular := by
  unfold transponder
  cases delivery.secondGeneration with
  | false => exact .first rfl rfl rfl
  | true => exact .shaped rfl rfl rfl

end DvbScan
