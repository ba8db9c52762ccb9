import DvbScan.Proofs.TuningRoundTrip

/-!
# Lines that are told again

The line of a tuning says less than its properties: it gives a downlink and no band, whole MHz of bandwidth, and a
default for what is missing or unknown. Still it is the line of a transponder or of a multiplex, so it is read, and
what is read is told by the same line.
-/

namespace DvbScan

namespace Converter

theorem lowOscillator_le_downlink (tone : Tone) (intermediate : UInt32) :
    9750000 ≤ (downlink tone intermediate).toNat := by
  have oscillates : 9750000 ≤ (oscillator tone).toNat := by cases tone <;> decide
  have size : UInt32.size = 4294967296 := rfl
  have fits : min (intermediate.toNat + (oscillator tone).toNat) (UInt32.size - 1) < UInt32.size := by omega
  rw [downlink, UInt32.toNat_ofNat_of_lt' fits]
  omega

theorem normalize_downlink (tone : Tone) (intermediate : UInt32) :
    normalize (downlink tone intermediate) = downlink tone intermediate := by
  apply UInt32.toNat_inj.mp
  rw [toNat_normalize]
  exact Nat.max_eq_left (lowOscillator_le_downlink tone intermediate)

end Converter

namespace Tuning

variable (tuning : Tuning)

theorem tokenOf_eq {α : Type} [Coded α] {default : α} (automatic : Coded.token default = "AUTO")
    (key : PropertyKey) :
    tuning.tokenOf key α = Coded.token ((tuning.named? key α).getD default) := by
  unfold tokenOf
  cases tuning.named? key α with
  | none => exact automatic.symm
  | some value => rfl

/-- Roll-off and modulation as the line of a system tells them, together or not at all. -/
def toldShape (system : DeliverySystem) : Option (Rolloff × Modulation) :=
  match system, tuning.named? .rolloff Rolloff, tuning.named? .modulation Modulation with
  | .dvbS2, some rolloff, some modulation => some (rolloff, modulation)
  | _, _, _ => none

def toldTransponder (system : DeliverySystem) : Transponder where
  system := system
  frequency := tuning.downlink
  polarization := if tuning.voltage? = some .v13 then .vertical else .horizontal
  symbolRate := (tuning.get? .symbolRate).getD 0
  codeRate := (tuning.named? .innerFec CodeRate).getD .auto
  rolloff := (tuning.toldShape system).map Prod.fst
  modulation := (tuning.toldShape system).map Prod.snd

variable {tuning} {system : DeliverySystem}

theorem regular_toldTransponder (satellite : system = .dvbS ∨ system = .dvbS2) :
    (tuning.toldTransponder system).IsRegular := by
  rcases satellite with rfl | rfl
  · exact .first rfl rfl rfl
  · cases shape : tuning.toldShape .dvbS2 with
    | none => exact .plain rfl (congrArg (Option.map Prod.fst) shape) (congrArg (Option.map Prod.snd) shape)
    | some both => exact .shaped rfl (congrArg (Option.map Prod.fst) shape) (congrArg (Option.map Prod.snd) shape)

theorem shape_toldTransponder (satellite : system = .dvbS ∨ system = .dvbS2) :
    (tuning.toldTransponder system).shape = if system = .dvbS2 then tuning.shapingTokens else [] := by
  rcases satellite with rfl | rfl
  · rfl
  · rw [if_pos rfl]
    unfold Transponder.shape toldTransponder toldShape shapingTokens
    cases tuning.named? .rolloff Rolloff <;> cases tuning.named? .modulation Modulation <;> rfl

theorem polarizationToken_eq :
    tuning.polarizationToken = Coded.token (tuning.toldTransponder system).polarization := by
  unfold polarizationToken toldTransponder
  split
  · rfl
  · rfl

/-- Nothing is lost when the told transponder is told. -/
theorem normalize_toldTransponder :
    (tuning.toldTransponder system).normalize = tuning.toldTransponder system := by
  have frequency : Converter.normalize (tuning.toldTransponder system).frequency =
      (tuning.toldTransponder system).frequency :=
    Converter.normalize_downlink tuning.band _
  have polarization : (if (tuning.toldTransponder system).polarization.voltage = .v13 then
      Polarization.vertical else .horizontal) = (tuning.toldTransponder system).polarization := by
    unfold toldTransponder
    by_cases vertical : tuning.voltage? = some .v13
    · simp only [if_pos vertical]
      rfl
    · simp only [if_neg vertical]
      rfl
  unfold Transponder.normalize
  rw [polarization, frequency]

theorem tokens_toldTransponder (satellite : system = .dvbS ∨ system = .dvbS2) :
    (tuning.toldTransponder system).toTuning.tokens = tuning.satelliteTokens system := by
  have codeRate := tuning.tokenOf_eq (rfl : Coded.token CodeRate.auto = "AUTO") .innerFec
  rw [Transponder.tokens_toTuning (regular_toldTransponder satellite), normalize_toldTransponder]
  unfold satelliteTokens Transponder.fields
  rw [shape_toldTransponder satellite, polarizationToken_eq, codeRate]
  rfl

/-- A bandwidth without what its line leaves out. -/
def toldBandwidth (bandwidth : UInt32) : UInt32 :=
  if bandwidth = 1712000 then bandwidth else UInt32.ofNat (bandwidth.toNat / 1000000 * 1000000)

theorem toNat_toldBandwidth {bandwidth : UInt32} (wide : bandwidth ≠ 1712000) :
    (toldBandwidth bandwidth).toNat = bandwidth.toNat / 1000000 * 1000000 := by
  have bound := bandwidth.toNat_lt_size
  have below := Nat.div_mul_le_self bandwidth.toNat 1000000
  rw [toldBandwidth, if_neg wide, UInt32.toNat_ofNat_of_lt' (below.trans_lt bound)]

theorem writable_toldBandwidth (bandwidth : UInt32) : IsWritable (toldBandwidth bandwidth) := by
  by_cases narrow : bandwidth = 1712000
  · left
    rw [toldBandwidth, if_pos narrow, narrow]
  · right
    rw [toNat_toldBandwidth narrow]
    exact Nat.dvd_mul_left 1000000 _

/-- A bandwidth below one MHz is told as zero MHz, which is read as a bandwidth left to the device. -/
theorem bandwidthToken_toldBandwidth {bandwidth : UInt32}
    (counted : bandwidth = 0 ∨ 1000000 ≤ bandwidth.toNat) :
    bandwidthToken (toldBandwidth bandwidth) = bandwidthToken bandwidth := by
  rcases counted with rfl | large
  · rfl
  · by_cases narrow : bandwidth = 1712000
    · rw [toldBandwidth, if_pos narrow]
    · have value := toNat_toldBandwidth narrow
      have told_wide : toldBandwidth bandwidth ≠ 1712000 := by
        intro same
        rw [same] at value
        change 1712000 = _ at value
        omega
      have told_some : toldBandwidth bandwidth ≠ 0 := by
        intro same
        rw [same] at value
        change 0 = _ at value
        omega
      have some_width : bandwidth ≠ 0 := by
        rintro rfl
        exact absurd large (by decide)
      unfold bandwidthToken
      rw [if_neg told_some, if_neg told_wide, if_neg some_width, if_neg narrow, value,
        Nat.mul_div_cancel _ (by decide)]

variable (tuning) in
def toldMultiplex (system : DeliverySystem) : Multiplex where
  system := system
  frequency := (tuning.get? .frequency).getD 0
  bandwidth := toldBandwidth ((tuning.get? .bandwidthHz).getD 0)
  codeRateHp := (tuning.named? .codeRateHp CodeRate).getD .auto
  codeRateLp := (tuning.named? .codeRateLp CodeRate).getD .auto
  modulation := (tuning.named? .modulation Modulation).getD .auto
  transmissionMode := (tuning.named? .transmissionMode TransmissionMode).getD .auto
  guardInterval := (tuning.named? .guardInterval GuardInterval).getD .auto
  hierarchy := (tuning.named? .hierarchy Hierarchy).getD .auto
  pipe := if system = .dvbT2 then some ((tuning.get? .streamId).getD 0) else none

theorem regular_toldMultiplex (terrestrial : system = .dvbT ∨ system = .dvbT2) :
    (tuning.toldMultiplex system).IsRegular := by
  rcases terrestrial with rfl | rfl
  · exact .first rfl rfl (writable_toldBandwidth _)
  · exact .second rfl rfl (writable_toldBandwidth _)

theorem fields_toldMultiplex
    (counted : ∀ hertz, tuning.get? .bandwidthHz = some hertz → hertz = 0 ∨ 1000000 ≤ hertz.toNat) :
    (tuning.toldMultiplex system).fields = tuning.multiplexTokens := by
  have bandwidth : bandwidthToken (tuning.toldMultiplex system).bandwidth =
      bandwidthToken ((tuning.get? .bandwidthHz).getD 0) := by
    apply bandwidthToken_toldBandwidth
    cases given : tuning.get? .bandwidthHz with
    | none => exact .inl rfl
    | some hertz => exact counted hertz given
  have codeRate := tuning.tokenOf_eq (rfl : Coded.token CodeRate.auto = "AUTO")
  have modulation := tuning.tokenOf_eq (rfl : Coded.token Modulation.auto = "AUTO")
  have transmissionMode := tuning.tokenOf_eq (rfl : Coded.token TransmissionMode.auto = "AUTO")
  have guardInterval := tuning.tokenOf_eq (rfl : Coded.token GuardInterval.auto = "AUTO")
  have hierarchy := tuning.tokenOf_eq (rfl : Coded.token Hierarchy.auto = "AUTO")
  unfold Multiplex.fields multiplexTokens
  rw [bandwidth, codeRate, codeRate, modulation, transmissionMode, guardInterval, hierarchy]
  rfl

theorem exists_regular_of_known (known : tuning.system?.isSome)
    (counted : ∀ hertz, tuning.get? .bandwidthHz = some hertz → hertz = 0 ∨ 1000000 ≤ hertz.toNat) :
    ∃ told : Tuning, IsRegular told ∧ told.tokens = tuning.tokens := by
  obtain ⟨system, known⟩ := Option.isSome_iff_exists.mp known
  have satellite (kind : system = .dvbS ∨ system = .dvbS2)
      (line : tuning.tokens = tuning.satelliteTokens system) :
      ∃ told : Tuning, IsRegular told ∧ told.tokens = tuning.tokens :=
    ⟨_, .transponder (regular_toldTransponder kind), (tokens_toldTransponder kind).trans line.symm⟩
  have terrestrial (kind : system = .dvbT ∨ system = .dvbT2)
      (line : tuning.tokens = (tuning.toldMultiplex system).tokens) :
      ∃ told : Tuning, IsRegular told ∧ told.tokens = tuning.tokens := by
    have regular : (tuning.toldMultiplex system).IsRegular := regular_toldMultiplex kind
    exact ⟨_, .multiplex regular, (Multiplex.tokens_toTuning regular).trans line.symm⟩
  cases system with
  | dvbS => exact satellite (.inl rfl) (by rw [tokens, known])
  | dvbS2 => exact satellite (.inr rfl) (by rw [tokens, known])
  | dvbT =>
    refine terrestrial (.inl rfl) ?_
    rw [tokens, known, ← fields_toldMultiplex counted]
    rfl
  | dvbT2 =>
    refine terrestrial (.inr rfl) ?_
    rw [tokens, known, ← fields_toldMultiplex counted]
    rfl

/-- The line of a tuning with a known system is read, and the line of what is read is the same: at whatever values
its properties stand, and whichever of the others are missing. Only a bandwidth below one MHz is lost. -/
theorem print_of_parse_print (known : tuning.system?.isSome)
    (counted : ∀ hertz, tuning.get? .bandwidthHz = some hertz → hertz = 0 ∨ 1000000 ≤ hertz.toNat) :
    ∃ read, parse tuning.print = .ok read ∧ read.print = tuning.print := by
  obtain ⟨told, regular, same⟩ := exists_regular_of_known known counted
  have line : told.print = tuning.print := congrArg (" ".intercalate ·) same
  refine ⟨told, ?_, line⟩
  rw [← line]
  cases regular with
  | transponder regular => exact Transponder.parse_print regular
  | multiplex regular => exact Multiplex.parse_print regular

end Tuning

namespace LowTone

/-- A carrier of the high band with the tone of the low one, an unknown code rate and no symbol rate. -/
def tuning : Tuning :=
  .ofCodes [(17, 6), (3, 2028000), (11, 1), (10, 0), (9, 77), (13, 3)]

/-! The line gives a downlink above the switch frequency, so that it is read with the other band and the other tone;
the symbol rate is read as zero, and the roll-off is lost. The line stays. -/

theorem told_with_other_band : ∃ read, Tuning.parse tuning.print = .ok read ∧ read.print = tuning.print ∧
    tuning.print = "S2 11778000 V 0 AUTO" ∧ tuning.tone? = some .off ∧ read.tone? = some .on ∧
    tuning.frequency? = some 2028000 ∧ read.frequency? = some 1178000 ∧
    tuning.get? .symbolRate = none ∧ read.get? .symbolRate = some 0 := by
  have known : tuning.system?.isSome := by decide
  have absent : tuning.get? .bandwidthHz = none := by decide
  obtain ⟨read, parsed, line⟩ := Tuning.print_of_parse_print known (by rw [absent]; nofun)
  have shown : tuning.print = "S2 11778000 V 0 AUTO" := by decide +kernel
  have found : Tuning.parse "S2 11778000 V 0 AUTO" = .ok (Tuning.toldTransponder tuning .dvbS2).toTuning := by
    decide +kernel
  rw [shown, found] at parsed
  cases parsed
  rw [shown]
  exact ⟨_, found, line.trans shown, rfl, by decide, by decide, by decide, by decide, by decide, by decide⟩

end LowTone

end DvbScan
