import DvbScan.Proofs.BoundedRun
import DvbScan.Proofs.ChannelKeys
import DvbScan.Proofs.TuneOnce
import DvbScan.Scan.Candidates

/-!
# Near tunings

The steps of 2 MHz lie at fixed frequencies, so two near tunings have one key exactly if no edge between steps lies
between them, and are in neighbouring steps otherwise. The channels of the terrestrial raster are at edges: a step
begins with the centre of its channel, and a multiplex that is announced somewhat above the centre is known as tried
once the channel was.
-/

namespace DvbScan

namespace Tuning

variable {first second : Tuning}

/-- Less than one MHz apart, in one family and with one tone and one voltage. -/
structure IsNear (first second : Tuning) : Prop where
  family : first.family? = second.family?
  tone : first.effectiveTone = second.effectiveTone
  voltage : first.effectiveVoltage = second.effectiveVoltage
  distance : Nat.dist first.programmed second.programmed < unitsPerMegahertz first.family?

/-- No edge between steps lies above one frequency and not above the other. -/
def NoEdgeBetween (first second : Tuning) : Prop :=
  ∀ edge, stepWidth first.family? ∣ edge → (edge ≤ first.programmed ↔ edge ≤ second.programmed)

theorem div_eq_div_iff_no_edge {width low high : Nat} (positive : 0 < width) :
    low / width = high / width ↔ ∀ edge, width ∣ edge → (edge ≤ low ↔ edge ≤ high) := by
  have reaches (count number : Nat) : count ≤ number / width ↔ width * count ≤ number := by
    rw [Nat.le_div_iff_mul_le positive, Nat.mul_comm]
  constructor
  · intro same edge divided
    obtain ⟨count, rfl⟩ := divided
    rw [← reaches, ← reaches, same]
  · intro edges
    apply Nat.le_antisymm
    · apply (reaches _ high).mpr
      exact (edges _ (Nat.dvd_mul_right ..)).mp ((reaches _ low).mp (Nat.le_refl _))
    · apply (reaches _ low).mpr
      exact (edges _ (Nat.dvd_mul_right ..)).mpr ((reaches _ high).mp (Nat.le_refl _))

namespace IsNear

theorem equivalence_iff (near : first.IsNear second) :
    first.equivalence = second.equivalence ↔ first.NoEdgeBetween second := by
  unfold NoEdgeBetween
  rw [← div_eq_div_iff_no_edge (stepWidth_pos _), equivalence_eq_iff, ← near.family]
  constructor
  · intro same
    exact same.2.2.2
  · intro step
    exact ⟨rfl, near.tone, near.voltage, step⟩

/-- A step is twice as wide as near tunings can be apart. -/
theorem dist_frequencyBucket_le (near : first.IsNear second) :
    Nat.dist first.frequencyBucket second.frequencyBucket ≤ 1 := by
  have distance := near.distance
  rw [frequencyBucket_eq, frequencyBucket_eq, ← near.family]
  generalize first.family? = family at distance ⊢
  unfold Nat.dist at distance ⊢
  rcases family with _ | _ | _ <;> simp only [stepWidth, unitsPerMegahertz] at distance ⊢ <;> omega

end IsNear

end Tuning

namespace Multiplex

theorem family?_toTuning (multiplex : Multiplex) :
    multiplex.toTuning.family? = some multiplex.system.family := by
  unfold Tuning.family?
  rw [system?_toTuning]
  rfl

theorem programmed_toTuning (multiplex : Multiplex) :
    multiplex.toTuning.programmed = multiplex.frequency.toNat := by
  have frequency : multiplex.toTuning.frequency? = some multiplex.frequency :=
    Tuning.get?_ofPairs multiplex.distinct_properties (by simp [properties])
  unfold Tuning.programmed
  rw [frequency]
  rfl

theorem get?_toTuning_of_absent (multiplex : Multiplex) {key : PropertyKey}
    (absent : key = .tone ∨ key = .voltage) : multiplex.toTuning.get? key = none := by
  apply Tuning.get?_ofPairs_of_absent multiplex.distinct_properties
  · rcases absent with rfl | rfl <;> decide
  · unfold properties
    rcases absent with rfl | rfl <;> cases multiplex.pipe <;> simp

theorem effectiveTone_toTuning (multiplex : Multiplex) : multiplex.toTuning.effectiveTone = .off := by
  unfold Tuning.effectiveTone Tuning.tone? Tuning.named?
  rw [get?_toTuning_of_absent multiplex (.inl rfl)]
  rfl

theorem effectiveVoltage_toTuning (multiplex : Multiplex) : multiplex.toTuning.effectiveVoltage = .off := by
  unfold Tuning.effectiveVoltage Tuning.voltage? Tuning.named?
  rw [get?_toTuning_of_absent multiplex (.inr rfl)]
  rfl

theorem isNear_toTuning {first second : Multiplex} (family : first.system.family = .terrestrial)
    (family' : second.system.family = .terrestrial)
    (distance : Nat.dist first.frequency.toNat second.frequency.toNat < 1000000) :
    first.toTuning.IsNear second.toTuning where
  family := by rw [family?_toTuning, family?_toTuning, family, family']
  tone := by rw [effectiveTone_toTuning, effectiveTone_toTuning]
  voltage := by rw [effectiveVoltage_toTuning, effectiveVoltage_toTuning]
  distance := by
    rw [programmed_toTuning, programmed_toTuning, family?_toTuning, family]
    exact distance

end Multiplex

namespace Candidates

variable {channel : Nat} {centre : UInt32}

def channelTuning (centre : UInt32) : Tuning :=
  (Multiplex.auto centre (UInt32.ofNat rasterStep)).toTuning

theorem toNat_of_frequencyOf (found : frequencyOf channel = .ok centre) :
    centre.toNat = channel * 8000000 + 306000000 := by
  unfold frequencyOf rasterStep at found
  simp only at found
  split at found
  · cases found
  · split at found
    · cases found
    next below =>
      rw [← Except.ok.inj found, UInt32.toNat_ofNat', Nat.mul_comm channel]
      apply Nat.mod_eq_of_lt
      exact Nat.lt_of_not_le below

/-- A step begins with the centre of a channel, so less than one MHz above it there is no edge. -/
theorem noEdgeBetween_of_above {multiplex : Multiplex} (found : frequencyOf channel = .ok centre)
    (above : centre ≤ multiplex.frequency) (near : multiplex.frequency.toNat < centre.toNat + 1000000) :
    (channelTuning centre).NoEdgeBetween multiplex.toTuning := by
  have centred := toNat_of_frequencyOf found
  have ordered := UInt32.le_iff_toNat_le.mp above
  intro edge divided
  have width : Tuning.stepWidth (channelTuning centre).family? = 2000000 := by
    unfold channelTuning
    rw [Multiplex.family?_toTuning]
    rfl
  have low : (channelTuning centre).programmed = centre.toNat := Multiplex.programmed_toTuning _
  rw [width] at divided
  rw [low, Multiplex.programmed_toTuning]
  obtain ⟨count, shape⟩ := divided
  omega

theorem isNear_of_above {multiplex : Multiplex} (terrestrial : multiplex.system.family = .terrestrial)
    (above : centre ≤ multiplex.frequency) (near : multiplex.frequency.toNat < centre.toNat + 1000000) :
    (channelTuning centre).IsNear multiplex.toTuning := by
  have ordered := UInt32.le_iff_toNat_le.mp above
  apply Multiplex.isNear_toTuning rfl terrestrial
  change Nat.dist centre.toNat _ < 1000000
  unfold Nat.dist
  omega

end Candidates

namespace Sweep

variable {ι : Type} [CandidateSource ι]

theorem isAttempted_of_tuned (platform : Platform) (candidates : ι) (timeouts : Timeouts) (receiver : Receiver)
    (acts : List SweepAct) {first second : Tuning}
    (tuned : first ∈ (Call.tunes ((new platform candidates timeouts).actAll receiver acts).calls).map (·.2.1))
    (same : first.equivalence = second.equivalence) :
    ((new platform candidates timeouts).actAll receiver acts).isAttempted second = true := by
  have noted := ((requestsNoted_new platform candidates timeouts).actAll receiver acts).keys
  have asked := List.mem_map_of_mem (f := Tuning.equivalence) tuned
  rw [List.map_map] at asked
  change _ ∈ (Call.tunes _).map (·.2.1.equivalence) at asked
  rw [noted, same] at asked
  exact List.contains_iff_mem.mpr (List.mem_reverse.mp asked)

/-- Near tunings have one key if and only if no edge between steps lies between them, and at most one edge does. Where
none does, a run that has tuned to the one knows the other as tried. So it is with a multiplex that is announced less
than one MHz above the centre of a channel that was tuned to as a candidate. -/
theorem recognises_near (platform : Platform) (candidates : ι) (timeouts : Timeouts) (receiver : Receiver)
    (acts : List SweepAct) :
    let final := (new platform candidates timeouts).actAll receiver acts
    let tuned := (Call.tunes final.calls).map (·.2.1)
    (∀ first second : Tuning, first.IsNear second →
      (first.equivalence = second.equivalence ↔ first.NoEdgeBetween second) ∧
      Nat.dist first.frequencyBucket second.frequencyBucket ≤ 1 ∧
      (first.NoEdgeBetween second → first ∈ tuned → final.isAttempted second = true)) ∧
    ∀ channel centre, Candidates.frequencyOf channel = .ok centre →
      ∀ multiplex : Multiplex, multiplex.system.family = .terrestrial → centre ≤ multiplex.frequency →
        multiplex.frequency.toNat < centre.toNat + 1000000 →
        (Candidates.channelTuning centre).equivalence = multiplex.toTuning.equivalence ∧
          (Candidates.channelTuning centre ∈ tuned → final.isAttempted multiplex.toTuning = true) := by
  intro final tuned
  constructor
  · intro first second near
    refine ⟨near.equivalence_iff, near.dist_frequencyBucket_le, ?_⟩
    intro unbroken asked
    apply isAttempted_of_tuned platform candidates timeouts receiver acts asked
    exact near.equivalence_iff.mpr unbroken
  · intro channel centre found multiplex terrestrial above close
    have near := Candidates.isNear_of_above terrestrial above close
    have same := near.equivalence_iff.mpr (Candidates.noEdgeBetween_of_above found above close)
    exact ⟨same, fun asked => isAttempted_of_tuned platform candidates timeouts receiver acts asked same⟩

end Sweep

/-! A multiplex of the channel at 578 MHz, announced with an offset. -/

namespace OffsetMultiplex

open scoped HanDecoders

def announced (frequency : UInt32) : Multiplex :=
  { Multiplex.auto frequency 8000000 with system := .dvbT2, pipe := some 0 }

def sweep : Sweep := .new .freeview (.raster 34 34) .default

def centre : Tuning := Candidates.channelTuning 578000000

/-- With 167 kHz above the centre it is known as tried once the channel was. -/
theorem offset_above_recognised :
    (centre.IsNear (announced 578167000).toTuning ∧ centre.NoEdgeBetween (announced 578167000).toTuning ∧
      centre ∈ (Call.tunes (sweep.actAll .willing [.start]).calls).map (·.2.1)) ∧
    centre.equivalence = (announced 578167000).toTuning.equivalence ∧
    (sweep.actAll .willing [.start]).isAttempted (announced 578167000).toTuning = true := by
  have asked : (Sweep.runWithin .willing 2 sweep [.start]).map (fun run =>
      (Call.tunes run.2.calls).map (·.2.1)) = some [centre] := by
    decide +kernel
  obtain ⟨⟨requests, final⟩, run, shape⟩ := Option.map_eq_some_iff.mp asked
  have reached : sweep.actAll .willing [.start] = final := (Sweep.run_of_within run).2
  have tuned : centre ∈ (Call.tunes (sweep.actAll .willing [.start]).calls).map (·.2.1) := by
    rw [reached, shape]
    exact List.mem_cons_self
  have found : Candidates.frequencyOf 34 = .ok 578000000 := rfl
  have above : (578000000 : UInt32) ≤ (announced 578167000).frequency := by decide
  have close : (announced 578167000).frequency.toNat < (578000000 : UInt32).toNat + 1000000 := by decide
  have near := Candidates.isNear_of_above rfl above close
  have unbroken := Candidates.noEdgeBetween_of_above found above close
  have recognised := Sweep.recognises_near .freeview (.raster 34 34 : Candidates) .default .willing [.start]
  obtain ⟨same, -, known⟩ := recognised.1 centre (announced 578167000).toTuning near
  exact ⟨⟨near, unbroken, tuned⟩, same.mpr unbroken, known unbroken tuned⟩

/-- With 167 kHz below the centre it is near too, but in the step below, and has another key. -/
theorem offset_below_missed :
    centre.IsNear (announced 577833000).toTuning ∧
      centre.equivalence ≠ (announced 577833000).toTuning.equivalence := by
  have near : centre.IsNear (announced 577833000).toTuning := by
    apply Multiplex.isNear_toTuning rfl rfl
    decide
  exact ⟨near, by decide⟩

end OffsetMultiplex

end DvbScan
