import DvbScan.CommandLine.Run
import DvbScan.Proofs.NearTunings
import DvbScan.Proofs.SourceFaults

/-!
# Reading the terrestrial raster

The candidates of a raster are those of its channels in order, however often it is read and reset before, and they have
different keys. Frequencies are words, though, and the last channel with a frequency is 498. Behind it every reading
breaks down, so a range is given as a whole exactly if it ends there or before.
-/

namespace DvbScan

namespace CandidateSource

variable {ι : Type} [CandidateSource ι]

def reading (source : ι) : Nat → Except Breakdown (Option Tuning)
  | 0 => (next source).result
  | place + 1 => reading (next source).rest place

/-- The source gives the tunings in order, and then the same for ever. -/
def GivesThen (source : ι) (tunings : List Tuning) (ending : Except Breakdown (Option Tuning)) : Prop :=
  ∀ place, reading source place = (tunings[place]?.map fun tuning => .ok (some tuning)).getD ending

end CandidateSource

namespace Candidates

open CandidateSource (Reads GivesThen)

variable {first second : Candidates} {channel count place : Nat} {tuning : Tuning}

def afterwards (ending : Option Breakdown) : Except Breakdown (Option Tuning) :=
  ending.elim (.ok none) .error

theorem givesThen (candidates : Candidates) :
    GivesThen candidates candidates.rest (afterwards candidates.ending) := by
  intro place
  obtain ⟨all, rest, ending⟩ := candidates
  induction rest generalizing place with
  | nil =>
    induction place with
    | zero => cases ending <;> rfl
    | succ place ih => cases ending <;> exact ih
  | cons tuning rest ih =>
    cases place with
    | zero => rfl
    | succ place => exact ih place

theorem all_of_reads (reads : Reads first second) : second.all = first.all := by
  induction reads with
  | here => rfl
  | next _ ih =>
    rw [ih]
    rename_i source later _
    obtain ⟨all, _ | ⟨tuning, rest⟩, _ | step⟩ := source <;> rfl
  | reset _ ih => exact ih

theorem reset_of_reads (reads : Reads first second) :
    CandidateSource.reset second = CandidateSource.reset first := by
  change second.reset = first.reset
  unfold reset
  rw [all_of_reads reads]
  obtain ⟨all, rest, ending⟩ := second
  obtain rfl : ending = first.ending := ending_of_reads reads
  rfl

theorem reads_to_end (candidates : Candidates) : Reads candidates { candidates with rest := [] } := by
  obtain ⟨all, rest, ending⟩ := candidates
  induction rest with
  | nil => exact .here _
  | cons tuning rest ih => exact .next ih

theorem neverBreaks_iff (candidates : Candidates) :
    CandidateSource.NeverBreaks candidates ↔ candidates.ending = none := by
  constructor
  · intro steady
    cases ends : candidates.ending with
    | none => rfl
    | some step =>
      have broken : (CandidateSource.next { candidates with rest := [] }).result = .error step := by
        obtain ⟨all, rest, ending⟩ := candidates
        cases ends
        rfl
      exact absurd broken (steady _ candidates.reads_to_end step)
  · intro ends later reads step failed
    exact not_fault ends step ⟨later, reads, .inl failed⟩

def lastChannel : Nat := 498

def breakdownOf (channel : Nat) : Breakdown := if channel < 537 then .sum else .product

def centreOf (channel : Nat) : UInt32 := UInt32.ofNat (channel * 8000000 + 306000000)

def tuningOf (channel : Nat) : Tuning := channelTuning (centreOf channel)

theorem frequencyOf_of_le (within : channel ≤ lastChannel) :
    frequencyOf channel = .ok (centreOf channel) := by
  unfold lastChannel at within
  unfold frequencyOf centreOf rasterStep UInt32.size
  rw [if_neg (by omega), if_neg (by omega), Nat.mul_comm]

theorem frequencyOf_of_beyond (beyond : lastChannel < channel) :
    frequencyOf channel = .error (breakdownOf channel) := by
  unfold lastChannel at beyond
  unfold frequencyOf rasterStep breakdownOf UInt32.size
  by_cases small : channel < 537
  · rw [if_neg (by omega), if_pos (by omega), if_pos small]
  · rw [if_pos (by omega), if_neg small]

theorem rasterFrom_of_le (within : channel + count ≤ lastChannel + 1) :
    rasterFrom channel count = ((List.range' channel count).map tuningOf, none) := by
  induction count generalizing channel with
  | zero => rfl
  | succ count ih =>
    rw [rasterFrom, frequencyOf_of_le (by omega), ih (by omega), List.range'_succ, List.map_cons]
    rfl

/-- The list breaks down at the first channel without a frequency. -/
theorem rasterFrom_of_beyond (nonempty : 0 < count) (beyond : lastChannel + 1 < channel + count) :
    rasterFrom channel count = ((List.range' channel (lastChannel + 1 - channel)).map tuningOf,
      some (breakdownOf (max channel (lastChannel + 1)))) := by
  induction count generalizing channel with
  | zero => omega
  | succ count ih =>
    rw [rasterFrom]
    by_cases within : channel ≤ lastChannel
    · have several : lastChannel + 1 - channel = lastChannel + 1 - (channel + 1) + 1 := by omega
      rw [frequencyOf_of_le within, ih (by omega) (by omega), several, List.range'_succ, List.map_cons,
        Nat.max_eq_right (by omega), Nat.max_eq_right (by omega)]
      rfl
    · have empty : lastChannel + 1 - channel = 0 := by omega
      rw [frequencyOf_of_beyond (by omega), empty, Nat.max_eq_left (by omega)]
      rfl

def rasterEnding (first last : Nat) : Option Breakdown :=
  if last ≤ lastChannel then none else some (breakdownOf (max first (lastChannel + 1)))

def rasterTunings (first last : Nat) : List Tuning :=
  (List.range' first (min last lastChannel + 1 - first)).map tuningOf

theorem raster_eq {first last : Nat} (ordered : first ≤ last) :
    raster first last =
      { all := rasterTunings first last, rest := rasterTunings first last, ending := rasterEnding first last } := by
  unfold raster rasterTunings rasterEnding
  by_cases within : last ≤ lastChannel
  · rw [rasterFrom_of_le (by omega), if_pos within, Nat.min_eq_left within]
  · rw [rasterFrom_of_beyond (by omega) (by omega), if_neg within, Nat.min_eq_right (by omega)]

theorem afterwards_rasterEnding (first last : Nat) :
    afterwards (rasterEnding first last) =
      if last ≤ lastChannel then .ok none else .error (breakdownOf (max first (lastChannel + 1))) := by
  unfold rasterEnding
  split <;> rfl

theorem givesThen_raster {first last : Nat} (ordered : first ≤ last) :
    GivesThen (raster first last) (rasterTunings first last) (afterwards (rasterEnding first last)) := by
  rw [raster_eq ordered]
  exact givesThen _

theorem reset_of_reads_raster {first last : Nat} {later : Candidates} (ordered : first ≤ last)
    (reads : Reads (raster first last) later) : CandidateSource.reset later = raster first last := by
  rw [reset_of_reads reads, raster_eq ordered]
  rfl

theorem neverBreaks_raster {first last : Nat} (ordered : first ≤ last) :
    CandidateSource.NeverBreaks (raster first last) ↔ last ≤ lastChannel := by
  rw [neverBreaks_iff, raster_eq ordered]
  unfold rasterEnding
  split
  next within => exact iff_of_true rfl within
  next beyond => exact iff_of_false (Option.some_ne_none _) beyond

/-- A multiplex of the first generation on the centre of the channel and 8 MHz wide, all else being left to the
device. -/
structure IsCandidate (channel : Nat) (tuning : Tuning) : Prop where
  automatic : ∃ centre : UInt32, centre.toNat = channel * 8000000 + 306000000 ∧
    tuning = (Multiplex.auto centre 8000000).toTuning
  system : tuning.system? = some .dvbT
  frequency : tuning.programmed = channel * 8000000 + 306000000
  bandwidth : tuning.get? .bandwidthHz = some 8000000

/-- One candidate for each channel in order, with a key that no other one has. -/
structure IsRaster (first last : Nat) (tunings : List Tuning) : Prop where
  length : tunings.length = last + 1 - first
  candidate : ∀ place tuning, tunings[place]? = some tuning → IsCandidate (first + place) tuning
  keys : (tunings.map Tuning.equivalence).Nodup

theorem tuningOf_eq (channel : Nat) : tuningOf channel = (Multiplex.auto (centreOf channel) 8000000).toTuning := by
  have width : UInt32.ofNat rasterStep = 8000000 := rfl
  unfold tuningOf channelTuning
  rw [width]

theorem programmed_tuningOf (within : channel ≤ lastChannel) :
    (tuningOf channel).programmed = channel * 8000000 + 306000000 :=
  (Multiplex.programmed_toTuning _).trans (toNat_of_frequencyOf (frequencyOf_of_le within))

theorem isCandidate_tuningOf (within : channel ≤ lastChannel) : IsCandidate channel (tuningOf channel) where
  automatic := ⟨centreOf channel, toNat_of_frequencyOf (frequencyOf_of_le within), tuningOf_eq channel⟩
  system := Multiplex.system?_toTuning _
  frequency := programmed_tuningOf within
  bandwidth := by
    rw [tuningOf_eq]
    exact Tuning.get?_ofPairs (Multiplex.distinct_properties _) (by simp [Multiplex.properties, Multiplex.auto])

/-- Four steps of 2 MHz lie between the centres of two channels. -/
theorem equivalence_tuningOf_ne {other : Nat} (within : channel ≤ lastChannel) (within' : other ≤ lastChannel)
    (different : channel ≠ other) : (tuningOf channel).equivalence ≠ (tuningOf other).equivalence := by
  intro same
  have step := (Tuning.equivalence_eq_iff.mp same).2.2.2
  have family (channel : Nat) : (tuningOf channel).family? = some .terrestrial := Multiplex.family?_toTuning _
  rw [family, family, programmed_tuningOf within, programmed_tuningOf within'] at step
  simp only [Tuning.stepWidth] at step
  omega

theorem isRaster_rasterTunings (first last : Nat) :
    IsRaster first (min last lastChannel) (rasterTunings first last) where
  length := by
    unfold rasterTunings
    rw [List.length_map, List.length_range']
  candidate place tuning found := by
    unfold rasterTunings at found
    obtain ⟨inside, rfl⟩ := List.getElem?_eq_some_iff.mp found
    rw [List.length_map, List.length_range'] at inside
    rw [List.getElem_map, List.getElem_range', Nat.one_mul]
    exact isCandidate_tuningOf (by omega)
  keys := by
    unfold rasterTunings
    rw [List.map_map]
    refine List.Nodup.map_on ?_ List.nodup_range'
    intro channel member other member' same
    rw [List.mem_range'_1] at member member'
    by_contra different
    exact equivalence_tuningOf_ne (by omega) (by omega) different same

end Candidates

namespace Platform

open Candidates (lastChannel)
open CandidateSource (Reads GivesThen NeverBreaks)

theorem candidates_of_terrestrial {platform : Platform} {channels : Option (Nat × Nat)} {first last : Nat}
    (terrestrial : platform.kind ≠ .freesat)
    (range : channels.getD Candidates.defaultChannels = (first, last)) :
    platform.candidates channels = .raster first last := by
  unfold candidates
  rw [range]
  cases kind : platform.kind with
  | standard => rfl
  | freeview => rfl
  | freesat => exact absurd kind terrestrial

/-- The candidates of a terrestrial platform are those of its channels up to 498, and the same again from wherever it
is reset. Behind them the source ends for ever if the range does, and breaks down for ever if the range goes on. -/
theorem enumerates_channels (platform : Platform) (channels : Option (Nat × Nat)) {first last : Nat}
    (terrestrial : platform.kind ≠ .freesat)
    (range : channels.getD Candidates.defaultChannels = (first, last)) (ordered : first ≤ last) :
    let source := platform.candidates channels
    let ending : Except Breakdown (Option Tuning) :=
      if last ≤ lastChannel then .ok none else .error (Candidates.breakdownOf (max first (lastChannel + 1)))
    (∃ tunings, Candidates.IsRaster first (min last lastChannel) tunings ∧ GivesThen source tunings ending ∧
      ∀ later, Reads source later → GivesThen (CandidateSource.reset later) tunings ending) ∧
    (NeverBreaks source ↔ last ≤ lastChannel) := by
  intro source ending
  have shape : source = .raster first last := candidates_of_terrestrial terrestrial range
  have gives := Candidates.givesThen_raster ordered
  rw [Candidates.afterwards_rasterEnding] at gives
  rw [shape]
  refine ⟨⟨_, Candidates.isRaster_rasterTunings first last, gives, ?_⟩, Candidates.neverBreaks_raster ordered⟩
  intro later reads
  rw [Candidates.reset_of_reads_raster ordered reads]
  exact gives

end Platform

/-! The channels that are in use, and the first one without a frequency. -/

namespace RasterEdge

theorem usual_channels_enumerated :
    ∃ tunings, Candidates.IsRaster 21 68 tunings ∧
      CandidateSource.GivesThen (Platform.freeview.candidates none) tunings (.ok none) ∧
      CandidateSource.NeverBreaks (Platform.freeview.candidates none) := by
  obtain ⟨⟨tunings, raster, gives, -⟩, steady⟩ :=
    Platform.freeview.enumerates_channels none (by decide) rfl (by decide : 21 ≤ 68)
  exact ⟨tunings, raster, gives, steady.mpr (by decide)⟩

/-- The arguments of a listing of two channels are in order, but the second channel breaks it down. -/
theorem last_channels_unlisted :
    (Invocation.ofArguments ["presets", "--first-channel", "498", "--last-channel", "499"]).toOption.map
        Invocation.command = some (.presets none (some 498) (some 499)) ∧
      (CommandLine.presets [] .standard (some (498, 499))).status = CommandLine.broken ∧
      CandidateSource.reading (Platform.standard.candidates (some (498, 499))) 1 = .error .sum := by
  refine ⟨?_, ?_, ?_⟩
  · decide +kernel
  · decide +kernel
  · decide +kernel

end RasterEdge

end DvbScan
