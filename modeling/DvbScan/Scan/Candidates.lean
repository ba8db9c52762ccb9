import DvbScan.Scan.Platform
import DvbScan.Tuning.Parser

/-!
# Candidates

While no transport is known, a scan tries the tunings that some source gives one by one. The sources of the
platforms are fixed lists. The list of a channel raster is computed as it is read, and the computation
breaks down at the first channel beyond the frequencies that exist.
-/

namespace DvbScan

structure Offer (ι : Type) where
  result : Except Breakdown (Option Tuning)
  rest : ι

/-- What gives tunings to try. Nothing is known of it: it may never come to an end, go on after an end, and
give other tunings after a reset than before. -/
class CandidateSource (ι : Type) where
  next : ι → Offer ι
  /-- Begins again. -/
  reset : ι → ι

/-- Reads on up to the first tuning that was not tried, or to an end. Nothing comes of it if the source gives
tried tunings for ever. -/
def Offer.firstUntried {ι : Type} [CandidateSource ι] (isTried : Tuning → Bool) (offer : Offer ι) :
    Option (Offer ι) :=
  match offer.result with
  | .ok (some tuning) =>
    if isTried tuning then CandidateSource.next offer.rest |>.firstUntried isTried else some offer
  | _ => some offer
partial_fixpoint

/-- A list of tunings and the part of it that has not been read. Behind the last tuning the list ends, or
breaks down each time it is read. -/
structure Candidates where
  all : List Tuning
  rest : List Tuning
  ending : Option Breakdown
  deriving DecidableEq, Repr

namespace Candidates

def ofList (tunings : List Tuning) : Candidates :=
  { all := tunings, rest := tunings, ending := none }

def reset (candidates : Candidates) : Candidates :=
  { candidates with rest := candidates.all }

def next (candidates : Candidates) : Except Breakdown (Option (Tuning × Candidates)) :=
  match candidates.rest, candidates.ending with
  | tuning :: rest, _ => .ok (some (tuning, { candidates with rest }))
  | [], some step => .error step
  | [], none => .ok none

instance : CandidateSource Candidates where
  next candidates := match candidates.next with
    | .ok (some (tuning, rest)) => ⟨.ok (some tuning), rest⟩
    | .ok none => ⟨.ok none, candidates⟩
    | .error step => ⟨.error step, candidates⟩
  reset := reset

def takeUpTo : Nat → Candidates → List Tuning × Option (Option Breakdown) × Candidates
  | 0, candidates => ([], none, candidates)
  | count + 1, candidates =>
    match candidates.next with
    | .ok (some (tuning, rest)) =>
      let (tunings, ending, last) := takeUpTo count rest
      (tuning :: tunings, ending, last)
    | .ok none => ([], some none, candidates)
    | .error step => ([], some (some step), candidates)

def rasterStep : Nat := 8000000

def frequencyOf (channel : Nat) : Except Breakdown UInt32 :=
  let offset := rasterStep * channel
  if UInt32.size ≤ offset then .error .product
  else if UInt32.size ≤ offset + 306000000 then .error .sum
  else .ok (UInt32.ofNat (offset + 306000000))

def rasterFrom (channel : Nat) : Nat → List Tuning × Option Breakdown
  | 0 => ([], none)
  | count + 1 =>
    match frequencyOf channel with
    | .error step => ([], some step)
    | .ok frequency =>
      let (tunings, ending) := rasterFrom (channel + 1) count
      ((Multiplex.auto frequency (UInt32.ofNat rasterStep)).toTuning :: tunings, ending)

/-- The channels from the first to the last; none if they are in the wrong order. -/
def raster (first last : Nat) : Candidates :=
  let (tunings, ending) := rasterFrom first (last + 1 - first)
  { all := tunings, rest := tunings, ending }

def defaultChannels : Nat × Nat := (21, 68)

def freesatPresets : List String :=
  ["S2 11023250 H 23000000 2/3 25 8PSK",
   "S2 10935500 V 23000000 8/9 25 QPSK",
   "S2 10847000 V 23000000 2/3 25 8PSK",
   "S1 11307000 V 27500000 2/3 35 QPSK",
   "S1 11344500 H 27500000 2/3 35 QPSK",
   "S1 11223670 V 27500000 2/3 35 QPSK",
   "S1 11222170 H 27500000 2/3 35 QPSK",
   "S1 11426330 V 27500000 2/3 35 QPSK",
   "S1 11343000 V 27500000 2/3 35 QPSK"]

def ofStrings (lines : List String) : Except (Failure ParseError) Candidates :=
  (lines.mapM Tuning.parse).map ofList

/-- Strings that cannot be read are left out. -/
def freesat : Candidates :=
  ofList (freesatPresets.filterMap fun line => (Tuning.parse line).toOption)

end Candidates

def Platform.candidates (platform : Platform) (channels : Option (Nat × Nat)) : Candidates :=
  match platform.kind with
  | .freesat => .freesat
  | .standard | .freeview =>
    let (first, last) := channels.getD Candidates.defaultChannels
    .raster first last

end DvbScan
