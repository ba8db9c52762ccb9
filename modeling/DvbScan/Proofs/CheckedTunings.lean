import DvbScan.Proofs.Machine
import DvbScan.Si.Descriptor.Delivery
import DvbScan.Tuning.Equivalence
import DvbScan.Tuning.Printer

/-!
# Tunings on a machine

Building a tuning, its key and its texts with the operations of a machine. A new property is put before the last
entry, which is there when it is asked for; divisors are constants; and the parts of a key are shifted within a
word of 64 bits and do not overlap.
-/

namespace DvbScan.Checked

open Machine

/-- A key that is present takes the value where it stands; a new key goes before a closing command. -/
def set (tuning : Tuning) (key : PropertyKey) (value : UInt32) : Machine Tuning :=
  if tuning.entries.any (·.1 == key) then pure ⟨Tuning.overwrite key value tuning.entries⟩
  else if key = .tune then pure ⟨tuning.entries ++ [(key, value)]⟩
  else
    match tuning.entries.getLast? with
    | some (.tune, _) => do
      let place ← sub tuning.entries.length 1
      let entries ← insertAt tuning.entries place (key, value)
      pure ⟨entries⟩
    | _ => pure ⟨tuning.entries ++ [(key, value), (.tune, 1)]⟩

def ofPairs (pairs : List (PropertyKey × UInt32)) : Machine Tuning :=
  pairs.foldlM (fun tuning pair => set tuning pair.1 pair.2) .empty

def satelliteTuning (delivery : SatelliteDelivery) : Machine Tuning :=
  ofPairs delivery.transponder.properties

def terrestrialTuning (delivery : TerrestrialDelivery) : Machine Tuning :=
  ofPairs delivery.multiplex.properties

def t2Tuning? (delivery : T2Delivery) : Machine (Option Tuning) :=
  match delivery.details with
  | none => pure none
  | some details =>
    match details.frequency with
    | none => pure none
    | some frequency => do
      let multiplex : Multiplex := {
        Multiplex.auto frequency details.bandwidth with
        system := .dvbT2
        transmissionMode := details.transmissionMode
        guardInterval := details.guardInterval
        pipe := some (UInt32.ofNat delivery.pipe.toNat) }
      let tuning ← ofPairs multiplex.properties
      pure (some tuning)

theorem insertAt_last {α : Type} {items : List α} {last : α} (ends : items.getLast? = some last) (item : α) :
    insertAt items (items.length - 1) item = pure (items.dropLast ++ [item, last]) := by
  obtain ⟨front, rfl⟩ := List.getLast?_eq_some_iff.mp ends
  unfold insertAt
  rw [if_pos (Nat.sub_le _ _), List.length_append, List.length_singleton, Nat.add_sub_cancel,
    List.take_left, List.drop_left, List.dropLast_concat]

theorem set_eq (tuning : Tuning) (key : PropertyKey) (value : UInt32) :
    set tuning key value = pure (tuning.set key value) := by
  obtain ⟨entries⟩ := tuning
  unfold set Tuning.set
  simp only
  split
  next => rfl
  next =>
    by_cases command : key = .tune
    · rw [if_pos command]
      subst command
      rfl
    · rw [if_neg command, Tuning.append.eq_def]
      split
      next closing ends =>
        have ordered : 1 ≤ entries.length := by
          cases entries with
          | nil => cases ends
          | cons first rest => exact Nat.le_add_left 1 rest.length
        rw [sub_eq ordered, pure_bind, insertAt_last ends, pure_bind, ends]
        cases key with
        | tune => exact absurd rfl command
        | _ => rfl
      next unclosed =>
        split
        next => exact absurd rfl command
        next ends _ => exact absurd ends (unclosed _)
        next => rfl

theorem ofPairs_eq (pairs : List (PropertyKey × UInt32)) : ofPairs pairs = pure (Tuning.ofPairs pairs) := by
  unfold ofPairs Tuning.ofPairs Tuning.setAll
  generalize Tuning.empty = tuning
  induction pairs generalizing tuning with
  | nil => rfl
  | cons pair rest ih => rw [List.foldlM_cons, set_eq, pure_bind, ih, List.foldl_cons]

theorem t2Tuning?_eq (delivery : T2Delivery) : t2Tuning? delivery = pure delivery.toTuning? := by
  obtain ⟨pipe, systemId, details⟩ := delivery
  unfold t2Tuning? T2Delivery.toTuning?
  cases details with
  | none => rfl
  | some details =>
    obtain ⟨antennas, bandwidth, guardInterval, transmissionMode, frequency⟩ := details
    cases frequency with
    | none => rfl
    | some frequency =>
      simp only
      rw [ofPairs_eq, pure_bind]
      rfl

/-- Shifting by less than the width of the word cannot fail, but it could lose bits. -/
def equivalence (tuning : Tuning) : Machine EquivalenceKey := do
  let megahertz ← quotient (tuning.frequency?.getD 0).toNat (Tuning.unitsPerMegahertz tuning.family?)
  let bucket ← quotient megahertz 2
  let family ← shiftLeft .size (Tuning.familyNumber tuning.family?) 40
  let tone ← shiftLeft .size (Coded.code tuning.effectiveTone).toNat 36
  let voltage ← shiftLeft .size (Coded.code tuning.effectiveVoltage).toNat 32
  pure ⟨family ||| tone ||| voltage ||| bucket⟩

theorem shiftLeft_eq {value count : Nat} (inside : count < 64) (fits : value <<< count < 18446744073709551616) :
    shiftLeft .size value count = pure (value <<< count) := by
  have whole : (value <<< count) % Width.size.values = value <<< count := Nat.mod_eq_of_lt fits
  unfold shiftLeft
  rw [if_pos (show count < Width.size.bits from inside), whole]

/-- Numbers in different bits are added by joining them. -/
theorem or_eq_add {upper shift low : Nat} (below : low < 1 <<< shift) :
    upper <<< shift ||| low = upper <<< shift + low := by
  rw [Nat.one_shiftLeft] at below
  exact (Nat.shiftLeft_add_eq_or_of_lt below upper).symm

/-- The parts of a key do not overlap. -/
theorem joined_eq_sum (family : Nat) {tone voltage bucket : Nat} (tones : tone ≤ 1)
    (voltages : voltage ≤ 2) (buckets : bucket < UInt32.size) :
    family <<< 40 ||| tone <<< 36 ||| voltage <<< 32 ||| bucket =
      family <<< 40 + tone <<< 36 + voltage <<< 32 + bucket := by
  simp only [UInt32.size] at buckets
  have first : family <<< 40 ||| tone <<< 36 = (16 * family + tone) <<< 36 := by
    rw [or_eq_add (by omega)]
    omega
  have second : (16 * family + tone) <<< 36 ||| voltage <<< 32 =
      (256 * family + 16 * tone + voltage) <<< 32 := by
    rw [or_eq_add (by omega)]
    omega
  rw [first, second, or_eq_add buckets]
  omega

theorem equivalence_eq (tuning : Tuning) : equivalence tuning = pure tuning.equivalence := by
  have bucket := tuning.frequencyBucket_lt
  have family : Tuning.familyNumber tuning.family? ≤ 2 := by
    rcases tuning.family? with _ | _ | _ <;> decide
  have tone : (Coded.code tuning.effectiveTone).toNat ≤ 1 := by
    cases tuning.effectiveTone <;> decide
  have voltage : (Coded.code tuning.effectiveVoltage).toNat ≤ 2 := by
    cases tuning.effectiveVoltage <;> decide
  have units : 0 < Tuning.unitsPerMegahertz tuning.family? := by
    rcases tuning.family? with _ | _ | _ <;> decide
  unfold equivalence
  rw [quotient_eq units, pure_bind, quotient_eq (by omega), pure_bind,
    shiftLeft_eq (by omega) (by omega), pure_bind, shiftLeft_eq (by omega) (by omega), pure_bind,
    shiftLeft_eq (by omega) (by omega), pure_bind]
  refine congrArg (fun value => (pure ⟨value⟩ : Machine EquivalenceKey)) ?_
  exact joined_eq_sum _ tone voltage bucket

def rasterChannel? (megahertz : Nat) : Machine (Option Nat) :=
  if megahertz < 306 then pure none
  else do
    let offset := megahertz - 306
    let rest ← remainder offset 8
    if rest ≠ 0 then pure none
    else do
      let channel ← quotient offset 8
      pure (if 21 ≤ channel ∧ channel ≤ 69 then some channel else none)

def describe (tuning : Tuning) : Machine String :=
  match tuning.family? with
  | some .satellite => do
    let megahertz ← quotient tuning.downlink.toNat 1000
    pure (Decimal.write megahertz ++ "MHz " ++ tuning.polarizationToken)
  | some .terrestrial => do
    let megahertz ← quotient (tuning.frequency?.getD 0).toNat 1000000
    match ← rasterChannel? megahertz with
    | some channel => pure (Decimal.write megahertz ++ "MHz (chan " ++ Decimal.write channel ++ ")")
    | none => pure (Decimal.write megahertz ++ "MHz")
  | none => pure (tuning.numeralOf .frequency)

def bandwidthToken (hertz : UInt32) : Machine String :=
  if hertz = 0 then pure "AUTO"
  else if hertz = 1712000 then pure "1.712MHz"
  else do
    let megahertz ← quotient hertz.toNat 1000000
    pure (Decimal.write megahertz ++ "MHz")

def multiplexTokens (tuning : Tuning) : Machine (List String) := do
  let bandwidth ← bandwidthToken ((tuning.get? .bandwidthHz).getD 0)
  pure [tuning.numeralOf .frequency, bandwidth,
    tuning.tokenOf .codeRateHp CodeRate, tuning.tokenOf .codeRateLp CodeRate,
    tuning.tokenOf .modulation Modulation, tuning.tokenOf .transmissionMode TransmissionMode,
    tuning.tokenOf .guardInterval GuardInterval, tuning.tokenOf .hierarchy Hierarchy]

def tokens (tuning : Tuning) : Machine (List String) :=
  match tuning.system? with
  | some .dvbT => do
    let shared ← multiplexTokens tuning
    pure ("T" :: shared)
  | some .dvbT2 => do
    let shared ← multiplexTokens tuning
    pure ("T2" :: tuning.numeralOf .streamId :: "0" :: shared)
  | some .dvbS => pure (tuning.satelliteTokens .dvbS)
  | some .dvbS2 => pure (tuning.satelliteTokens .dvbS2)
  | none => do
    let text ← describe tuning
    pure [text]

def print (tuning : Tuning) : Machine String := do
  let tokens ← tokens tuning
  pure (" ".intercalate tokens)

theorem rasterChannel?_eq (megahertz : Nat) :
    rasterChannel? megahertz = pure (Tuning.rasterChannel? megahertz) := by
  unfold rasterChannel? Tuning.rasterChannel?
  simp only
  by_cases low : megahertz < 306
  · rw [if_pos low, if_neg (by omega)]
  · rw [if_neg low, remainder_eq (by omega), pure_bind]
    by_cases whole : (megahertz - 306) % 8 = 0
    · rw [if_neg (by omega), quotient_eq (by omega), pure_bind]
      have same : megahertz = 8 * ((megahertz - 306) / 8) + 306 := by omega
      by_cases used : 21 ≤ (megahertz - 306) / 8 ∧ (megahertz - 306) / 8 ≤ 69
      · rw [if_pos used, if_pos ⟨same, used⟩]
      · rw [if_neg used, if_neg fun both => used both.2]
    · rw [if_pos whole, if_neg (by omega)]

theorem describe_eq (tuning : Tuning) : describe tuning = pure tuning.describe := by
  unfold describe Tuning.describe
  cases tuning.family? with
  | none => rfl
  | some family =>
    cases family with
    | satellite =>
      simp only
      rw [quotient_eq (by omega), pure_bind]
    | terrestrial =>
      simp only
      rw [quotient_eq (by omega), pure_bind, rasterChannel?_eq, pure_bind]
      cases Tuning.rasterChannel? _ with
      | none => rfl
      | some channel => rfl

theorem bandwidthToken_eq (hertz : UInt32) : bandwidthToken hertz = pure (Tuning.bandwidthToken hertz) := by
  unfold bandwidthToken Tuning.bandwidthToken
  split
  next => rfl
  next =>
    split
    next => rfl
    next => rw [quotient_eq (by omega), pure_bind]

theorem multiplexTokens_eq (tuning : Tuning) : multiplexTokens tuning = pure tuning.multiplexTokens := by
  unfold multiplexTokens
  rw [bandwidthToken_eq, pure_bind]
  rfl

theorem print_eq (tuning : Tuning) : print tuning = pure tuning.print := by
  have listed : tokens tuning = pure tuning.tokens := by
    unfold tokens Tuning.tokens
    cases tuning.system? with
    | none => exact (congrArg (· >>= _) (describe_eq tuning)).trans (pure_bind _ _)
    | some system =>
      cases system with
      | dvbT => exact (congrArg (· >>= _) (multiplexTokens_eq tuning)).trans (pure_bind _ _)
      | dvbT2 => exact (congrArg (· >>= _) (multiplexTokens_eq tuning)).trans (pure_bind _ _)
      | dvbS => rfl
      | dvbS2 => rfl
  unfold print
  rw [listed, pure_bind]
  rfl

end DvbScan.Checked
