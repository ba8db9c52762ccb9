import DvbScan.Text.Decimal
import DvbScan.Tuning.Channel

/-!
# Tunings as text

A tuning has two texts: a line of a tuning file, which the parser reads back, and a short description for
people.
-/

namespace DvbScan

namespace Tuning

/-- The tone that selects the oscillator: the high band only if the tone is known to be on. -/
def band (tuning : Tuning) : Tone :=
  tuning.tone?.getD .off

def downlink (tuning : Tuning) : UInt32 :=
  Converter.downlink tuning.band (tuning.frequency?.getD 0)

/-- Only the lower voltage means vertical. -/
def polarizationToken (tuning : Tuning) : String :=
  if tuning.voltage? = some .v13 then "V" else "H"

/-- The token of a property, `AUTO` if it is absent or unknown. -/
def tokenOf (tuning : Tuning) (key : PropertyKey) (α : Type) [Coded α] : String :=
  match tuning.named? key α with
  | some value => Coded.token value
  | none => "AUTO"

def numeralOf (tuning : Tuning) (key : PropertyKey) : String :=
  Decimal.write ((tuning.get? key).getD 0).toNat

def bandwidthToken (hertz : UInt32) : String :=
  if hertz = 0 then "AUTO"
  else if hertz = 1712000 then "1.712MHz"
  else Decimal.write (hertz.toNat / 1000000) ++ "MHz"

/-- The channel of the terrestrial raster with this centre: channel n is at 8n + 306 MHz, and only
the channels from 21 to 69 are in use. -/
def rasterChannel? (megahertz : Nat) : Option Nat :=
  let channel := (megahertz - 306) / 8
  if megahertz = 8 * channel + 306 ∧ 21 ≤ channel ∧ channel ≤ 69 then some channel else none

def describe (tuning : Tuning) : String :=
  match tuning.family? with
  | some .satellite =>
    Decimal.write (tuning.downlink.toNat / 1000) ++ "MHz " ++ tuning.polarizationToken
  | some .terrestrial =>
    let megahertz := (tuning.frequency?.getD 0).toNat / 1000000
    match rasterChannel? megahertz with
    | some channel => Decimal.write megahertz ++ "MHz (chan " ++ Decimal.write channel ++ ")"
    | none => Decimal.write megahertz ++ "MHz"
  | none => tuning.numeralOf .frequency

/-- The parameters of a second generation satellite carrier, given only together. -/
def shapingTokens (tuning : Tuning) : List String :=
  match tuning.named? .rolloff Rolloff, tuning.named? .modulation Modulation with
  | some rolloff, some modulation => [Coded.token rolloff, Coded.token modulation]
  | _, _ => []

def satelliteTokens (tuning : Tuning) (system : DeliverySystem) : List String :=
  [Coded.token system, Decimal.write tuning.downlink.toNat, tuning.polarizationToken,
    tuning.numeralOf .symbolRate, tuning.tokenOf .innerFec CodeRate] ++
  (if system = .dvbS2 then tuning.shapingTokens else [])

def multiplexTokens (tuning : Tuning) : List String :=
  [tuning.numeralOf .frequency, bandwidthToken ((tuning.get? .bandwidthHz).getD 0),
    tuning.tokenOf .codeRateHp CodeRate, tuning.tokenOf .codeRateLp CodeRate,
    tuning.tokenOf .modulation Modulation, tuning.tokenOf .transmissionMode TransmissionMode,
    tuning.tokenOf .guardInterval GuardInterval, tuning.tokenOf .hierarchy Hierarchy]

/-- A line of a tuning file. The second generation has two more fields in front: the pipe, and the
system identifier, which is no property and is written as zero. -/
def tokens (tuning : Tuning) : List String :=
  match tuning.system? with
  | some .dvbT => "T" :: tuning.multiplexTokens
  | some .dvbT2 => "T2" :: tuning.numeralOf .streamId :: "0" :: tuning.multiplexTokens
  | some .dvbS => tuning.satelliteTokens .dvbS
  | some .dvbS2 => tuning.satelliteTokens .dvbS2
  | none => [tuning.describe]

def print (tuning : Tuning) : String :=
  " ".intercalate tuning.tokens

end Tuning

end DvbScan
