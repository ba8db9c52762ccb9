import DvbScan.Si.Bytes
import DvbScan.Tuning.Channel

/-!
# Delivery descriptors

A network table announces where each of its transports is received, with codes of its own for the
parameters that a tuning has.
-/

namespace DvbScan

def codeRateOf : Nat → CodeRate
  | 1 => .fec1_2
  | 2 => .fec2_3
  | 3 => .fec3_4
  | 4 => .fec5_6
  | 5 => .fec7_8
  | 6 => .fec8_9
  | 7 => .fec3_5
  | 8 => .fec4_5
  | 9 => .fec9_10
  | 15 => .none
  | _ => .auto

/-- A bandwidth in Hz; zero for a code that stands for none. -/
def bandwidthOf : Nat → UInt32
  | 0 => 8000000
  | 1 => 7000000
  | 2 => 6000000
  | 3 => 5000000
  | 4 => 10000000
  | 5 => 1712000
  | _ => 0

def guardIntervalOf : Nat → GuardInterval
  | 0 => .gi1_32
  | 1 => .gi1_16
  | 2 => .gi1_8
  | 3 => .gi1_4
  | 4 => .gi1_128
  | 5 => .gi19_128
  | 6 => .gi19_256
  | _ => .auto

def transmissionModeOf : Nat → TransmissionMode
  | 0 => .mode2K
  | 1 => .mode8K
  | 2 => .mode4K
  | 3 => .mode1K
  | 4 => .mode16K
  | 5 => .mode32K
  | _ => .auto

def polarizationOf : Nat → Polarization
  | 0 => .horizontal
  | 1 => .vertical
  | 2 => .left
  | _ => .right

def rolloffOf : Nat → Rolloff
  | 0 => .r35
  | 1 => .r25
  | 2 => .r20
  | _ => .auto

def satelliteModulationOf : Nat → Modulation
  | 1 => .qpsk
  | 2 => .psk8
  | 3 => .qam16
  | _ => .auto

def terrestrialModulationOf : Nat → Modulation
  | 0 => .qpsk
  | 1 => .qam16
  | 2 => .qam64
  | _ => .auto

def hierarchyOf : Nat → Hierarchy
  | 0 => .none
  | 1 => .h1
  | 2 => .h2
  | _ => .h4

/-- A frequency in Hz from one in units of 10 Hz; it stops at the largest word. -/
def tenHertz (units : UInt32) : UInt32 :=
  UInt32.ofNat (min (10 * units.toNat) (UInt32.size - 1))

structure SatelliteDelivery where
  /-- Downlink frequency in kHz. -/
  frequency : UInt32
  /-- Tenths of a degree. -/
  orbitalPosition : Nat
  east : Bool
  polarization : Polarization
  rolloff : Rolloff
  secondGeneration : Bool
  modulation : Modulation
  /-- Symbols per second. -/
  symbolRate : UInt32
  codeRate : CodeRate
  deriving DecidableEq, Repr

namespace SatelliteDelivery

/-- Eight digits of frequency in units of 10 kHz, four of position, a byte of codes, and seven digits of
symbol rate in units of 100 before the code of the code rate. -/
def read (payload : Bytes) : Except SiError SatelliteDelivery := do
  let codes ← payload.word8 6
  let frequency ← payload.decimal32 0
  let orbitalPosition ← payload.decimal16 4
  let symbols ← payload.decimal24 7
  let last ← payload.word8 10
  .ok {
    frequency := UInt32.ofNat (10 * frequency)
    orbitalPosition
    east := flag codes 7
    polarization := polarizationOf (bits codes 5 2)
    rolloff := rolloffOf (bits codes 3 2)
    secondGeneration := flag codes 2
    modulation := satelliteModulationOf (bits codes 0 2)
    symbolRate := UInt32.ofNat (100 * (10 * symbols + bits last 4 4))
    codeRate := codeRateOf (bits last 0 4) }

/-- Roll-off and modulation mean something in the second generation only. -/
def transponder (delivery : SatelliteDelivery) : Transponder where
  system := if delivery.secondGeneration then .dvbS2 else .dvbS
  frequency := delivery.frequency
  polarization := delivery.polarization
  symbolRate := delivery.symbolRate
  codeRate := delivery.codeRate
  rolloff := if delivery.secondGeneration then some delivery.rolloff else none
  modulation := if delivery.secondGeneration then some delivery.modulation else none

def toTuning (delivery : SatelliteDelivery) : Tuning :=
  delivery.transponder.toTuning

end SatelliteDelivery

structure TerrestrialDelivery where
  /-- Centre frequency in Hz. -/
  frequency : UInt32
  bandwidth : UInt32
  modulation : Modulation
  hierarchy : Hierarchy
  codeRateHp : CodeRate
  codeRateLp : CodeRate
  guardInterval : GuardInterval
  transmissionMode : TransmissionMode
  deriving DecidableEq, Repr

namespace TerrestrialDelivery

def read (payload : Bytes) : Except SiError TerrestrialDelivery := do
  let fourth ← payload.word8 4
  let fifth ← payload.word8 5
  let sixth ← payload.word8 6
  let frequency ← payload.word32 0
  .ok {
    frequency := tenHertz frequency
    bandwidth := bandwidthOf (bits fourth 5 3)
    modulation := terrestrialModulationOf (bits fifth 6 2)
    hierarchy := hierarchyOf (bits fifth 3 2)
    codeRateHp := codeRateOf (bits fifth 0 3 + 1)
    codeRateLp := codeRateOf (bits sixth 5 3 + 1)
    guardInterval := guardIntervalOf (bits sixth 3 2)
    transmissionMode := transmissionModeOf (bits sixth 1 2) }

def multiplex (delivery : TerrestrialDelivery) : Multiplex where
  system := .dvbT
  frequency := delivery.frequency
  bandwidth := delivery.bandwidth
  codeRateHp := delivery.codeRateHp
  codeRateLp := delivery.codeRateLp
  modulation := delivery.modulation
  transmissionMode := delivery.transmissionMode
  guardInterval := delivery.guardInterval
  hierarchy := delivery.hierarchy
  pipe := none

def toTuning (delivery : TerrestrialDelivery) : Tuning :=
  delivery.multiplex.toTuning

end TerrestrialDelivery

structure T2Details where
  /-- The code of the antenna scheme. -/
  antennas : Nat
  bandwidth : UInt32
  guardInterval : GuardInterval
  transmissionMode : TransmissionMode
  /-- Centre frequency of the first cell in Hz. -/
  frequency : Option UInt32
  deriving DecidableEq, Repr

structure T2Delivery where
  pipe : UInt8
  systemId : UInt16
  /-- Present if the payload holds more than the identifiers. -/
  details : Option T2Details
  deriving DecidableEq, Repr

namespace T2Delivery

/-- The parameters and the first cell. A cell has an identifier, the length of its list of frequencies if
the multiplex hops between them, and then a frequency; a payload that ends before it lists none. -/
def readDetails (payload : Bytes) : Except SiError T2Details := do
  let fourth ← payload.word8 4
  let fifth ← payload.word8 5
  let frequencyOffset := if flag fifth 0 then 9 else 8
  .ok {
    antennas := bits fourth 6 2
    bandwidth := bandwidthOf (bits fourth 2 4)
    guardInterval := guardIntervalOf (bits fifth 5 3)
    transmissionMode := transmissionModeOf (bits fifth 2 3)
    frequency := (payload.word32 frequencyOffset).toOption.map tenHertz }

def read (payload : Bytes) : Except SiError T2Delivery := do
  let pipe ← payload.word8 1
  let systemId ← payload.word16 2
  let details ← if 4 < payload.length then (readDetails payload).map some else .ok none
  .ok { pipe, systemId, details }

def toTuning? (delivery : T2Delivery) : Option Tuning := do
  let details ← delivery.details
  let frequency ← details.frequency
  let multiplex : Multiplex := {
    Multiplex.auto frequency details.bandwidth with
    system := .dvbT2
    transmissionMode := details.transmissionMode
    guardInterval := details.guardInterval
    pipe := some (UInt32.ofNat delivery.pipe.toNat) }
  some multiplex.toTuning

end T2Delivery

end DvbScan
