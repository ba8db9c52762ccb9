import DvbScan.Tuning.Basic

/-!
# Channels and their tunings

A satellite transponder is announced with its downlink frequency. The outdoor converter shifts it down by
the frequency of one of two oscillators, which the tone selects, and the device is set to the difference.
A terrestrial multiplex is received on the frequency on which it is announced.
-/

namespace DvbScan

namespace Converter

def lowOscillator : UInt32 := 9750000

def highOscillator : UInt32 := 10600000

/-- The downlink frequency in kHz from which a universal converter uses the high band. -/
def switchFrequency : UInt32 := 11700000

def oscillator : Tone → UInt32
  | .on => highOscillator
  | .off => lowOscillator

def tone (downlink : UInt32) : Tone :=
  if downlink < switchFrequency then .off else .on

/-- The frequency behind the converter; zero for a downlink below the oscillator. -/
def intermediate (downlink : UInt32) : UInt32 :=
  UInt32.ofNat (downlink.toNat - (oscillator (tone downlink)).toNat)

/-- The frequency before the converter; it stops at the largest word. -/
def downlink (tone : Tone) (intermediate : UInt32) : UInt32 :=
  UInt32.ofNat (min (intermediate.toNat + (oscillator tone).toNat) (UInt32.size - 1))

end Converter

structure Transponder where
  system : DeliverySystem
  /-- Downlink frequency in kHz. -/
  frequency : UInt32
  polarization : Polarization
  /-- Symbols per second. -/
  symbolRate : UInt32
  codeRate : CodeRate
  rolloff : Option Rolloff
  modulation : Option Modulation
  deriving DecidableEq, Repr

namespace Transponder

def secondGeneration (transponder : Transponder) : List (PropertyKey × UInt32) :=
  if transponder.system = .dvbS2 then
    [(.pilot, Coded.code Pilot.auto)] ++
      (transponder.rolloff.map fun rolloff => (PropertyKey.rolloff, Coded.code rolloff)).toList ++
      (transponder.modulation.map fun modulation =>
        (PropertyKey.modulation, Coded.code modulation)).toList
  else []

def properties (transponder : Transponder) : List (PropertyKey × UInt32) :=
  [(.deliverySystem, Coded.code transponder.system),
   (.frequency, Converter.intermediate transponder.frequency),
   (.voltage, Coded.code transponder.polarization.voltage),
   (.tone, Coded.code (Converter.tone transponder.frequency)),
   (.symbolRate, transponder.symbolRate),
   (.innerFec, Coded.code transponder.codeRate)] ++
  transponder.secondGeneration ++
  [(.inversion, Coded.code Inversion.auto)]

def toTuning (transponder : Transponder) : Tuning :=
  .ofPairs transponder.properties

end Transponder

structure Multiplex where
  system : DeliverySystem
  /-- Centre frequency in Hz. -/
  frequency : UInt32
  /-- Bandwidth in Hz; zero leaves it to the device. -/
  bandwidth : UInt32
  codeRateHp : CodeRate
  codeRateLp : CodeRate
  modulation : Modulation
  transmissionMode : TransmissionMode
  guardInterval : GuardInterval
  hierarchy : Hierarchy
  /-- The physical layer pipe of a second generation multiplex. -/
  pipe : Option UInt32
  deriving DecidableEq, Repr

namespace Multiplex

def auto (frequency bandwidth : UInt32) : Multiplex where
  system := .dvbT
  frequency := frequency
  bandwidth := bandwidth
  codeRateHp := .auto
  codeRateLp := .auto
  modulation := .auto
  transmissionMode := .auto
  guardInterval := .auto
  hierarchy := .auto
  pipe := none

def properties (multiplex : Multiplex) : List (PropertyKey × UInt32) :=
  [(.deliverySystem, Coded.code multiplex.system)] ++
  (multiplex.pipe.map fun pipe => (PropertyKey.streamId, pipe)).toList ++
  [(.frequency, multiplex.frequency),
   (.bandwidthHz, multiplex.bandwidth),
   (.codeRateHp, Coded.code multiplex.codeRateHp),
   (.codeRateLp, Coded.code multiplex.codeRateLp),
   (.modulation, Coded.code multiplex.modulation),
   (.transmissionMode, Coded.code multiplex.transmissionMode),
   (.guardInterval, Coded.code multiplex.guardInterval),
   (.hierarchy, Coded.code multiplex.hierarchy),
   (.inversion, Coded.code Inversion.auto)]

def toTuning (multiplex : Multiplex) : Tuning :=
  .ofPairs multiplex.properties

end Multiplex

end DvbScan
