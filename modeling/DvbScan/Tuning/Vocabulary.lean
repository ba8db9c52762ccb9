import DvbScan.Tuning.Coded

/-!
# The vocabularies of tuning

Codes are those of the frontend interface of the operating system, so that a list of properties goes to
the device as it is. Tokens are those of the customary tuning files.
-/

namespace DvbScan

/-- The properties that a frontend is tuned with. `tune` is the command that makes the others take effect. -/
inductive PropertyKey where
  | tune | frequency | modulation | bandwidthHz | inversion | symbolRate | innerFec | voltage
  | tone | pilot | rolloff | deliverySystem | codeRateHp | codeRateLp | guardInterval
  | transmissionMode | hierarchy | streamId
  deriving DecidableEq, Repr

instance : Coded PropertyKey where
  all := [.tune, .frequency, .modulation, .bandwidthHz, .inversion, .symbolRate, .innerFec, .voltage,
    .tone, .pilot, .rolloff, .deliverySystem, .codeRateHp, .codeRateLp, .guardInterval,
    .transmissionMode, .hierarchy, .streamId]
  entry
    | .tune => (1, "TUNE")
    | .frequency => (3, "FREQUENCY")
    | .modulation => (4, "MODULATION")
    | .bandwidthHz => (5, "BANDWIDTH_HZ")
    | .inversion => (6, "INVERSION")
    | .symbolRate => (8, "SYMBOL_RATE")
    | .innerFec => (9, "INNER_FEC")
    | .voltage => (10, "VOLTAGE")
    | .tone => (11, "TONE")
    | .pilot => (12, "PILOT")
    | .rolloff => (13, "ROLLOFF")
    | .deliverySystem => (17, "DELIVERY_SYSTEM")
    | .codeRateHp => (36, "CODE_RATE_HP")
    | .codeRateLp => (37, "CODE_RATE_LP")
    | .guardInterval => (38, "GUARD_INTERVAL")
    | .transmissionMode => (39, "TRANSMISSION_MODE")
    | .hierarchy => (40, "HIERARCHY")
    | .streamId => (42, "STREAM_ID")

inductive DeliverySystem where
  | dvbT | dvbS | dvbS2 | dvbT2
  deriving DecidableEq, Repr

instance : Coded DeliverySystem where
  all := [.dvbT, .dvbS, .dvbS2, .dvbT2]
  entry
    | .dvbT => (3, "T")
    | .dvbS => (5, "S1")
    | .dvbS2 => (6, "S2")
    | .dvbT2 => (16, "T2")

/-- The media of transmission. The generations of one family share their physical channels. -/
inductive DeliveryFamily where
  | satellite | terrestrial
  deriving DecidableEq, Repr

def DeliverySystem.family : DeliverySystem → DeliveryFamily
  | dvbS | dvbS2 => .satellite
  | dvbT | dvbT2 => .terrestrial

inductive CodeRate where
  | none | fec1_2 | fec2_3 | fec3_4 | fec4_5 | fec5_6 | fec6_7 | fec7_8 | fec8_9 | auto | fec3_5
  | fec9_10
  deriving DecidableEq, Repr

instance : Coded CodeRate where
  all := [.none, .fec1_2, .fec2_3, .fec3_4, .fec4_5, .fec5_6, .fec6_7, .fec7_8, .fec8_9, .auto,
    .fec3_5, .fec9_10]
  entry
    | .none => (0, "NONE")
    | .fec1_2 => (1, "1/2")
    | .fec2_3 => (2, "2/3")
    | .fec3_4 => (3, "3/4")
    | .fec4_5 => (4, "4/5")
    | .fec5_6 => (5, "5/6")
    | .fec6_7 => (6, "6/7")
    | .fec7_8 => (7, "7/8")
    | .fec8_9 => (8, "8/9")
    | .auto => (9, "AUTO")
    | .fec3_5 => (10, "3/5")
    | .fec9_10 => (11, "9/10")

inductive Modulation where
  | qpsk | qam16 | qam32 | qam64 | qam128 | qam256 | auto | vsb8 | vsb16 | psk8 | apsk16 | apsk32
  | dqpsk
  deriving DecidableEq, Repr

instance : Coded Modulation where
  all := [.qpsk, .qam16, .qam32, .qam64, .qam128, .qam256, .auto, .vsb8, .vsb16, .psk8, .apsk16,
    .apsk32, .dqpsk]
  entry
    | .qpsk => (0, "QPSK")
    | .qam16 => (1, "QAM16")
    | .qam32 => (2, "QAM32")
    | .qam64 => (3, "QAM64")
    | .qam128 => (4, "QAM128")
    | .qam256 => (5, "QAM256")
    | .auto => (6, "AUTO")
    | .vsb8 => (7, "8VSB")
    | .vsb16 => (8, "16VSB")
    | .psk8 => (9, "8PSK")
    | .apsk16 => (10, "APSK16")
    | .apsk32 => (11, "APSK32")
    | .dqpsk => (12, "DQPSK")

inductive TransmissionMode where
  | mode2K | mode8K | auto | mode4K | mode1K | mode16K | mode32K
  deriving DecidableEq, Repr

instance : Coded TransmissionMode where
  all := [.mode2K, .mode8K, .auto, .mode4K, .mode1K, .mode16K, .mode32K]
  entry
    | .mode2K => (0, "2K")
    | .mode8K => (1, "8K")
    | .auto => (2, "AUTO")
    | .mode4K => (3, "4K")
    | .mode1K => (4, "1K")
    | .mode16K => (5, "16K")
    | .mode32K => (6, "32K")

inductive GuardInterval where
  | gi1_32 | gi1_16 | gi1_8 | gi1_4 | auto | gi1_128 | gi19_128 | gi19_256
  deriving DecidableEq, Repr

instance : Coded GuardInterval where
  all := [.gi1_32, .gi1_16, .gi1_8, .gi1_4, .auto, .gi1_128, .gi19_128, .gi19_256]
  entry
    | .gi1_32 => (0, "1/32")
    | .gi1_16 => (1, "1/16")
    | .gi1_8 => (2, "1/8")
    | .gi1_4 => (3, "1/4")
    | .auto => (4, "AUTO")
    | .gi1_128 => (5, "1/128")
    | .gi19_128 => (6, "19/128")
    | .gi19_256 => (7, "19/256")

inductive Hierarchy where
  | none | h1 | h2 | h4 | auto
  deriving DecidableEq, Repr

instance : Coded Hierarchy where
  all := [.none, .h1, .h2, .h4, .auto]
  entry
    | .none => (0, "NONE")
    | .h1 => (1, "1")
    | .h2 => (2, "2")
    | .h4 => (3, "4")
    | .auto => (4, "AUTO")

inductive Rolloff where
  | r35 | r20 | r25 | auto
  deriving DecidableEq, Repr

instance : Coded Rolloff where
  all := [.r35, .r20, .r25, .auto]
  entry
    | .r35 => (0, "35")
    | .r20 => (1, "20")
    | .r25 => (2, "25")
    | .auto => (3, "AUTO")

/-- Supply voltages of the outdoor converter; the voltage selects the polarization. -/
inductive Voltage where
  | v13 | v18 | off
  deriving DecidableEq, Repr

instance : Coded Voltage where
  all := [.v13, .v18, .off]
  entry
    | .v13 => (0, "13V")
    | .v18 => (1, "18V")
    | .off => (2, "OFF")

inductive Tone where
  | on | off
  deriving DecidableEq, Repr

instance : Coded Tone where
  all := [.on, .off]
  entry
    | .on => (0, "ON")
    | .off => (1, "OFF")

inductive Pilot where
  | on | off | auto
  deriving DecidableEq, Repr

instance : Coded Pilot where
  all := [.on, .off, .auto]
  entry
    | .on => (0, "ON")
    | .off => (1, "OFF")
    | .auto => (2, "AUTO")

inductive Inversion where
  | off | on | auto
  deriving DecidableEq, Repr

instance : Coded Inversion where
  all := [.off, .on, .auto]
  entry
    | .off => (0, "OFF")
    | .on => (1, "ON")
    | .auto => (2, "AUTO")

inductive Polarization where
  | horizontal | vertical | left | right
  deriving DecidableEq, Repr

instance : Coded Polarization where
  all := [.horizontal, .vertical, .left, .right]
  entry
    | .horizontal => (0, "H")
    | .vertical => (1, "V")
    | .left => (2, "L")
    | .right => (3, "R")

def Polarization.voltage : Polarization → Voltage
  | horizontal | left => .v18
  | vertical | right => .v13

end DvbScan
