import DvbScan.Tuning.Vocabulary

/-!
# Tunings

A tuning is the ordered list of properties that brings a frontend to one channel. The device applies the
properties when it meets the command `tune`, so a list built here ends with that command and has it
nowhere else.
-/

namespace DvbScan

structure Tuning where
  entries : List (PropertyKey × UInt32)
  deriving DecidableEq, Repr

namespace Tuning

def empty : Tuning := ⟨[]⟩

instance : Inhabited Tuning := ⟨empty⟩

def get? (tuning : Tuning) (key : PropertyKey) : Option UInt32 :=
  (tuning.entries.find? fun entry => entry.1 == key).map (·.2)

def overwrite (key : PropertyKey) (value : UInt32) :
    List (PropertyKey × UInt32) → List (PropertyKey × UInt32)
  | [] => []
  | entry :: rest =>
    if entry.1 == key then (key, value) :: rest else entry :: overwrite key value rest

/-- Adds an entry at the end, or just before a closing `tune` command; a list without such a command
gets one, unless the new entry is the command itself. -/
def append (key : PropertyKey) (value : UInt32) (entries : List (PropertyKey × UInt32)) :
    List (PropertyKey × UInt32) :=
  match key, entries.getLast? with
  | .tune, _ => entries ++ [(.tune, value)]
  | _, some (.tune, command) => entries.dropLast ++ [(key, value), (.tune, command)]
  | _, _ => entries ++ [(key, value), (.tune, 1)]

def set (tuning : Tuning) (key : PropertyKey) (value : UInt32) : Tuning :=
  if tuning.entries.any (·.1 == key) then ⟨overwrite key value tuning.entries⟩
  else ⟨append key value tuning.entries⟩

def setAll (tuning : Tuning) (pairs : List (PropertyKey × UInt32)) : Tuning :=
  pairs.foldl (fun tuning pair => tuning.set pair.1 pair.2) tuning

def ofPairs (pairs : List (PropertyKey × UInt32)) : Tuning :=
  empty.setAll pairs

/-- Sets the listed properties in order; a code that names no property is passed over. -/
def ofCodes (pairs : List (UInt32 × UInt32)) : Tuning :=
  ofPairs (pairs.filterMap fun pair => (Coded.ofCode? pair.1).map (·, pair.2))

def toCodes (tuning : Tuning) : List (UInt32 × UInt32) :=
  tuning.entries.map fun entry => (Coded.code entry.1, entry.2)

def named? (tuning : Tuning) (key : PropertyKey) (α : Type) [Coded α] : Option α :=
  (tuning.get? key).bind Coded.ofCode?

def system? (tuning : Tuning) : Option DeliverySystem :=
  tuning.named? .deliverySystem DeliverySystem

def family? (tuning : Tuning) : Option DeliveryFamily :=
  tuning.system?.map DeliverySystem.family

/-- The frequency that the device is set to: the intermediate frequency in kHz for satellite, the centre
frequency in Hz for terrestrial. -/
def frequency? (tuning : Tuning) : Option UInt32 :=
  tuning.get? .frequency

def voltage? (tuning : Tuning) : Option Voltage :=
  tuning.named? .voltage Voltage

def tone? (tuning : Tuning) : Option Tone :=
  tuning.named? .tone Tone

end Tuning

end DvbScan
