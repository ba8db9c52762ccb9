import DvbScan.Text.Hexadecimal
import DvbScan.Tuning.Basic

/-!
# When two tunings reach the same channel

A multiplex is announced with slightly different frequencies and with parameters that do not matter for
finding it. The key of a tuning keeps its family, its polarization and band, and its frequency in steps of
2 MHz; a scan visits one tuning for each key. The key is never tuned to.
-/

namespace DvbScan

structure EquivalenceKey where
  value : Nat
  deriving DecidableEq, Repr

namespace EquivalenceKey

def bound : Nat := 1 <<< 42

def text (key : EquivalenceKey) : String :=
  "0x" ++ Hexadecimal.write key.value

end EquivalenceKey

namespace Tuning

def familyNumber : Option DeliveryFamily → Nat
  | some .satellite => 1
  | some .terrestrial => 2
  | none => 0

/-- The units of the programmed frequency in one MHz; an unknown family counts in Hz. -/
def unitsPerMegahertz : Option DeliveryFamily → Nat
  | some .satellite => 1000
  | some .terrestrial | none => 1000000

def frequencyBucket (tuning : Tuning) : Nat :=
  (tuning.frequency?.getD 0).toNat / unitsPerMegahertz tuning.family? / 2

/-- The tone in effect: off unless it is set to a known value. -/
def effectiveTone (tuning : Tuning) : Tone :=
  tuning.tone?.getD .off

def effectiveVoltage (tuning : Tuning) : Voltage :=
  tuning.voltage?.getD .off

/-- The family takes the bits from 40 up, the tone those from 36, the voltage those from 32, and the
bucket the word below. -/
def equivalence (tuning : Tuning) : EquivalenceKey where
  value := (familyNumber tuning.family? <<< 40) + ((Coded.code tuning.effectiveTone).toNat <<< 36) +
    ((Coded.code tuning.effectiveVoltage).toNat <<< 32) + tuning.frequencyBucket

theorem frequencyBucket_lt (tuning : Tuning) : tuning.frequencyBucket < UInt32.size :=
  calc tuning.frequencyBucket
    _ ≤ (tuning.frequency?.getD 0).toNat / unitsPerMegahertz tuning.family? := Nat.div_le_self _ 2
    _ ≤ (tuning.frequency?.getD 0).toNat := Nat.div_le_self _ _
    _ < UInt32.size := UInt32.toNat_lt_size _

theorem equivalence_lt (tuning : Tuning) : tuning.equivalence.value < EquivalenceKey.bound := by
  have bucket := tuning.frequencyBucket_lt
  have family : familyNumber tuning.family? ≤ 2 := by
    rcases tuning.family? with _ | _ | _ <;> decide
  have tone : (Coded.code tuning.effectiveTone).toNat ≤ 1 := by
    cases tuning.effectiveTone <;> decide
  have voltage : (Coded.code tuning.effectiveVoltage).toNat ≤ 2 := by
    cases tuning.effectiveVoltage <;> decide
  simp only [equivalence, EquivalenceKey.bound, UInt32.size] at bucket ⊢
  omega

def isEquivalent (first second : Tuning) : Bool :=
  first.equivalence == second.equivalence

end Tuning

end DvbScan
