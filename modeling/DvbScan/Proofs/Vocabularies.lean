import DvbScan.Proofs.Tokens
import DvbScan.Tuning.Vocabulary

/-!
# Vocabularies read back

No two members of a vocabulary have one code or, but for the case of letters, one token. So every member is
found by its code and by its token.
-/

namespace DvbScan

/-- A vocabulary whose members are found by what stands for them, and whose tokens are words. -/
class LawfulCoded (α : Type) [Coded α] : Prop where
  ofCode?_code : ∀ value : α, Coded.ofCode? (Coded.code value) = some value
  ofToken?_token : ∀ value : α, Coded.ofToken? (Coded.token value) = some value
  isToken_token : ∀ value : α, isToken (Coded.token value) = true

export LawfulCoded (ofCode?_code ofToken?_token isToken_token)

theorem code_injective {α : Type} [Coded α] [LawfulCoded α] : Function.Injective (Coded.code : α → UInt32) := by
  intro first second same
  have found : Coded.ofCode? (Coded.code second) = some first := same ▸ ofCode?_code first
  exact Option.some.inj (found.symm.trans (ofCode?_code second))

namespace Coded

variable {α : Type} [Coded α] [DecidableEq α]

def readsBack (α : Type) [Coded α] [DecidableEq α] : Bool :=
  (all : List α).all fun value =>
    ofCode? (code value) == some value && ofToken? (token value) == some value &&
      isToken (token value)

theorem lawful_of_readsBack (listed : ∀ value : α, value ∈ (all : List α))
    (found : readsBack α = true) : LawfulCoded α := by
  have each : ∀ value : α, (ofCode? (code value) = some value ∧ ofToken? (token value) = some value) ∧
      isToken (token value) = true := by
    intro value
    have member := List.all_eq_true.mp found value (listed value)
    simpa only [Bool.and_eq_true, beq_iff_eq] using member
  exact ⟨fun value => (each value).1.1, fun value => (each value).1.2, fun value => (each value).2⟩

end Coded

instance : LawfulCoded PropertyKey :=
  Coded.lawful_of_readsBack (fun value => by cases value <;> decide) (by decide +kernel)

instance : LawfulCoded DeliverySystem :=
  Coded.lawful_of_readsBack (fun value => by cases value <;> decide) (by decide +kernel)

instance : LawfulCoded CodeRate :=
  Coded.lawful_of_readsBack (fun value => by cases value <;> decide) (by decide +kernel)

instance : LawfulCoded Modulation :=
  Coded.lawful_of_readsBack (fun value => by cases value <;> decide) (by decide +kernel)

instance : LawfulCoded TransmissionMode :=
  Coded.lawful_of_readsBack (fun value => by cases value <;> decide) (by decide +kernel)

instance : LawfulCoded GuardInterval :=
  Coded.lawful_of_readsBack (fun value => by cases value <;> decide) (by decide +kernel)

instance : LawfulCoded Hierarchy :=
  Coded.lawful_of_readsBack (fun value => by cases value <;> decide) (by decide +kernel)

instance : LawfulCoded Rolloff :=
  Coded.lawful_of_readsBack (fun value => by cases value <;> decide) (by decide +kernel)

instance : LawfulCoded Voltage :=
  Coded.lawful_of_readsBack (fun value => by cases value <;> decide) (by decide +kernel)

instance : LawfulCoded Tone :=
  Coded.lawful_of_readsBack (fun value => by cases value <;> decide) (by decide +kernel)

instance : LawfulCoded Pilot :=
  Coded.lawful_of_readsBack (fun value => by cases value <;> decide) (by decide +kernel)

instance : LawfulCoded Inversion :=
  Coded.lawful_of_readsBack (fun value => by cases value <;> decide) (by decide +kernel)

instance : LawfulCoded Polarization :=
  Coded.lawful_of_readsBack (fun value => by cases value <;> decide) (by decide +kernel)

end DvbScan
