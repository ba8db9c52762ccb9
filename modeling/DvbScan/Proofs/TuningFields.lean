import DvbScan.Proofs.PropertyList
import DvbScan.Tuning.Parser
import DvbScan.Tuning.Printer
import Mathlib.Data.List.TakeWhile

/-!
# Fields of tuning strings

A field that is printed for a property is read as its value, and a line of fields is read as its fields are.
-/

namespace DvbScan

namespace Tuning

namespace Reading

theorem word_write (field : TuningField) (word : UInt32) :
    Reading.word field (Decimal.write word.toNat) = .ok word := by
  unfold Reading.word Reading.field
  rw [Decimal.readWord?_write]

theorem named_token {α : Type} [Coded α] [LawfulCoded α] (field : TuningField) (value : α) :
    named α field (Coded.token value) = .ok value := by
  unfold named Reading.field
  rw [ofToken?_token]

end Reading

variable {pairs : List (PropertyKey × UInt32)} {key : PropertyKey}

theorem numeralOf_ofPairs {value : UInt32} (distinct : Distinct pairs) (member : (key, value) ∈ pairs) :
    (ofPairs pairs).numeralOf key = Decimal.write value.toNat := by
  unfold numeralOf
  rw [get?_ofPairs distinct member]
  rfl

theorem tokenOf_ofPairs {α : Type} [Coded α] [LawfulCoded α] {named : α} (distinct : Distinct pairs)
    (member : (key, Coded.code named) ∈ pairs) :
    (ofPairs pairs).tokenOf key α = Coded.token named := by
  unfold tokenOf
  rw [named?_ofPairs distinct member]

theorem significantTokens_intercalate {tokens : List String}
    (clean : ∀ token ∈ tokens, isToken token = true) :
    significantTokens (" ".intercalate tokens) = tokens := by
  unfold significantTokens
  rw [words_intercalate clean]
  refine List.takeWhile_eq_self_iff.mpr fun token member => ?_
  have shape := clean token member
  unfold isToken at shape
  rw [Bool.and_eq_true] at shape
  exact shape.2

theorem parse_intercalate {tokens : List String} {tuning : Tuning}
    (clean : ∀ token ∈ tokens, isToken token = true) (read : readTokens tokens = .ok tuning) :
    parse (" ".intercalate tokens) = .ok tuning := by
  unfold parse
  rw [significantTokens_intercalate clean, read]
  rfl

end Tuning

end DvbScan
