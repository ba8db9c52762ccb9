/-!
# Computations with a result

A computation in steps has a result exactly if every step has one.
-/

namespace DvbScan

theorem bind_eq_ok {ε α β : Type} {first : Except ε α} {second : α → Except ε β} {result : β} :
    first >>= second = .ok result ↔ ∃ value, first = .ok value ∧ second value = .ok result := by
  cases first with
  | error reason => simp [bind, Except.bind]
  | ok value => simp [bind, Except.bind]

theorem map_eq_ok {ε α β : Type} {first : Except ε α} {change : α → β} {result : β}
    (mapped : first.map change = .ok result) : ∃ value, first = .ok value ∧ change value = result := by
  cases first with
  | error reason => cases mapped
  | ok value =>
    cases mapped
    exact ⟨value, rfl, rfl⟩

end DvbScan
