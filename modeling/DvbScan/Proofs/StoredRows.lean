import DvbScan.Store.Query
import Mathlib.Data.List.Nodup

/-!
# The rows of a source

A table is known by the rows of each source. Writing under a source changes the rows of that source only: a
written row takes the place of the one with its key, and rows with different keys stand at the end in the order
in which they are written.
-/

namespace DvbScan

namespace StoreTable

variable {α κ : Type} [DecidableEq κ] {key : α → κ} {table : StoreTable α} {source other : String}
  {row : α} {rows : List α} {test : α → Bool}

theorem ofSource_append (first second : StoreTable α) (source : String) :
    ofSource (first ++ second) source = first.ofSource source ++ second.ofSource source := by
  unfold ofSource
  rw [List.filter_append, List.map_append]

theorem mem_ofSource : row ∈ table.ofSource source ↔ ⟨source, row⟩ ∈ table := by
  unfold ofSource
  rw [List.mem_map]
  constructor
  · rintro ⟨⟨owner, stored⟩, kept, rfl⟩
    obtain ⟨member, own⟩ := List.mem_filter.mp kept
    obtain rfl : owner = source := by simpa using own
    exact member
  · intro member
    exact ⟨⟨source, row⟩, List.mem_filter.mpr ⟨member, by simp⟩, rfl⟩

@[simp]
theorem ofSource_singleton_self (source : String) (row : α) : ofSource [⟨source, row⟩] source = [row] := by
  simp [ofSource]

theorem ofSource_singleton_of_ne (different : other ≠ source) (row : α) :
    ofSource [⟨source, row⟩] other = [] := by
  simp [ofSource, Ne.symm different]

theorem has_iff : table.has source test = true ↔ ∃ row ∈ table.ofSource source, test row = true := by
  unfold has
  rw [List.any_eq_true]
  constructor
  · rintro ⟨⟨owner, row⟩, member, own⟩
    rw [Bool.and_eq_true, beq_iff_eq] at own
    obtain ⟨rfl, passes⟩ := own
    exact ⟨row, mem_ofSource.mpr member, passes⟩
  · rintro ⟨row, member, passes⟩
    exact ⟨⟨source, row⟩, mem_ofSource.mp member, by simp [passes]⟩

theorem ofSource_erase_self (table : StoreTable α) (source : String) (test : α → Bool) :
    (table.erase source test).ofSource source = (table.ofSource source).filter (!test ·) := by
  unfold erase ofSource
  rw [List.filter_map, List.filter_filter, List.filter_filter]
  refine congrArg _ (List.filter_congr fun stored _ => ?_)
  cases stored.source == source <;> simp

theorem ofSource_erase_of_ne (different : other ≠ source) (table : StoreTable α) (test : α → Bool) :
    (table.erase source test).ofSource other = table.ofSource other := by
  unfold erase ofSource
  rw [List.filter_filter]
  refine congrArg _ (List.filter_congr fun stored _ => ?_)
  by_cases own : stored.source = source
  · simp [own, Ne.symm different]
  · simp [own]

theorem ofSource_put_self (key : α → κ) (source : String) (table : StoreTable α) (row : α) :
    (put key source table row).ofSource source =
      (table.ofSource source).filter (fun old => !(key old == key row)) ++ [row] := by
  unfold put
  rw [ofSource_append, ofSource_erase_self, ofSource_singleton_self]

theorem ofSource_put_of_ne (different : other ≠ source) (key : α → κ) (table : StoreTable α) (row : α) :
    (put key source table row).ofSource other = table.ofSource other := by
  unfold put
  rw [ofSource_append, ofSource_erase_of_ne different, ofSource_singleton_of_ne different, List.append_nil]

theorem ofSource_putAll_of_ne (different : other ≠ source) (key : α → κ) (table : StoreTable α)
    (rows : List α) : (table.putAll key source rows).ofSource other = table.ofSource other := by
  induction rows generalizing table with
  | nil => rfl
  | cons row rest ih => exact (ih _).trans (ofSource_put_of_ne different key table row)

theorem ofSource_putAll_self (distinct : (rows.map key).Nodup) (table : StoreTable α) (source : String) :
    (table.putAll key source rows).ofSource source =
      (table.ofSource source).filter (fun old => !rows.any (key old == key ·)) ++ rows := by
  induction rows generalizing table with
  | nil => simp [putAll]
  | cons row rest ih =>
    rw [List.map_cons, List.nodup_cons] at distinct
    have kept : !rest.any (key row == key ·) := by
      rw [Bool.not_eq_true', List.any_eq_false]
      intro later member
      rw [beq_iff_eq]
      intro same
      exact distinct.1 (same ▸ List.mem_map_of_mem member)
    calc (table.putAll key source (row :: rest)).ofSource source
      _ = ((put key source table row).putAll key source rest).ofSource source := rfl
      _ = ((put key source table row).ofSource source).filter
            (fun old => !rest.any (key old == key ·)) ++ rest := ih distinct.2 _
      _ = (table.ofSource source).filter (fun old => !(row :: rest).any (key old == key ·)) ++
            row :: rest := by
        rw [ofSource_put_self, List.filter_append, List.filter_filter, List.filter_singleton, kept]
        simp [Bool.and_comm]

theorem mem_ofSource_putAll_self (distinct : (rows.map key).Nodup) :
    row ∈ (table.putAll key source rows).ofSource source ↔
      row ∈ rows ∨ row ∈ table.ofSource source ∧ ∀ new ∈ rows, key new ≠ key row := by
  rw [ofSource_putAll_self distinct, List.mem_append, List.mem_filter, or_comm]
  refine or_congr Iff.rfl (and_congr Iff.rfl ?_)
  rw [Bool.not_eq_true', List.any_eq_false]
  refine forall₂_congr fun new _ => ?_
  rw [beq_iff_eq, ne_comm]

end StoreTable

namespace Store

theorem foldl_least (numbers : List UInt16) (found : UInt16) :
    numbers.foldl (fun found number =>
      match found with
      | some best => some (if number < best then number else best)
      | none => some number) (some found) = some (numbers.foldl min found) := by
  induction numbers generalizing found with
  | nil => rfl
  | cons number rest ih =>
    have smaller : (if number < found then number else found) = min found number := by
      rw [Std.min_eq_if]
      by_cases less : number < found
      · rw [if_pos less, if_neg (UInt16.not_le.mpr less)]
      · rw [if_neg less, if_pos (UInt16.not_lt.mp less)]
    rw [List.foldl_cons, List.foldl_cons, ← smaller]
    exact ih _

theorem least?_eq_min? (numbers : List UInt16) : least? numbers = numbers.min? := by
  cases numbers with
  | nil => rfl
  | cons first rest => exact foldl_least rest first

theorem least?_eq_some_iff {numbers : List UInt16} {number : UInt16} :
    least? numbers = some number ↔ number ∈ numbers ∧ ∀ other ∈ numbers, number ≤ other := by
  rw [least?_eq_min?]
  exact List.min?_eq_some_iff

theorem least?_of_members {numbers : List UInt16} {has : UInt16 → Prop}
    (members : ∀ number, number ∈ numbers ↔ has number) :
    (∀ number, least? numbers = some number ↔ has number ∧ ∀ other, has other → number ≤ other) ∧
      ((least? numbers).isSome = true ↔ ∃ number, has number) := by
  refine ⟨fun number => ?_, ?_⟩
  · rw [least?_eq_some_iff]
    simp only [members]
  · rw [least?_eq_min?, List.isSome_min?_iff, ← exists_congr members]
    exact ⟨List.exists_mem_of_ne_nil numbers, fun ⟨_, member⟩ => List.ne_nil_of_mem member⟩

end Store

end DvbScan
