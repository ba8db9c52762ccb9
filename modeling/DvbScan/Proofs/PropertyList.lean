import DvbScan.Proofs.Vocabularies
import DvbScan.Tuning.Basic

/-!
# Lists of distinct properties

A tuning that is built from distinct properties has them in order and the command `tune` behind them, so that
each is found with its value.
-/

namespace DvbScan

namespace Tuning

/-- Properties with different keys, none of them the command. -/
def Distinct (pairs : List (PropertyKey × UInt32)) : Prop :=
  (PropertyKey.tune :: pairs.map (·.1)).Nodup

variable {pairs done : List (PropertyKey × UInt32)} {key : PropertyKey} {value : UInt32}

theorem append_of_command (different : key ≠ .tune) :
    append key value (done ++ [(.tune, 1)]) = done ++ [(key, value)] ++ [(.tune, 1)] := by
  unfold append
  rw [List.getLast?_append, List.getLast?_singleton, List.dropLast_concat]
  cases key with
  | tune => exact absurd rfl different
  | _ => simp

theorem set_of_new (new : ∀ entry ∈ done, entry.1 ≠ key) (different : key ≠ .tune) :
    Tuning.set ⟨done ++ [(.tune, 1)]⟩ key value = ⟨done ++ [(key, value)] ++ [(.tune, 1)]⟩ := by
  have absent : (done ++ [(PropertyKey.tune, (1 : UInt32))]).any (·.1 == key) = false := by
    rw [List.any_eq_false]
    intro entry member
    rw [beq_iff_eq]
    rcases List.mem_append.mp member with earlier | last
    · exact new entry earlier
    · rw [List.mem_singleton.mp last]
      exact Ne.symm different
  unfold Tuning.set
  rw [absent, append_of_command different]
  rfl

theorem setAll_of_distinct (distinct : Distinct (done ++ pairs)) :
    setAll ⟨done ++ [(.tune, 1)]⟩ pairs = ⟨done ++ pairs ++ [(.tune, 1)]⟩ := by
  induction pairs generalizing done with
  | nil => rw [List.append_nil]; rfl
  | cons pair rest ih =>
    obtain ⟨key, value⟩ := pair
    have keys := distinct
    unfold Distinct at keys
    rw [List.map_append, List.map_cons, List.nodup_cons, List.nodup_append] at keys
    obtain ⟨free, -, -, apart⟩ := keys
    have different : key ≠ .tune := by
      rintro rfl
      exact free (List.mem_append_right _ List.mem_cons_self)
    have new : ∀ entry ∈ done, entry.1 ≠ key := fun entry member =>
      apart entry.1 (List.mem_map.mpr ⟨entry, member, rfl⟩) key List.mem_cons_self
    have later : Distinct (done ++ [(key, value)] ++ rest) := by
      rw [List.append_assoc]
      exact distinct
    calc setAll ⟨done ++ [(.tune, 1)]⟩ ((key, value) :: rest)
      _ = setAll (Tuning.set ⟨done ++ [(.tune, 1)]⟩ key value) rest := rfl
      _ = ⟨done ++ [(key, value)] ++ rest ++ [(.tune, 1)]⟩ := by rw [set_of_new new different, ih later]
      _ = ⟨done ++ (key, value) :: rest ++ [(.tune, 1)]⟩ := by simp

theorem ofPairs_of_distinct (distinct : Distinct pairs) (some_pair : pairs ≠ []) :
    ofPairs pairs = ⟨pairs ++ [(.tune, 1)]⟩ := by
  cases pairs with
  | nil => exact absurd rfl some_pair
  | cons pair rest =>
    obtain ⟨key, value⟩ := pair
    have different : key ≠ .tune := by
      rintro rfl
      exact (List.nodup_cons.mp distinct).1 List.mem_cons_self
    have first : empty.set key value = ⟨[(key, value)] ++ [(.tune, 1)]⟩ := by
      cases key with
      | tune => exact absurd rfl different
      | _ => rfl
    calc ofPairs ((key, value) :: rest)
      _ = setAll (empty.set key value) rest := rfl
      _ = ⟨[(key, value)] ++ rest ++ [(.tune, 1)]⟩ := by rw [first, setAll_of_distinct distinct]

theorem get?_of_mem (distinct : (pairs.map (·.1)).Nodup) (member : (key, value) ∈ pairs) :
    Tuning.get? ⟨pairs⟩ key = some value := by
  unfold get?
  induction pairs with
  | nil => cases member
  | cons pair rest ih =>
    rw [List.map_cons, List.nodup_cons] at distinct
    rcases List.mem_cons.mp member with rfl | later
    · simp
    · have past : pair.1 ≠ key := fun same =>
        distinct.1 (same ▸ List.mem_map.mpr ⟨_, later, rfl⟩)
      rw [List.find?_cons, beq_false_of_ne past]
      exact ih distinct.2 later

theorem get?_ofPairs (distinct : Distinct pairs) (member : (key, value) ∈ pairs) :
    (ofPairs pairs).get? key = some value := by
  rw [ofPairs_of_distinct distinct (List.ne_nil_of_mem member)]
  refine get?_of_mem ?_ (List.mem_append_left _ member)
  rw [List.map_append]
  exact (List.perm_append_singleton _ _).nodup_iff.mpr distinct

theorem named?_ofPairs {α : Type} [Coded α] [LawfulCoded α] {named : α} (distinct : Distinct pairs)
    (member : (key, Coded.code named) ∈ pairs) : (ofPairs pairs).named? key α = some named := by
  unfold named?
  rw [get?_ofPairs distinct member]
  exact ofCode?_code named

theorem get?_ofPairs_of_absent (distinct : Distinct pairs) (different : key ≠ .tune)
    (absent : ∀ pair ∈ pairs, pair.1 ≠ key) : (ofPairs pairs).get? key = none := by
  cases pairs with
  | nil => rfl
  | cons pair rest =>
    rw [ofPairs_of_distinct distinct (List.cons_ne_nil _ _)]
    unfold get?
    rw [Option.map_eq_none_iff, List.find?_eq_none]
    intro entry member
    rw [beq_iff_eq]
    rcases List.mem_append.mp member with listed | last
    · exact absent entry listed
    · rw [List.mem_singleton.mp last]
      exact Ne.symm different

end Tuning

end DvbScan
