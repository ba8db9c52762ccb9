import DvbScan.Proofs.TuningRoundTrip
import Mathlib.Data.List.Nodup
import Mathlib.Data.List.Perm.Subperm

/-!
# Tunings built by setting properties

However a tuning is built, its properties are set one after the other. So it has different properties with the
command `tune` behind them, unless nothing was set, and setting its own entries in order builds it again.
-/

namespace DvbScan

namespace Tuning

variable {tuning : Tuning} {key : PropertyKey} {value : UInt32}
  {entries : List (PropertyKey × UInt32)}

inductive Constructed : Tuning → Prop where
  | line {text : String} {tuning : Tuning} (read : parse text = .ok tuning) : Constructed tuning
  | transponder (transponder : Transponder) : Constructed transponder.toTuning
  | multiplex (multiplex : Multiplex) : Constructed multiplex.toTuning
  | codes (pairs : List (UInt32 × UInt32)) : Constructed (ofCodes pairs)
  | set {tuning : Tuning} (built : Constructed tuning) (key : PropertyKey) (value : UInt32) :
    Constructed (tuning.set key value)

def keys (tuning : Tuning) : List PropertyKey := tuning.entries.map (·.1)

/-- Different properties, and the command behind them. -/
def IsClosed (tuning : Tuning) : Prop :=
  ∃ others, tuning.keys = others ++ [.tune] ∧ (others ++ [PropertyKey.tune]).Nodup

theorem entries_of_keys {others : List PropertyKey} (shape : tuning.keys = others ++ [.tune]) :
    ∃ pairs command, pairs.map (·.1) = others ∧ tuning = ⟨pairs ++ [(.tune, command)]⟩ := by
  obtain ⟨pairs, last, split, named, command⟩ := List.map_eq_append_iff.mp shape
  obtain ⟨⟨last, code⟩, rfl, rfl⟩ := List.map_eq_singleton_iff.mp command
  exact ⟨pairs, code, named, congrArg Tuning.mk split⟩

theorem IsClosed.split (closed : tuning.IsClosed) :
    ∃ pairs command, Distinct pairs ∧ tuning = ⟨pairs ++ [(.tune, command)]⟩ := by
  obtain ⟨others, shape, distinct⟩ := closed
  obtain ⟨pairs, command, rfl, rfl⟩ := entries_of_keys shape
  exact ⟨pairs, command, (List.perm_append_singleton _ _).nodup_iff.mp distinct, rfl⟩

theorem map_fst_overwrite (key : PropertyKey) (value : UInt32) (entries : List (PropertyKey × UInt32)) :
    (overwrite key value entries).map (·.1) = entries.map (·.1) := by
  induction entries with
  | nil => rfl
  | cons entry rest ih =>
    rw [overwrite]
    split
    next same =>
      obtain rfl : entry.1 = key := by simpa using same
      rfl
    next => rw [List.map_cons, List.map_cons, ih]

theorem overwrite_append_of_absent {later : List (PropertyKey × UInt32)}
    (absent : ∀ entry ∈ entries, entry.1 ≠ key) :
    overwrite key value (entries ++ later) = entries ++ overwrite key value later := by
  induction entries with
  | nil => rfl
  | cons entry rest ih =>
    have past : (entry.1 == key) = false := beq_false_of_ne (absent entry List.mem_cons_self)
    rw [List.cons_append, overwrite, past, ih fun other member => absent other (List.mem_cons_of_mem _ member)]
    rfl

theorem set_of_mem (present : key ∈ tuning.keys) :
    tuning.set key value = ⟨overwrite key value tuning.entries⟩ := by
  have found : tuning.entries.any (·.1 == key) = true := by
    obtain ⟨entry, member, rfl⟩ := List.mem_map.mp present
    exact List.any_eq_true.mpr ⟨entry, member, beq_self_eq_true _⟩
  unfold Tuning.set
  rw [if_pos found]

theorem keys_set_of_mem (present : key ∈ tuning.keys) : (tuning.set key value).keys = tuning.keys := by
  rw [set_of_mem present]
  exact map_fst_overwrite key value tuning.entries

theorem set_of_not_mem (absent : key ∉ tuning.keys) :
    tuning.set key value = ⟨append key value tuning.entries⟩ := by
  unfold Tuning.set
  rw [if_neg]
  rw [List.any_eq_true]
  rintro ⟨entry, member, same⟩
  exact absent (List.mem_map.mpr ⟨entry, member, by simpa using same⟩)

/-- A new property goes before the command. -/
theorem set_of_new_key {pairs : List (PropertyKey × UInt32)} {command : UInt32}
    (new : key ∉ PropertyKey.tune :: pairs.map (·.1)) :
    Tuning.set ⟨pairs ++ [(.tune, command)]⟩ key value = ⟨pairs ++ [(key, value), (.tune, command)]⟩ := by
  have different : key ≠ .tune := List.ne_of_not_mem_cons new
  have absent : key ∉ (Tuning.mk (pairs ++ [(.tune, command)])).keys := by simpa [keys, or_comm] using new
  rw [set_of_not_mem absent]
  unfold append
  rw [List.getLast?_concat, List.dropLast_concat]
  cases key with
  | tune => exact absurd rfl different
  | _ => rfl

theorem keys_set_of_new {others : List PropertyKey} (shape : tuning.keys = others ++ [.tune])
    (new : key ∉ tuning.keys) : (tuning.set key value).keys = others ++ [key, .tune] := by
  obtain ⟨pairs, command, rfl, rfl⟩ := entries_of_keys shape
  rw [set_of_new_key (by simpa [keys, or_comm] using new)]
  simp [keys]

theorem isClosed_set_empty (key : PropertyKey) (value : UInt32) : (empty.set key value).IsClosed := by
  cases key with
  | tune => exact ⟨[], rfl, by simp⟩
  | _ => exact ⟨[_], rfl, by simp⟩

theorem IsClosed.set (closed : tuning.IsClosed) (key : PropertyKey) (value : UInt32) :
    (tuning.set key value).IsClosed := by
  obtain ⟨others, shape, distinct⟩ := closed
  by_cases present : key ∈ tuning.keys
  · exact ⟨others, (keys_set_of_mem present).trans shape, distinct⟩
  · refine ⟨others ++ [key], by simp [keys_set_of_new shape present], ?_⟩
    rw [shape, List.mem_append, List.mem_singleton] at present
    rw [List.append_assoc, List.singleton_append, List.nodup_middle, List.nodup_cons, List.mem_append,
      List.mem_singleton]
    exact ⟨present, distinct⟩

theorem isClosed_setAll (pairs : List (PropertyKey × UInt32)) (start : tuning = empty ∨ tuning.IsClosed) :
    tuning.setAll pairs = empty ∨ (tuning.setAll pairs).IsClosed := by
  induction pairs generalizing tuning with
  | nil => exact start
  | cons pair rest ih =>
    have next : (tuning.set pair.1 pair.2).IsClosed := by
      rcases start with rfl | closed
      · exact isClosed_set_empty pair.1 pair.2
      · exact closed.set pair.1 pair.2
    exact ih (.inr next)

theorem isClosed_ofPairs (pairs : List (PropertyKey × UInt32)) :
    ofPairs pairs = empty ∨ (ofPairs pairs).IsClosed := isClosed_setAll pairs (.inl rfl)

theorem Constructed.isClosed (built : Constructed tuning) : tuning = empty ∨ tuning.IsClosed := by
  induction built with
  | line read =>
    cases regular_of_parse read with
    | @transponder transponder => exact isClosed_ofPairs transponder.properties
    | @multiplex multiplex => exact isClosed_ofPairs multiplex.properties
  | transponder transponder => exact isClosed_ofPairs transponder.properties
  | multiplex multiplex => exact isClosed_ofPairs multiplex.properties
  | codes pairs => exact isClosed_ofPairs _
  | set built key value ih =>
    refine .inr ?_
    rcases ih with rfl | closed
    · exact isClosed_set_empty key value
    · exact closed.set key value

namespace IsClosed

theorem ofPairs_entries (closed : tuning.IsClosed) : ofPairs tuning.entries = tuning := by
  obtain ⟨pairs, command, distinct, rfl⟩ := closed.split
  cases pairs with
  | nil => rfl
  | cons pair rest =>
    have others : ∀ entry ∈ pair :: rest, entry.1 ≠ .tune := by
      intro entry member same
      exact (List.nodup_cons.mp distinct).1 (same ▸ List.mem_map_of_mem member)
    calc ofPairs (pair :: rest ++ [(.tune, command)])
      _ = (ofPairs (pair :: rest)).set .tune command := by
        unfold ofPairs setAll
        rw [List.foldl_append]
        rfl
      _ = ⟨overwrite .tune command (pair :: rest ++ [(.tune, 1)])⟩ := by
        rw [ofPairs_of_distinct distinct (List.cons_ne_nil _ _)]
        unfold Tuning.set
        rw [if_pos]
        simp
      _ = ⟨pair :: rest ++ [(.tune, command)]⟩ := by
        rw [overwrite_append_of_absent others]
        rfl

theorem ofCodes_toCodes (closed : tuning.IsClosed) : ofCodes tuning.toCodes = tuning := by
  have decoded : tuning.toCodes.filterMap (fun pair => (Coded.ofCode? pair.1).map (·, pair.2)) =
      tuning.entries := by
    unfold toCodes
    rw [List.filterMap_map]
    refine (List.filterMap_congr fun entry _ => ?_).trans List.filterMap_some
    simp [ofCode?_code]
  unfold ofCodes
  rw [decoded]
  exact closed.ofPairs_entries

theorem length_le (closed : tuning.IsClosed) :
    tuning.entries.length ≤ (Coded.all : List PropertyKey).length := by
  obtain ⟨others, shape, distinct⟩ := closed
  have listed : tuning.keys ⊆ Coded.all := fun key _ =>
    List.mem_of_find?_eq_some (ofCode?_code key)
  have fewer := ((shape ▸ distinct).subperm listed).length_le
  rwa [keys, List.length_map] at fewer

end IsClosed

end Tuning

end DvbScan
