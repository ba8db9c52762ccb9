import DvbScan.OrderedMap
import Mathlib.Data.List.Sort

/-!
# Looking up keys

What is found under a key says all about a map: which entries it has, whether it is empty and whether all its
values pass a test. Changing the value of a key changes what is found under that key only, and a set has the
members that were put into it.
-/

namespace DvbScan

namespace OrderedMap

variable {κ α : Type} [Ranked κ] {map : OrderedMap κ α} {key other : κ}

theorem rank_ne_of_ne (different : other ≠ key) : rank other ≠ rank key :=
  fun same => different (Ranked.rank_injective other key same)

theorem mem_entries_iff_get? {value : α} : (key, value) ∈ map.entries ↔ map.get? key = some value := by
  obtain ⟨entries, ordered⟩ := map
  simp only [get?]
  induction entries with
  | nil => simp
  | cons entry rest ih =>
    obtain ⟨below, tail⟩ := List.pairwise_cons.mp ordered
    rw [List.mem_cons, List.find?_cons]
    by_cases same : rank entry.1 = rank key
    · have key_eq : entry.1 = key := Ranked.rank_injective _ _ same
      subst key_eq
      simp only [beq_self_eq_true, Option.map_some, Option.some.injEq]
      constructor
      · rintro (here | later)
        · exact congrArg Prod.snd here.symm
        · exact absurd (below _ later) (Nat.lt_irrefl _)
      · rintro rfl
        exact .inl rfl
    · rw [beq_false_of_ne same]
      simp only
      rw [← ih tail]
      constructor
      · rintro (here | later)
        · exact absurd (congrArg (fun entry => rank entry.1) here.symm) same
        · exact later
      · exact .inr

theorem mem_values_of_get? {value : α} (found : map.get? key = some value) : value ∈ map.values :=
  List.mem_map_of_mem (f := Prod.snd) (mem_entries_iff_get?.mpr found)

theorem eq_of_mem_entries {first second : α} (former : (key, first) ∈ map.entries)
    (latter : (key, second) ∈ map.entries) : first = second := by
  rw [mem_entries_iff_get?] at former latter
  exact Option.some.inj (former.symm.trans latter)

theorem isEmpty_iff_get? : map.isEmpty = true ↔ ∀ key, map.get? key = none := by
  unfold isEmpty
  rw [List.isEmpty_iff]
  constructor
  · intro nothing key
    unfold get?
    rw [nothing]
    rfl
  · intro nothing
    refine List.eq_nil_iff_forall_not_mem.mpr fun entry member => ?_
    have found : map.get? entry.1 = some entry.2 := mem_entries_iff_get?.mp member
    rw [nothing] at found
    cases found

theorem all_values_iff_get? {test : α → Bool} :
    map.values.all test = true ↔ ∀ key value, map.get? key = some value → test value = true := by
  unfold values
  rw [List.all_map, List.all_eq_true]
  constructor
  · intro all key value found
    exact all (key, value) (mem_entries_iff_get?.mpr found)
  · intro all entry member
    exact all entry.1 entry.2 (mem_entries_iff_get?.mp member)

theorem mem_keys_iff_get? : key ∈ map.keys ↔ ∃ value, map.get? key = some value := by
  unfold keys
  rw [List.mem_map]
  constructor
  · rintro ⟨⟨_, value⟩, member, rfl⟩
    exact ⟨value, mem_entries_iff_get?.mp member⟩
  · rintro ⟨value, found⟩
    exact ⟨(key, value), mem_entries_iff_get?.mpr found, rfl⟩

theorem nodup_keys (map : OrderedMap κ α) : map.keys.Nodup := by
  unfold keys
  refine List.pairwise_map.mpr (map.ordered.imp fun before same => ?_)
  rw [same] at before
  exact Nat.lt_irrefl _ before

/-- What only the entry of a key contributes to is told by what is found under the key. -/
theorem flatMap_entries_of_key {β : Type} {part : κ × α → List β}
    (others : ∀ entry, entry.1 ≠ key → part entry = []) :
    map.entries.flatMap part = match map.get? key with
      | some value => part (key, value)
      | none => [] := by
  obtain ⟨entries, ordered⟩ := map
  simp only [get?]
  induction entries with
  | nil => rfl
  | cons entry rest ih =>
    obtain ⟨below, tail⟩ := List.pairwise_cons.mp ordered
    rw [List.flatMap_cons, List.find?_cons]
    by_cases same : rank entry.1 = rank key
    · have later : rest.flatMap part = [] := by
        refine List.flatMap_eq_nil_iff.mpr fun other member => others other fun own => ?_
        have above := below other member
        rw [own, same] at above
        exact Nat.lt_irrefl _ above
      rw [later, List.append_nil, same, beq_self_eq_true]
      exact congrArg part (Prod.ext (Ranked.rank_injective _ _ same) rfl)
    · have different : entry.1 ≠ key := fun own => same (congrArg rank own)
      rw [others entry different, List.nil_append, beq_false_of_ne same]
      exact ih tail

theorem get?_alter_self (change : Option α → α) :
    (map.alter key change).get? key = some (change (map.get? key)) := by
  obtain ⟨entries, ordered⟩ := map
  simp only [get?, alter]
  induction entries with
  | nil => simp [place]
  | cons entry rest ih =>
    obtain ⟨below, tail⟩ := List.pairwise_cons.mp ordered
    rw [place, @List.find?_cons _ entry rest]
    by_cases before : rank key < rank entry.1
    · -- every entry has a greater key
      have absent : rest.find? (fun entry => rank entry.1 == rank key) = none := by
        refine List.find?_eq_none.mpr fun later member => ?_
        have above := below later member
        simp only [beq_iff_eq]
        omega
      have past : rank entry.1 ≠ rank key := by omega
      simp [before, beq_false_of_ne past, absent]
    · by_cases same : rank key = rank entry.1
      · simp [same]
      · rw [if_neg before, if_neg same, List.find?_cons, beq_false_of_ne (Ne.symm same)]
        exact ih tail

theorem get?_alter_of_ne (different : other ≠ key) (change : Option α → α) :
    (map.alter key change).get? other = map.get? other := by
  have ranks := rank_ne_of_ne different
  unfold alter get?
  simp only
  induction map.entries with
  | nil => simp [place, Ne.symm ranks]
  | cons entry rest ih =>
    rw [place]
    by_cases before : rank key < rank entry.1
    · rw [if_pos before, List.find?_cons, beq_false_of_ne (Ne.symm ranks)]
    · by_cases same : rank key = rank entry.1
      · have past : rank entry.1 ≠ rank other := by omega
        rw [if_neg before, if_pos same, List.find?_cons, List.find?_cons,
          beq_false_of_ne (Ne.symm ranks), beq_false_of_ne past]
      · rw [if_neg before, if_neg same, List.find?_cons, List.find?_cons]
        by_cases found : rank entry.1 = rank other
        · simp [found]
        · rw [beq_false_of_ne found]
          exact ih

theorem get?_insert_self (value : α) : (map.insert key value).get? key = some value :=
  get?_alter_self _

theorem get?_insert_of_ne (different : other ≠ key) (value : α) :
    (map.insert key value).get? other = map.get? other :=
  get?_alter_of_ne different _

theorem get?_mapValues {β : Type} (change : κ → α → β) :
    (map.mapValues change).get? key = (map.get? key).map (change key) := by
  unfold mapValues get?
  rw [List.find?_map, Option.map_map, Option.map_map]
  refine Option.map_congr fun entry found => ?_
  have own : entry.1 = key := Ranked.rank_injective _ _ (by simpa using List.find?_some found)
  simp [own]

theorem ext_get? {first second : OrderedMap κ α} (same : ∀ key, first.get? key = second.get? key) :
    first = second := by
  have members : ∀ entry, entry ∈ first.entries ↔ entry ∈ second.entries := by
    rintro ⟨key, value⟩
    rw [mem_entries_iff_get?, mem_entries_iff_get?, same key]
  let before (first second : κ × α) : Prop := rank first.1 < rank second.1
  have irreflexive : Std.Irrefl before := ⟨fun _ => Nat.lt_irrefl _⟩
  have antisymmetric : Std.Antisymm before := ⟨fun _ _ less more => absurd less (Nat.lt_asymm more)⟩
  have entries : first.entries = second.entries :=
    List.Pairwise.eq_of_mem_iff (r := before) first.ordered second.ordered members
  cases first
  cases second
  cases entries
  rfl

theorem insert_of_get? {value : α} (known : map.get? key = some value) : map.insert key value = map := by
  refine ext_get? fun another => ?_
  by_cases own : another = key
  · rw [own, get?_insert_self, known]
  · exact get?_insert_of_ne own value

theorem insert_eq_self_iff {value : α} : map.insert key value = map ↔ map.get? key = some value := by
  constructor
  · intro same
    rw [← same]
    exact get?_insert_self value
  · exact insert_of_get?

theorem insert_insert (former value : α) :
    (map.insert key former).insert key value = map.insert key value := by
  refine ext_get? fun another => ?_
  by_cases own : another = key
  · rw [own, get?_insert_self, get?_insert_self]
  · rw [get?_insert_of_ne own, get?_insert_of_ne own, get?_insert_of_ne own]

theorem insert_comm (different : other ≠ key) (former latter : α) :
    (map.insert key former).insert other latter = (map.insert other latter).insert key former := by
  refine ext_get? fun another => ?_
  by_cases own : another = key
  · subst own
    rw [get?_insert_of_ne (Ne.symm different), get?_insert_self, get?_insert_self]
  · rw [get?_insert_of_ne own]
    by_cases second : another = other
    · rw [second, get?_insert_self, get?_insert_self]
    · rw [get?_insert_of_ne second, get?_insert_of_ne second, get?_insert_of_ne own]

end OrderedMap

namespace OrderedSet

variable {κ : Type} [Ranked κ] {set : OrderedSet κ} {key other : κ}

theorem mem_toList_insert : other ∈ toList (insert set key) ↔ other = key ∨ other ∈ toList set := by
  unfold toList insert
  rw [OrderedMap.mem_keys_iff_get?, OrderedMap.mem_keys_iff_get?]
  by_cases own : other = key
  · subst own
    simp [OrderedMap.get?_insert_self]
  · simp [OrderedMap.get?_insert_of_ne own, own]

theorem mem_toList_insertAll {keys : List κ} :
    other ∈ toList (insertAll set keys) ↔ other ∈ keys ∨ other ∈ toList set := by
  induction keys generalizing set with
  | nil => simp [insertAll]
  | cons first rest ih =>
    have step : other ∈ toList (insertAll set (first :: rest)) ↔
        other ∈ rest ∨ other ∈ toList (insert set first) := ih
    rw [step, mem_toList_insert, List.mem_cons, or_left_comm, or_assoc]

end OrderedSet

end DvbScan
