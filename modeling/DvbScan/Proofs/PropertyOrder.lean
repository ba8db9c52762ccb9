import DvbScan.Proofs.ConstructedTunings
import Mathlib.Data.List.Induction

/-!
# The order and the values of properties

A tuning remembers of the properties that were set, in any order and with repeats, the order in which they came
first and the values that came last. The command is always last: it is there as soon as anything is set, with the
value 1 until it is given another.
-/

namespace DvbScan

namespace Tuning

variable {tuning : Tuning} {key other : PropertyKey} {value : UInt32}
  {entries settings : List (PropertyKey × UInt32)}

theorem get?_append (front rest : List (PropertyKey × UInt32)) (key : PropertyKey) :
    get? ⟨front ++ rest⟩ key = (get? ⟨front⟩ key).or (get? ⟨rest⟩ key) := by
  unfold get?
  rw [List.find?_append]
  cases front.find? (·.1 == key) <;> rfl

theorem get?_cons_self (key : PropertyKey) (value : UInt32) (rest : List (PropertyKey × UInt32)) :
    get? ⟨(key, value) :: rest⟩ key = some value := by
  simp [get?]

theorem get?_cons_of_ne (different : other ≠ key) (rest : List (PropertyKey × UInt32)) :
    get? ⟨(key, value) :: rest⟩ other = get? ⟨rest⟩ other := by
  unfold get?
  rw [List.find?_cons, beq_false_of_ne (Ne.symm different)]

theorem get?_eq_none_iff : tuning.get? key = none ↔ key ∉ tuning.keys := by
  unfold get? keys
  rw [Option.map_eq_none_iff, List.find?_eq_none]
  constructor
  · intro none member
    obtain ⟨entry, listed, rfl⟩ := List.mem_map.mp member
    exact none entry listed (beq_self_eq_true _)
  · intro absent entry listed same
    exact absent (List.mem_map.mpr ⟨entry, listed, by simpa using same⟩)

theorem mem_keys_iff : key ∈ tuning.keys ↔ ∃ value, tuning.get? key = some value := by
  rw [← Option.isSome_iff_exists, ← Option.ne_none_iff_isSome, ne_eq, get?_eq_none_iff, not_not]

theorem get?_overwrite_self (key : PropertyKey) (value : UInt32) (present : key ∈ keys ⟨entries⟩) :
    get? ⟨overwrite key value entries⟩ key = some value := by
  induction entries with
  | nil => cases present
  | cons entry rest ih =>
    rw [overwrite]
    by_cases own : entry.1 = key
    · rw [if_pos (by simpa using own)]
      exact get?_cons_self key value rest
    · rw [if_neg (by simpa using own), get?_cons_of_ne (Ne.symm own)]
      exact ih ((List.mem_cons.mp present).resolve_left (Ne.symm own))

theorem get?_overwrite_of_ne (different : other ≠ key) (value : UInt32)
    (entries : List (PropertyKey × UInt32)) :
    get? ⟨overwrite key value entries⟩ other = get? ⟨entries⟩ other := by
  induction entries with
  | nil => rfl
  | cons entry rest ih =>
    rw [overwrite]
    by_cases own : entry.1 = key
    · rw [if_pos (by simpa using own), get?_cons_of_ne different, get?_cons_of_ne (own ▸ different)]
    · rw [if_neg (by simpa using own)]
      by_cases same : other = entry.1
      · rw [same, get?_cons_self, get?_cons_self]
      · rw [get?_cons_of_ne same, get?_cons_of_ne same, ih]

/-- A new entry goes between the others, and may bring the command with it. -/
theorem append_split (key : PropertyKey) (value : UInt32) (entries : List (PropertyKey × UInt32)) :
    ∃ front back back', entries = front ++ back ∧ append key value entries = front ++ (key, value) :: back' ∧
      (back = [] ∨ back' = back) := by
  rw [append.eq_def]
  split
  next => exact ⟨entries, [], [], (List.append_nil _).symm, rfl, .inl rfl⟩
  next command ends =>
    obtain ⟨front, rfl⟩ := List.getLast?_eq_some_iff.mp ends
    refine ⟨front, _, _, rfl, ?_, .inr rfl⟩
    rw [List.dropLast_concat]
  next => exact ⟨entries, [], [(.tune, 1)], (List.append_nil _).symm, rfl, .inl rfl⟩

theorem get?_set_self (tuning : Tuning) (key : PropertyKey) (value : UInt32) :
    (tuning.set key value).get? key = some value := by
  by_cases present : key ∈ tuning.keys
  · have found : tuning.set key value = ⟨overwrite key value tuning.entries⟩ := set_of_mem present
    rw [found]
    exact get?_overwrite_self key value present
  · obtain ⟨front, back, back', shape, placed, -⟩ := append_split key value tuning.entries
    have absent : get? ⟨front⟩ key = none := by
      refine get?_eq_none_iff.mpr fun member => present ?_
      unfold keys at member ⊢
      rw [shape, List.map_append]
      exact List.mem_append_left _ member
    rw [set_of_not_mem present, placed, get?_append, absent, get?_cons_self]
    rfl

theorem get?_set_of_ne (different : other ≠ key) (value : UInt32) (present : other ∈ tuning.keys) :
    (tuning.set key value).get? other = tuning.get? other := by
  by_cases own : key ∈ tuning.keys
  · rw [set_of_mem own]
    exact get?_overwrite_of_ne different value tuning.entries
  · obtain ⟨front, back, back', shape, placed, kept⟩ := append_split key value tuning.entries
    rw [set_of_not_mem own, placed]
    obtain ⟨entries⟩ := tuning
    obtain rfl : entries = front ++ back := shape
    rw [get?_append, get?_append, get?_cons_of_ne different]
    rcases kept with rfl | rfl
    · -- the command that comes with the entry is behind all others
      obtain ⟨found, held⟩ := mem_keys_iff.mp present
      rw [List.append_nil] at held
      rw [held, Option.some_or, Option.some_or]
    · rfl

theorem get?_setAll_of_ne (others : ∀ setting ∈ settings, setting.1 ≠ key)
    (held : tuning.get? key = some value) : (tuning.setAll settings).get? key = some value := by
  induction settings generalizing tuning with
  | nil => exact held
  | cons setting rest ih =>
    have different : key ≠ setting.1 := Ne.symm (others setting List.mem_cons_self)
    have kept : (tuning.set setting.1 setting.2).get? key = some value :=
      (get?_set_of_ne different setting.2 (mem_keys_iff.mpr ⟨value, held⟩)).trans held
    exact ih (fun later member => others later (List.mem_cons_of_mem setting member)) kept

theorem get?_ofPairs_last {earlier later : List (PropertyKey × UInt32)}
    (others : ∀ setting ∈ later, setting.1 ≠ key) :
    (ofPairs (earlier ++ (key, value) :: later)).get? key = some value := by
  have split : ofPairs (earlier ++ (key, value) :: later) = ((ofPairs earlier).set key value).setAll later := by
    unfold ofPairs setAll
    rw [List.foldl_append, List.foldl_cons]
  rw [split]
  exact get?_setAll_of_ne others (get?_set_self _ key value)

theorem get?_tune_of_never_set (some_setting : settings ≠ [])
    (never : ∀ setting ∈ settings, setting.1 ≠ .tune) : (ofPairs settings).get? .tune = some 1 := by
  cases settings with
  | nil => exact absurd rfl some_setting
  | cons setting rest =>
    obtain ⟨key, value⟩ := setting
    have brought : (empty.set key value).get? .tune = some 1 := by
      have different : key ≠ .tune := never (key, value) List.mem_cons_self
      cases key with
      | tune => exact absurd rfl different
      | _ => rfl
    change ((empty.set key value).setAll rest).get? .tune = some 1
    exact get?_setAll_of_ne (fun later member => never later (List.mem_cons_of_mem _ member)) brought

/-- The properties but the command, in the order in which they are first set. -/
def firstSet (settings : List (PropertyKey × UInt32)) : List PropertyKey :=
  ((settings.map (·.1)).filter (· ≠ .tune)).eraseDups

theorem mem_firstSet_iff : key ∈ firstSet settings ↔ key ≠ .tune ∧ ∃ setting ∈ settings, setting.1 = key := by
  unfold firstSet
  rw [List.mem_eraseDups, List.mem_filter, List.mem_map, decide_eq_true_eq, and_comm]

theorem eraseDups_concat (keys : List PropertyKey) (key : PropertyKey) :
    (keys ++ [key]).eraseDups = if key ∈ keys then keys.eraseDups else keys.eraseDups ++ [key] := by
  rw [List.eraseDups_append]
  split
  next known => simp [List.removeAll, known]
  next new => simp [List.removeAll, new, List.eraseDups_cons]

/-- What is set again keeps its place, and what is new goes behind the others. -/
theorem firstSet_concat (settings : List (PropertyKey × UInt32)) (key : PropertyKey) (value : UInt32) :
    firstSet (settings ++ [(key, value)]) =
      if key = .tune ∨ key ∈ firstSet settings then firstSet settings else firstSet settings ++ [key] := by
  unfold firstSet
  by_cases command : key = .tune
  · rw [if_pos (.inl command), List.map_append, List.filter_append]
    simp [command]
  · have others : ((settings ++ [(key, value)]).map (·.1)).filter (· ≠ .tune) =
        (settings.map (·.1)).filter (· ≠ .tune) ++ [key] := by
      simp [command]
    rw [others, eraseDups_concat]
    simp only [command, false_or, List.mem_eraseDups]

theorem ofPairs_concat (settings : List (PropertyKey × UInt32)) (key : PropertyKey) (value : UInt32) :
    ofPairs (settings ++ [(key, value)]) = (ofPairs settings).set key value := by
  unfold ofPairs setAll
  rw [List.foldl_append]
  rfl

theorem keys_ofPairs (some_setting : settings ≠ []) :
    (ofPairs settings).keys = firstSet settings ++ [.tune] := by
  induction settings using List.reverseRecOn with
  | nil => exact absurd rfl some_setting
  | append_singleton earlier last ih =>
    obtain ⟨key, value⟩ := last
    rw [ofPairs_concat]
    by_cases first : earlier = []
    · subst first
      cases key <;> rfl
    · have shape := ih first
      by_cases known : key = .tune ∨ key ∈ firstSet earlier
      · have present : key ∈ (ofPairs earlier).keys := by simpa [shape, or_comm] using known
        rw [keys_set_of_mem present, firstSet_concat, if_pos known, shape]
      · have absent : key ∉ (ofPairs earlier).keys := by simpa [shape, or_comm] using known
        rw [keys_set_of_new shape absent, firstSet_concat, if_neg known, List.append_assoc]
        rfl

structure Remembers (tuning : Tuning) (settings : List (PropertyKey × UInt32)) : Prop where
  distinct : tuning.keys.Nodup
  empty_iff : tuning = empty ↔ settings = []
  /-- The command is the last entry and nowhere else. -/
  command_last : tuning ≠ empty → ∃ others, tuning.keys = others ++ [.tune] ∧ PropertyKey.tune ∉ others
  command_value : tuning ≠ empty → (∀ setting ∈ settings, setting.1 ≠ .tune) → tuning.get? .tune = some 1
  last_value : ∀ earlier key value later, settings = earlier ++ (key, value) :: later →
    (∀ setting ∈ later, setting.1 ≠ key) → tuning.get? key = some value
  never_set : ∀ key, key ≠ .tune → (∀ setting ∈ settings, setting.1 ≠ key) → tuning.get? key = none
  /-- Setting a property again or anew leaves the others that are there. -/
  others_kept : ∀ key value other, other ∈ tuning.keys → other ≠ key →
    (tuning.set key value).get? other = tuning.get? other
  order : tuning.keys.filter (· ≠ .tune) = firstSet settings
  again : ofCodes tuning.toCodes = tuning

theorem remembers_ofPairs (settings : List (PropertyKey × UInt32)) : (ofPairs settings).Remembers settings := by
  by_cases nothing : settings = []
  · subst nothing
    exact {
      distinct := List.nodup_nil
      empty_iff := ⟨fun _ => rfl, fun _ => rfl⟩
      command_last := fun some_entry => absurd rfl some_entry
      command_value := fun some_entry => absurd rfl some_entry
      last_value := by simp
      never_set := fun _ _ _ => rfl
      others_kept := nofun
      order := rfl
      again := rfl }
  · have shape := keys_ofPairs nothing
    have some_entry : ofPairs settings ≠ empty := by
      intro none
      rw [none] at shape
      simp [keys, empty] at shape
    obtain ⟨others, ends, distinct⟩ := (isClosed_ofPairs settings).resolve_left some_entry
    obtain rfl : firstSet settings = others := List.append_cancel_right (shape.symm.trans ends)
    have outside : PropertyKey.tune ∉ firstSet settings := fun listed => (mem_firstSet_iff.mp listed).1 rfl
    exact {
      distinct := shape ▸ distinct
      empty_iff := iff_of_false some_entry nothing
      command_last := fun _ => ⟨firstSet settings, shape, outside⟩
      command_value := fun _ never => get?_tune_of_never_set nothing never
      last_value := by
        rintro earlier key value later rfl others
        exact get?_ofPairs_last others
      never_set := by
        intro key different never
        rw [get?_eq_none_iff, shape, List.mem_append, List.mem_singleton, mem_firstSet_iff]
        rintro (⟨-, setting, member, same⟩ | same)
        · exact never setting member same
        · exact different same
      others_kept := fun key value other present different => get?_set_of_ne different value present
      order := by
        have others : (firstSet settings).filter (· ≠ .tune) = firstSet settings :=
          List.filter_eq_self.mpr fun key listed => by simpa using (mem_firstSet_iff.mp listed).1
        rw [shape, List.filter_append, others]
        exact List.append_nil _
      again := IsClosed.ofCodes_toCodes ⟨_, shape, distinct⟩ }

/-- Setting properties in any order and with repeats, giving their codes, and announcing a transponder or a multiplex
leave behind a tuning that remembers what was set. A line is read as the tuning of a transponder or a multiplex. -/
theorem remembers_what_is_set :
    (∀ settings, (empty.setAll settings).Remembers settings) ∧
      (∀ pairs, (ofCodes pairs).Remembers
        (pairs.filterMap fun pair => (Coded.ofCode? pair.1).map (·, pair.2))) ∧
      (∀ transponder : Transponder, transponder.toTuning.Remembers transponder.properties) ∧
      (∀ multiplex : Multiplex, multiplex.toTuning.Remembers multiplex.properties) ∧
      ∀ text tuning, parse text = .ok tuning →
        (∃ transponder : Transponder, tuning = transponder.toTuning ∧ tuning.Remembers transponder.properties) ∨
          ∃ multiplex : Multiplex, tuning = multiplex.toTuning ∧ tuning.Remembers multiplex.properties := by
  refine ⟨remembers_ofPairs, fun pairs => remembers_ofPairs _, fun transponder => remembers_ofPairs _,
    fun multiplex => remembers_ofPairs _, fun text tuning read => ?_⟩
  cases regular_of_parse read with
  | @transponder transponder => exact .inl ⟨transponder, rfl, remembers_ofPairs _⟩
  | @multiplex multiplex => exact .inr ⟨multiplex, rfl, remembers_ofPairs _⟩

end Tuning

/-! A command that is given first, and properties that are set twice. -/

namespace RepeatedSettings

def settings : List (PropertyKey × UInt32) :=
  [(.tune, 7), (.frequency, 474000000), (.tone, 1), (.frequency, 578000000), (.tune, 9)]

def tuning : Tuning := Tuning.empty.setAll settings

theorem remembers_repeated_settings :
    tuning.keys = [.frequency, .tone, .tune] ∧ tuning.get? .frequency = some 578000000 ∧
      tuning.get? .tune = some 9 ∧ Tuning.ofCodes tuning.toCodes = tuning := by
  have remembers : tuning.Remembers settings := Tuning.remembers_what_is_set.1 settings
  obtain ⟨others, shape, outside⟩ := remembers.command_last (by decide)
  have order : others = [.frequency, .tone] := by
    have kept := remembers.order
    have front : others.filter (· ≠ .tune) = others :=
      List.filter_eq_self.mpr fun key listed => by simpa using ne_of_mem_of_not_mem listed outside
    rw [shape, List.filter_append, front] at kept
    exact (List.append_nil others).symm.trans kept
  refine ⟨shape.trans (congrArg (· ++ [.tune]) order), ?_, ?_, remembers.again⟩
  · exact remembers.last_value [(.tune, 7), (.frequency, 474000000), (.tone, 1)] .frequency 578000000 [(.tune, 9)] rfl
      (by decide)
  · exact remembers.last_value [(.tune, 7), (.frequency, 474000000), (.tone, 1), (.frequency, 578000000)] .tune 9 []
      rfl (by decide)

end RepeatedSettings

end DvbScan
