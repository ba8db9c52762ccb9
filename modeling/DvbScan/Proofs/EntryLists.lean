import DvbScan.Proofs.FieldPlaces

/-!
# Lists of entries

A list is written as its entries side by side, without a count: in groups of one size, or as entries that tell their
own length. If the reader of one entry gives exactly what was written, so does the reader of the list. Where an entry
ends is seen from the entry, so that a list that breaks off within one is no other list.
-/

namespace DvbScan

/-- How entries are written, and what they are read as. -/
structure EntryFormat (ρ α : Type) where
  encode : ρ → Bytes
  meaning : ρ → α

namespace EntryFormat

variable {ρ α : Type} {format : EntryFormat ρ α} {raw : ρ} {payload : Bytes}

def encodeAll (format : EntryFormat ρ α) (raws : List ρ) : Bytes := raws.flatMap format.encode

theorem encodeAll_cons (raw : ρ) (raws : List ρ) :
    format.encodeAll (raw :: raws) = format.encode raw ++ format.encodeAll raws :=
  List.flatMap_cons

/-- An entry takes room, and it shows where it ends: no entry is the front of a longer one. -/
structure IsSelfDelimiting (format : EntryFormat ρ α) : Prop where
  positive : ∀ raw, 0 < (format.encode raw).length
  ends : ∀ raw other, format.encode raw <+: format.encode other →
    (format.encode raw).length = (format.encode other).length

def ReadsLists (format : EntryFormat ρ α) (read : Bytes → Except SiError (List α)) : Prop :=
  ∀ payload found, read payload = .ok found ↔
    ∃ raws, payload = format.encodeAll raws ∧ found = raws.map format.meaning

theorem IsSelfDelimiting.encodeAll_ne_nil (delimited : format.IsSelfDelimiting) (raw : ρ) (raws : List ρ) :
    format.encodeAll (raw :: raws) ≠ [] := by
  intro nothing
  have room := delimited.positive raw
  rw [encodeAll_cons, List.append_eq_nil_iff] at nothing
  rw [nothing.1] at room
  exact absurd room (by decide)

theorem IsSelfDelimiting.encode_eq (delimited : format.IsSelfDelimiting) {raw other : ρ} {rest rest' : Bytes}
    (same : format.encode raw ++ rest = format.encode other ++ rest') :
    format.encode raw = format.encode other := by
  have front : format.encode other <+: format.encode raw ++ rest := ⟨rest', same.symm⟩
  rcases List.prefix_or_prefix_of_prefix (List.prefix_append _ rest) front with shorter | shorter
  · exact shorter.eq_of_length (delimited.ends raw other shorter)
  · exact (shorter.eq_of_length (delimited.ends other raw shorter)).symm

/-- What breaks off within an entry is no list of entries. -/
theorem IsSelfDelimiting.ne_encodeAll_of_cut (delimited : format.IsSelfDelimiting) {count : Nat}
    (some_byte : 0 < count) (cut : count < (format.encode raw).length) (raws others : List ρ) :
    format.encodeAll raws ++ (format.encode raw).take count ≠ format.encodeAll others := by
  have size : ((format.encode raw).take count).length = count := List.length_take_of_le (Nat.le_of_lt cut)
  induction raws generalizing others with
  | nil =>
    intro same
    cases others with
    | nil =>
      have nothing := congrArg List.length same
      rw [List.length_append, size] at nothing
      simp only [encodeAll, List.flatMap_nil, List.length_nil] at nothing
      omega
    | cons other others =>
      have front : format.encode other <+: (format.encode raw).take count :=
        ⟨format.encodeAll others, same.symm⟩
      have length := delimited.ends other raw (front.trans (List.take_prefix count _))
      have within := front.length_le
      omega
  | cons first raws ih =>
    intro same
    cases others with
    | nil =>
      have nothing := (List.append_eq_nil_iff.mp same).1
      exact delimited.encodeAll_ne_nil first raws nothing
    | cons other others =>
      rw [encodeAll_cons, encodeAll_cons, List.append_assoc] at same
      rw [delimited.encode_eq same] at same
      exact ih others (List.append_cancel_left same)

/-- The entries are the groups of a size, and a group is read exactly if an entry stands in it. -/
structure ReadsGroups (format : EntryFormat ρ α) (size : Nat) (ofGroup : Bytes → Except SiError α) : Prop where
  length_encode : ∀ raw, (format.encode raw).length = size
  ofGroup_eq_ok_iff : ∀ group value, ofGroup group = .ok value ↔
    ∃ raw, group.At 0 (format.encode raw) ∧ value = format.meaning raw

variable {size : Nat} {ofGroup : Bytes → Except SiError α}

theorem ReadsGroups.isSelfDelimiting (reads : format.ReadsGroups size ofGroup) (positive : 0 < size) :
    format.IsSelfDelimiting where
  positive raw := by rwa [reads.length_encode]
  ends raw other _ := by rw [reads.length_encode, reads.length_encode]

theorem ReadsGroups.length_encodeAll (reads : format.ReadsGroups size ofGroup) (raws : List ρ) :
    (format.encodeAll raws).length = size * raws.length := by
  induction raws with
  | nil => rfl
  | cons raw raws ih =>
    rw [encodeAll_cons, List.length_append, reads.length_encode, ih, List.length_cons, Nat.mul_succ, Nat.add_comm]

theorem ReadsGroups.mapM_groups_eq_ok_iff (reads : format.ReadsGroups size ofGroup) (positive : 0 < size)
    (payload : Bytes) (found : List α) : (payload.groups size positive).mapM ofGroup = .ok found ↔
      ∃ raws, payload = format.encodeAll raws ∧ found = raws.map format.meaning := by
  induction payload using Bytes.groups.induct size positive generalizing found with
  | case1 =>
    rw [Bytes.groups, List.mapM_nil]
    constructor
    · rintro ⟨⟩
      exact ⟨[], rfl, rfl⟩
    · rintro ⟨raws, shape, rfl⟩
      cases raws with
      | nil => rfl
      | cons raw raws => exact absurd shape.symm ((reads.isSelfDelimiting positive).encodeAll_ne_nil raw raws)
  | case2 byte rest ih =>
    rw [Bytes.groups, List.mapM_cons]
    constructor
    · intro read
      obtain ⟨value, first, read⟩ := bind_eq_ok.mp read
      obtain ⟨values, later, read⟩ := bind_eq_ok.mp read
      cases read
      obtain ⟨raw, stands, rfl⟩ := (reads.ofGroup_eq_ok_iff _ _).mp first
      obtain ⟨raws, shape, rfl⟩ := (ih values).mp later
      -- the group is no longer than the entry in it
      have whole : format.encode raw = (byte :: rest).take size := by
        refine (Bytes.at_zero_iff.mp stands).eq_of_length_le ?_
        rw [reads.length_encode]
        exact List.length_take_le _ _
      refine ⟨raw :: raws, ?_, rfl⟩
      rw [encodeAll_cons, whole, ← shape, List.take_append_drop]
    · rintro ⟨raws, shape, rfl⟩
      cases raws with
      | nil => cases shape
      | cons raw raws =>
        have length := reads.length_encode raw
        have group : (byte :: rest).take size = format.encode raw := by
          rw [shape, encodeAll_cons, ← length, List.take_left]
        have others : (byte :: rest).drop size = format.encodeAll raws := by
          rw [shape, encodeAll_cons, ← length, List.drop_left]
        have stands : Bytes.At ((byte :: rest).take size) 0 (format.encode raw) := by
          rw [group]
          exact Bytes.at_self _
        have first := (reads.ofGroup_eq_ok_iff _ _).mpr ⟨raw, stands, rfl⟩
        exact bind_eq_ok.mpr ⟨_, first, bind_eq_ok.mpr ⟨_, (ih _).mpr ⟨raws, others, rfl⟩, rfl⟩⟩

theorem ReadsGroups.readsLists (reads : format.ReadsGroups size ofGroup) (positive : 0 < size) :
    format.ReadsLists fun payload => (payload.groups size positive).mapM ofGroup :=
  reads.mapM_groups_eq_ok_iff positive

/-- An entry is read at an offset, with its length, exactly if it stands there. -/
def ReadsEntries (format : EntryFormat ρ α) (readAt : Bytes → Nat → Except SiError (α × Nat)) : Prop :=
  ∀ payload offset found, readAt payload offset = .ok found ↔
    ∃ raw, payload.At offset (format.encode raw) ∧ found = (format.meaning raw, (format.encode raw).length)

variable {readAt : Bytes → Nat → Except SiError (α × Nat)}

theorem ReadsEntries.isSelfDelimiting (reads : format.ReadsEntries readAt)
    (positive : ∀ raw, 0 < (format.encode raw).length) : format.IsSelfDelimiting where
  positive := positive
  ends raw other front := by
    have first := (reads (format.encode other) 0 _).mpr ⟨raw, Bytes.at_zero_iff.mpr front, rfl⟩
    have second := (reads (format.encode other) 0 _).mpr ⟨other, Bytes.at_self _, rfl⟩
    exact congrArg Prod.snd (Except.ok.inj (first.symm.trans second))

theorem ReadsEntries.readEntries_eq_ok_iff (reads : format.ReadsEntries readAt)
    (positive : ∀ raw, 0 < (format.encode raw).length) {offset : Nat} (inside : offset ≤ payload.length)
    (found : List α) : payload.readEntries readAt offset = .ok found ↔
      ∃ raws, payload.drop offset = format.encodeAll raws ∧ found = raws.map format.meaning := by
  induction left : payload.length - offset using Nat.strongRecOn generalizing offset found with
  | ind left ih =>
    rw [Bytes.readEntries]
    split
    next more =>
      constructor
      · intro read
        obtain ⟨⟨entry, length⟩, first, read⟩ := bind_eq_ok.mp read
        obtain ⟨raw, stands, same⟩ := (reads _ _ _).mp first
        cases same
        have room := positive raw
        simp only [if_pos room] at read
        obtain ⟨entries, later, read⟩ := bind_eq_ok.mp read
        cases read
        obtain ⟨raws, shape, rfl⟩ := (ih _ (by omega) stands.le_length entries rfl).mp later
        refine ⟨raw :: raws, ?_, rfl⟩
        rw [stands.drop_eq, shape, encodeAll_cons]
      · rintro ⟨raws, shape, rfl⟩
        cases raws with
        | nil =>
          have nothing := congrArg List.length shape
          rw [List.length_drop] at nothing
          simp only [encodeAll, List.flatMap_nil, List.length_nil] at nothing
          omega
        | cons raw raws =>
          have room := positive raw
          rw [encodeAll_cons] at shape
          have stands : payload.At offset (format.encode raw) := Bytes.at_of_drop inside shape
          have others : payload.drop (offset + (format.encode raw).length) = format.encodeAll raws := by
            rw [← List.drop_drop, shape, List.drop_left]
          have first := (reads _ _ _).mpr ⟨raw, stands, rfl⟩
          have later := (ih _ (by omega) stands.le_length _ rfl).mpr ⟨raws, others, rfl⟩
          refine bind_eq_ok.mpr ⟨_, first, ?_⟩
          simp only [if_pos room]
          exact bind_eq_ok.mpr ⟨_, later, rfl⟩
    next last =>
      have nothing : payload.drop offset = [] := List.drop_eq_nil_of_le (by omega)
      rw [nothing]
      constructor
      · rintro ⟨⟩
        exact ⟨[], rfl, rfl⟩
      · rintro ⟨raws, shape, rfl⟩
        cases raws with
        | nil => rfl
        | cons raw raws =>
          exact absurd shape.symm ((reads.isSelfDelimiting positive).encodeAll_ne_nil raw raws)

theorem ReadsEntries.readsLists (reads : format.ReadsEntries readAt)
    (positive : ∀ raw, 0 < (format.encode raw).length) :
    format.ReadsLists fun payload => payload.readEntries readAt 0 :=
  fun payload found => reads.readEntries_eq_ok_iff positive (Nat.zero_le payload.length) found

end EntryFormat

end DvbScan
