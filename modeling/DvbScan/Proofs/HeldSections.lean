import DvbScan.Proofs.TableGrowth
import Mathlib.Data.List.Induction

/-!
# Which sections a table holds

A table holds sections of one version. If among all the sections of its identifier one version is newer than
every other, and none is newer than it, then the table holds every section of that version that has come, and no
other section, whatever came in between. The table is complete if the sections that it holds leave out no number
that one of them announces.
-/

namespace DvbScan

namespace SectionHeader

/-- The section applies now, and is numbered within its table. -/
def applies (header : SectionHeader) : Bool := header.isCurrent && decide (header.number ≤ header.lastNumber)

def ofTable (id : UInt16) (headers : List SectionHeader) : List SectionHeader :=
  headers.filter fun header => header.applies && header.sectionId == id

def ofVersion (id : UInt16) (version : Nat) (headers : List SectionHeader) : List SectionHeader :=
  (ofTable id headers).filter (·.tableVersion == version)

/-- The version is newer than every other one of the table, and none is newer than it. -/
def Leads (id : UInt16) (version : Nat) (headers : List SectionHeader) : Prop :=
  ∀ header ∈ ofTable id headers, header.tableVersion ≠ version →
    isNewerVersion version header.tableVersion = true ∧ isNewerVersion header.tableVersion version = false

/-- There are sections, and every number that one of them announces is the number of one of them. -/
def Whole (sections : List SectionHeader) : Prop :=
  sections ≠ [] ∧ ∀ header ∈ sections, ∀ number ≤ header.lastNumber.toNat,
    ∃ other ∈ sections, other.number.toNat = number

variable {id : UInt16} {version : Nat} {header last : SectionHeader} {headers first second : List SectionHeader}

theorem mem_ofTable : header ∈ ofTable id headers ↔
    header ∈ headers ∧ header.applies = true ∧ header.sectionId = id := by
  simp [ofTable]

theorem mem_ofVersion : header ∈ ofVersion id version headers ↔
    header ∈ headers ∧ header.applies = true ∧ header.sectionId = id ∧ header.tableVersion = version := by
  simp [ofVersion, mem_ofTable, and_assoc]

theorem ofTable_concat : ofTable id (headers ++ [last]) =
    ofTable id headers ++ if last.applies = true ∧ last.sectionId = id then [last] else [] := by
  by_cases own : last.applies = true ∧ last.sectionId = id
  · simp [ofTable, own]
  · simp [ofTable, own]

theorem ofVersion_concat : ofVersion id version (headers ++ [last]) = ofVersion id version headers ++
    if last.applies = true ∧ last.sectionId = id ∧ last.tableVersion = version then [last] else [] := by
  unfold ofVersion
  rw [ofTable_concat, List.filter_append]
  by_cases own : last.applies = true ∧ last.sectionId = id
  · by_cases same : last.tableVersion = version
    · simp [own, same]
    · simp [own, same]
  · have foreign : ¬(last.applies = true ∧ last.sectionId = id ∧ last.tableVersion = version) :=
      fun given => own ⟨given.1, given.2.1⟩
    rw [if_neg own, if_neg foreign]
    rfl

theorem Leads.of_concat (leads : Leads id version (headers ++ [last])) : Leads id version headers := by
  intro header member
  apply leads
  rw [mem_ofTable] at member ⊢
  exact ⟨List.mem_append_left _ member.1, member.2⟩

theorem whole_reverse : Whole headers.reverse ↔ Whole headers := by
  simp [Whole]

end SectionHeader

open SectionHeader

namespace TableHistory

variable {history : TableHistory}

theorem mem_numbers_iff {number : Nat} :
    number ∈ history.numbers ↔ ∃ header ∈ history.sections, header.number.toNat = number := by
  simp [numbers]

theorem lt_size_iff {number : Nat} :
    number < history.size ↔ ∃ header ∈ history.sections, number ≤ header.lastNumber.toNat := by
  unfold size
  constructor
  · intro below
    by_contra none
    have short : ∀ header ∈ history.sections, header.lastNumber.toNat < number := by
      intro header member
      by_contra long
      exact none ⟨header, member, by omega⟩
    have latest := short history.latest List.mem_cons_self
    have bound : (history.sections.map (·.lastNumber.toNat)).foldr max 0 ≤ number - 1 := by
      apply foldr_max_le_iff.mpr
      intro value listed
      obtain ⟨header, member, rfl⟩ := List.mem_map.mp listed
      have := short header member
      omega
    omega
  · rintro ⟨header, member, within⟩
    have bound : header.lastNumber.toNat ≤ (history.sections.map (·.lastNumber.toNat)).foldr max 0 :=
      le_foldr_max (List.mem_map_of_mem member)
    omega

theorem isFull_iff_whole (within : history.IsWithin) : history.IsFull ↔ Whole history.sections := by
  unfold IsFull
  constructor
  · intro full
    refine ⟨List.cons_ne_nil _ _, fun header member number announced => ?_⟩
    rw [← mem_numbers_iff, full, Finset.mem_range, lt_size_iff]
    exact ⟨header, member, announced⟩
  · rintro ⟨-, announced⟩
    ext number
    rw [mem_numbers_iff, Finset.mem_range, lt_size_iff]
    constructor
    · rintro ⟨header, member, rfl⟩
      exact ⟨header, member, UInt8.le_iff_toNat_le.mp (within header member)⟩
    · rintro ⟨header, member, below⟩
      exact announced header member number below

end TableHistory

namespace TrackerHistory

variable {history : TrackerHistory} {id : UInt16} {version : Nat} {header last : SectionHeader}
  {headers : List SectionHeader}

theorem actAll_concat (headers : List SectionHeader) (last : SectionHeader) :
    actAll ((headers ++ [last]).map .track) = (actAll (headers.map .track)).record last := by
  simp [actAll, act]

theorem accepts_iff : history.accepts header = true ↔ header.applies = true ∧
    ∀ table, history header.sectionId = some table →
      header.tableVersion = table.version ∨ isNewerVersion header.tableVersion table.version = true := by
  unfold accepts applies
  cases history header.sectionId with
  | none => simp
  | some table => simp

theorem mem_ofVersion_of_mem_sections {table : TableHistory} (known : actAll (headers.map .track) id = some table)
    (member : header ∈ table.sections) : header ∈ ofVersion id table.version headers := by
  -- from the end: the last section is added to its table, or the table begins anew with it
  induction headers using List.reverseRecOn generalizing id table header with
  | nil => cases known
  | append_singleton headers last ih =>
    have earlier {table : TableHistory} {header : SectionHeader} (known : actAll (headers.map .track) id = some table)
        (member : header ∈ table.sections) : header ∈ ofVersion id table.version (headers ++ [last]) := by
      rw [ofVersion_concat]
      exact List.mem_append_left _ (ih known member)
    rw [actAll_concat] at known
    by_cases counts : (actAll (headers.map .track)).accepts last = true
    · by_cases own : id = last.sectionId
      · subst own
        rw [record_apply_self counts] at known
        cases known
        rw [version_tableWith]
        rcases mem_sections_tableWith member with rfl | ⟨table, held, same, present⟩
        · rw [ofVersion_concat, if_pos ⟨(accepts_iff.mp counts).1, rfl, rfl⟩]
          exact List.mem_append_right _ List.mem_cons_self
        · rw [← same]
          exact earlier held present
      · rw [record_apply_of_ne last own] at known
        exact earlier known member
    · rw [record_of_refused (Bool.eq_false_of_not_eq_true counts)] at known
      exact earlier known member

theorem latest_mem_ofVersion {table : TableHistory} (known : actAll (headers.map .track) id = some table) :
    table.latest ∈ ofVersion id table.version headers :=
  mem_ofVersion_of_mem_sections known List.mem_cons_self

/-- The sections of a version that the table holds; none if another version is in force. -/
def held (history : TrackerHistory) (id : UInt16) (version : Nat) : List SectionHeader :=
  match history id with
  | some table => if table.version = version then table.sections else []
  | none => []

theorem held_of_known {table : TableHistory} (known : history id = some table) :
    history.held id table.version = table.sections := by
  unfold held
  rw [known]
  exact if_pos rfl

theorem exists_of_held_ne_nil (some_held : history.held id version ≠ []) :
    ∃ table, history id = some table ∧ table.version = version ∧ table.sections = history.held id version := by
  unfold held at some_held ⊢
  cases known : history id with
  | none =>
    rw [known] at some_held
    exact absurd rfl some_held
  | some table =>
    rw [known] at some_held
    by_cases same : table.version = version
    · exact ⟨table, rfl, same, (if_pos same).symm⟩
    · simp [same] at some_held

theorem held_record_self (counts : history.accepts header = true) :
    (history.record header).held header.sectionId header.tableVersion =
      header :: history.held header.sectionId header.tableVersion := by
  have known := record_apply_self counts
  rw [← history.version_tableWith header, held_of_known known, version_tableWith]
  unfold tableWith held
  cases history header.sectionId with
  | none => rfl
  | some table =>
    by_cases same : table.version = header.tableVersion
    · simp only [same, if_true]
      rfl
    · simp only [same, if_false]
      rfl

/-- If one version leads, the table holds every section of it that has come, the last one first. -/
theorem held_of_leads (leads : Leads id version headers) :
    (actAll (headers.map .track)).held id version = (ofVersion id version headers).reverse := by
  induction headers using List.reverseRecOn with
  | nil => rfl
  | append_singleton headers last ih =>
    have before := ih leads.of_concat
    have own_version {table : TableHistory} (known : actAll (headers.map .track) id = some table) :
        table.version = version ∨ isNewerVersion version table.version = true ∧
          isNewerVersion table.version version = false := by
      by_cases same : table.version = version
      · exact .inl same
      · obtain ⟨listed, applies, own, held⟩ :=
          mem_ofVersion.mp (latest_mem_ofVersion known)
        have present : table.latest ∈ ofTable id (headers ++ [last]) :=
          mem_ofTable.mpr ⟨List.mem_append_left _ listed, applies, own⟩
        rw [← held] at same ⊢
        exact .inr (leads _ present same)
    rw [actAll_concat, ofVersion_concat, List.reverse_append]
    by_cases own : last.applies = true ∧ last.sectionId = id ∧ last.tableVersion = version
    · -- a section of the leading version counts, whatever version is in force
      obtain ⟨applies, rfl, rfl⟩ := own
      have counts : (actAll (headers.map .track)).accepts last = true := by
        refine accepts_iff.mpr ⟨applies, fun table known => ?_⟩
        exact (own_version known).imp Eq.symm And.left
      rw [held_record_self counts, before, if_pos ⟨applies, rfl, rfl⟩]
      rfl
    · -- any other section leaves a table of the leading version alone, and does not make one
      rw [if_neg own, ← before]
      simp only [List.reverse_nil, List.nil_append]
      by_cases counts : (actAll (headers.map .track)).accepts last = true
      · by_cases other : id = last.sectionId
        · subst other
          have applies := (accepts_iff.mp counts).1
          have another : last.tableVersion ≠ version := fun same => own ⟨applies, rfl, same⟩
          have present : last ∈ ofTable last.sectionId (headers ++ [last]) :=
            mem_ofTable.mpr ⟨List.mem_append_right _ List.mem_cons_self, applies, rfl⟩
          have older := (leads last present another).2
          unfold held
          rw [record_apply_self counts]
          simp only [version_tableWith, another, if_false]
          cases known : actAll (headers.map .track) last.sectionId with
          | none => rfl
          | some table =>
            have ahead : table.version ≠ version := by
              rintro rfl
              rcases (accepts_iff.mp counts).2 table known with same | newer
              · exact another same
              · rw [older] at newer
                cases newer
            simp only [ahead, if_false]
        · unfold held
          rw [record_apply_of_ne last other]
      · rw [record_of_refused (Bool.eq_false_of_not_eq_true counts)]

end TrackerHistory

namespace TableTracker

variable {tracker : TableTracker} {history : TrackerHistory} {id : UInt16} {version : Nat}
  {headers : List SectionHeader}

theorem Reflects.version?_eq (reflects : tracker.Reflects history) (id : UInt16) :
    tracker.version? id = (history id).map (·.version) := by
  unfold version?
  cases known : history id with
  | none => rw [reflects.get?_eq_none known]; rfl
  | some table =>
    obtain ⟨progress, tracked, follows⟩ := reflects.get?_eq_some known
    rw [tracked]
    exact congrArg some follows.version

theorem isTableComplete_of_known {table : TableHistory} (known : TrackerHistory.actAll (headers.map .track) id = some table) :
    (actAll (headers.map .track)).isTableComplete id = true ↔ Whole table.sections := by
  rw [(reflects_actAll (headers.map .track)).isTableComplete_iff,
    ← TableHistory.isFull_iff_whole (TrackerHistory.isWithin_actAll headers id table known)]
  constructor
  · rintro ⟨other, there, full⟩
    cases known.symm.trans there
    exact full
  · exact fun full => ⟨table, known, full⟩

/-- Once a section of the leading version has come, that version is in force, and the table is complete exactly if
the sections of that version leave out no announced number. -/
theorem inForce_of_leads (leads : Leads id version headers) (some_sent : ofVersion id version headers ≠ []) :
    (actAll (headers.map .track)).version? id = some version ∧
      ((actAll (headers.map .track)).isTableComplete id = true ↔ Whole (ofVersion id version headers)) := by
  have held := TrackerHistory.held_of_leads leads
  have some_held : (TrackerHistory.actAll (headers.map .track)).held id version ≠ [] := by
    rw [held]
    simpa using some_sent
  obtain ⟨table, known, rfl, sections⟩ := TrackerHistory.exists_of_held_ne_nil some_held
  constructor
  · rw [(reflects_actAll (headers.map .track)).version?_eq, known]
    rfl
  · rw [isTableComplete_of_known known, sections, held, whole_reverse]

end TableTracker

end DvbScan
