import DvbScan.Proofs.Lookup
import DvbScan.Si.TableTracker
import Mathlib.Data.Finset.Range
import Mathlib.Data.Finset.Insert
import Mathlib.Data.Option.Basic
import Mathlib.Logic.Function.Basic

/-!
# What a tracker knows of its tables

A tracker keeps a row of flags for each table and a flag for the whole row. What it stands for is a history:
the version in force and the sections that were accepted since it was adopted. The size of a table, which of
its sections have arrived, whether it is complete and what the arrival of a section means are all read off
the history.
-/

namespace DvbScan

def SectionHeader.tableVersion (header : SectionHeader) : Nat := header.version.toNat % 32

/-- A table by the version in force and the sections accepted since that was adopted, the last one first. -/
structure TableHistory where
  version : Nat
  latest : SectionHeader
  earlier : List SectionHeader

namespace TableHistory

def sections (history : TableHistory) : List SectionHeader := history.latest :: history.earlier

def numbers (history : TableHistory) : Finset Nat :=
  (history.sections.map (·.number.toNat)).toFinset

/-- One more than the greatest last number that was told. -/
def size (history : TableHistory) : Nat :=
  1 + (history.sections.map (·.lastNumber.toNat)).foldr max 0

def IsFull (history : TableHistory) : Prop := history.numbers = Finset.range history.size

def start (header : SectionHeader) : TableHistory := ⟨header.tableVersion, header, []⟩

def add (history : TableHistory) (header : SectionHeader) : TableHistory :=
  { history with latest := header, earlier := history.sections }

theorem numbers_start (header : SectionHeader) : (start header).numbers = {header.number.toNat} := by
  simp [numbers, sections, start]

theorem size_start (header : SectionHeader) : (start header).size = header.lastNumber.toNat + 1 := by
  simp [size, sections, start, Nat.add_comm]

theorem numbers_add (history : TableHistory) (header : SectionHeader) :
    (history.add header).numbers = insert header.number.toNat history.numbers := by
  simp [numbers, sections, add]

theorem size_add (history : TableHistory) (header : SectionHeader) :
    (history.add header).size = max history.size (header.lastNumber.toNat + 1) := by
  simp only [size, sections, add, List.map_cons, List.foldr_cons]
  omega

end TableHistory

abbrev TrackerHistory := UInt16 → Option TableHistory

namespace TrackerHistory

def empty : TrackerHistory := fun _ => none

/-- Whether a section counts: it applies now, is numbered within its table, and is not of an older version
than the one in force. -/
def accepts (history : TrackerHistory) (header : SectionHeader) : Bool :=
  header.isCurrent && decide (header.number ≤ header.lastNumber) &&
    match history header.sectionId with
    | none => true
    | some table =>
      header.tableVersion == table.version || isNewerVersion header.tableVersion table.version

/-- The table of an accepted section with that section. A new version begins anew. -/
def tableWith (history : TrackerHistory) (header : SectionHeader) : TableHistory :=
  match history header.sectionId with
  | none => .start header
  | some table => if table.version = header.tableVersion then table.add header else .start header

def record (history : TrackerHistory) (header : SectionHeader) : TrackerHistory :=
  if history.accepts header then
    Function.update history header.sectionId (some (history.tableWith header))
  else history

/-- The number of the section is among those that have arrived since its version was adopted. -/
def Heard (history : TrackerHistory) (header : SectionHeader) : Prop :=
  ∃ table, history header.sectionId = some table ∧ table.version = header.tableVersion ∧
    header.number.toNat ∈ table.numbers

/-- Some table is known, and every known one has all its sections. -/
def IsFull (history : TrackerHistory) : Prop :=
  (∃ id, history id ≠ none) ∧ ∀ id table, history id = some table → table.IsFull

end TrackerHistory

/-! ## One table -/

namespace TableProgress

variable {table : TableProgress} {numbers : Finset Nat} {size number last : Nat}

theorem has_iff : table.has number = true ↔ table.received[number]? = some true := by
  unfold has
  rw [List.getD_eq_getElem?_getD]
  cases table.received[number]? with
  | none => simp
  | some flag => simp

theorem lt_of_has (flag : table.has number = true) : number < table.received.length := by
  obtain ⟨inside, -⟩ := List.getElem?_eq_some_iff.mp (has_iff.mp flag)
  exact inside

theorem has_extend : (table.extend last).has number = table.has number := by
  rw [Bool.eq_iff_iff, has_iff, has_iff]
  unfold extend
  split
  next grows =>
    by_cases inside : number < table.received.length
    · rw [List.getElem?_append_left inside]
    · have outside : table.received[number]? = none := List.getElem?_eq_none (by omega)
      rw [List.getElem?_append_right (by omega), outside, List.getElem?_replicate]
      split <;> simp
  next => rfl

theorem length_extend :
    (table.extend last).received.length = max table.received.length (last + 1) := by
  unfold extend
  split
  next grows =>
    rw [List.length_append, List.length_replicate]
    omega
  next fits => omega

theorem has_mark (inside : number < table.received.length) (other : Nat) :
    (table.mark number).has other = true ↔ other = number ∨ table.has other = true := by
  rw [has_iff, has_iff]
  unfold mark
  rw [List.getElem?_set]
  by_cases same : number = other
  · simp [same, same ▸ inside]
  · simp [same, Ne.symm same]

/-- The flags of a table are those of a set of numbers below a size, and the flag for the row is set when
they are all of them. -/
structure Holds (table : TableProgress) (numbers : Finset Nat) (size : Nat) : Prop where
  flags : ∀ number, table.has number = true ↔ number ∈ numbers
  length : table.received.length = size
  complete : table.isComplete = true ↔ 0 < size ∧ numbers = Finset.range size

theorem holds_start (version : Nat) : (start version).Holds ∅ 0 where
  flags number := by simp [start, has]
  length := rfl
  complete := by simp [start]

theorem all_received_iff (flags : ∀ number, table.has number = true ↔ number ∈ numbers) :
    table.received.all id = true ↔ numbers = Finset.range table.received.length := by
  rw [List.all_eq_true]
  constructor
  · intro all
    ext number
    rw [← flags, Finset.mem_range]
    constructor
    · exact lt_of_has
    · intro inside
      rw [has_iff, List.getElem?_eq_getElem inside]
      exact congrArg some (all _ (List.getElem_mem inside))
  · intro same flag member
    obtain ⟨number, inside, rfl⟩ := List.getElem_of_mem member
    have flagged : table.has number = true := by
      rw [flags, same, Finset.mem_range]
      exact inside
    rw [has_iff, List.getElem?_eq_getElem inside] at flagged
    exact Option.some.inj flagged

theorem version_extend : (table.extend last).version = table.version := by
  unfold extend
  split <;> rfl

theorem version_accept : (table.accept number last).1.version = table.version := by
  unfold accept
  simp only
  split
  · exact version_extend
  · exact version_extend

theorem isComplete_extend : (table.extend last).isComplete = true ↔
    last < table.received.length ∧ table.isComplete = true := by
  unfold extend
  split
  next grows =>
    simp only [Bool.false_eq_true, false_iff, not_and]
    omega
  next fits =>
    constructor
    · exact fun complete => ⟨by omega, complete⟩
    · exact And.right

theorem Holds.mem_of_complete_extend (holds : table.Holds numbers size) (within : number ≤ last)
    (complete : (table.extend last).isComplete = true) : number ∈ numbers := by
  obtain ⟨fits, full⟩ := isComplete_extend.mp complete
  rw [(holds.complete.mp full).2, Finset.mem_range, ← holds.length]
  omega

theorem Holds.accept (holds : table.Holds numbers size) (within : number ≤ last) :
    (table.accept number last).1.Holds (insert number numbers) (max size (last + 1)) := by
  have inside : number < (table.extend last).received.length := by
    rw [length_extend]
    omega
  have flags : ∀ other, ((table.extend last).mark number).has other = true ↔
      other ∈ insert number numbers := by
    intro other
    rw [has_mark inside, has_extend, holds.flags, Finset.mem_insert]
  have length : ((table.extend last).mark number).received.length = max size (last + 1) := by
    rw [← holds.length, ← length_extend]
    exact List.length_set
  have positive : 0 < max size (last + 1) := by omega
  unfold TableProgress.accept
  simp only
  split
  next complete =>
    refine ⟨flags, length, ?_⟩
    obtain ⟨fits, full⟩ := isComplete_extend.mp complete
    rw [holds.length] at fits
    have same := (holds.complete.mp full).2
    have bound : max size (last + 1) = size := by omega
    rw [bound, Finset.insert_eq_of_mem (holds.mem_of_complete_extend within complete)]
    exact ⟨fun _ => ⟨by omega, same⟩, fun _ => complete⟩
  next =>
    refine ⟨flags, length, ?_⟩
    simp only
    rw [all_received_iff flags, length]
    exact ⟨fun same => ⟨positive, same⟩, And.right⟩

/-- A table that has all sections already was complete, so a repeat never completes one. -/
theorem Holds.complete_extend_of_full (holds : table.Holds numbers size)
    (full : numbers = Finset.range (max size (last + 1))) :
    (table.extend last).isComplete = true := by
  have inside : ∀ other, other < max size (last + 1) → other < size := by
    intro other below
    have member : other ∈ numbers := by rw [full, Finset.mem_range]; exact below
    rw [← holds.length]
    exact lt_of_has ((holds.flags other).mpr member)
  have fits : last < size := inside last (by omega)
  have bound : max size (last + 1) = size := by omega
  rw [bound] at full
  rw [isComplete_extend, holds.length, holds.complete]
  exact ⟨fits, by omega, full⟩

/-- The answer for one table follows from two facts: whether the section was there before, and whether the
table is complete with it. -/
theorem Holds.arrival (holds : table.Holds numbers size) (within : number ≤ last) :
    (table.accept number last).2 =
      if (table.accept number last).1.isComplete then
        if number ∈ numbers then .repeatedComplete else .completing
      else if number ∈ numbers then .repeated else .new := by
  have after := (holds.accept within).complete
  by_cases complete : (table.extend last).isComplete = true
  · have heard := holds.mem_of_complete_extend within complete
    have kept : ((table.extend last).mark number).isComplete = true := complete
    unfold TableProgress.accept
    simp only [complete, kept, heard, if_true]
  · have judged : (table.accept number last).2 =
        if (table.accept number last).1.isComplete then .completing
        else if (table.extend last).has number then .repeated else .new := by
      unfold TableProgress.accept
      simp only [complete, Bool.false_eq_true, if_false]
    rw [judged, has_extend]
    simp only [holds.flags]
    by_cases full : (table.accept number last).1.isComplete = true
    · have new : number ∉ numbers := by
        intro heard
        apply complete
        apply holds.complete_extend_of_full
        rw [← (after.mp full).2, Finset.insert_eq_of_mem heard]
      rw [if_pos full, if_pos full, if_neg new]
    · rw [if_neg full, if_neg full]

end TableProgress

/-! ## A tracker -/

inductive TrackerAct where
  | track (header : SectionHeader)
  | reset
  deriving DecidableEq, Repr

namespace TableTracker

def act (tracker : TableTracker) : TrackerAct → TableTracker
  | .track header => (tracker.track header).1
  | .reset => tracker.reset

def actAll (acts : List TrackerAct) : TableTracker := acts.foldl act empty

end TableTracker

namespace TrackerHistory

def act (history : TrackerHistory) : TrackerAct → TrackerHistory
  | .track header => history.record header
  | .reset => empty

def actAll (acts : List TrackerAct) : TrackerHistory := acts.foldl act empty

end TrackerHistory

namespace TableTracker

structure Follows (table : TableProgress) (history : TableHistory) : Prop where
  version : table.version = history.version
  holds : table.Holds history.numbers history.size

def Reflects (tracker : TableTracker) (history : TrackerHistory) : Prop :=
  ∀ id, Option.Rel Follows (tracker.tables.get? id) (history id)

variable {tracker : TableTracker} {history : TrackerHistory} {header : SectionHeader}

theorem Follows.isComplete_iff {table : TableProgress} {history : TableHistory}
    (follows : Follows table history) : table.isComplete = true ↔ history.IsFull := by
  rw [follows.holds.complete]
  have positive : 0 < history.size := by
    unfold TableHistory.size
    omega
  exact ⟨And.right, fun full => ⟨positive, full⟩⟩

theorem reflects_empty : empty.Reflects .empty := fun _ => .none

theorem Reflects.get?_eq_none (reflects : tracker.Reflects history) {id : UInt16}
    (unknown : history id = none) : tracker.tables.get? id = none := by
  have related := reflects id
  rw [unknown] at related
  cases tracked : tracker.tables.get? id with
  | none => rfl
  | some table =>
    rw [tracked] at related
    cases related

theorem Reflects.get?_eq_some (reflects : tracker.Reflects history) {id : UInt16}
    {past : TableHistory} (known : history id = some past) :
    ∃ table, tracker.tables.get? id = some table ∧ Follows table past := by
  have related := reflects id
  rw [known] at related
  cases tracked : tracker.tables.get? id with
  | none =>
    rw [tracked] at related
    cases related
  | some table =>
    rw [tracked] at related
    cases related with
    | some follows => exact ⟨table, rfl, follows⟩

theorem Reflects.isTableComplete_iff (reflects : tracker.Reflects history) (id : UInt16) :
    tracker.isTableComplete id = true ↔ ∃ past, history id = some past ∧ past.IsFull := by
  unfold isTableComplete
  cases known : history id with
  | none =>
    rw [reflects.get?_eq_none known]
    simp
  | some past =>
    obtain ⟨table, tracked, follows⟩ := reflects.get?_eq_some known
    rw [tracked]
    simp [follows.isComplete_iff]

theorem Reflects.isComplete_iff (reflects : tracker.Reflects history) :
    tracker.isComplete = true ↔ history.IsFull := by
  unfold isComplete TrackerHistory.IsFull
  rw [Bool.and_eq_true, OrderedMap.all_values_iff_get?, Bool.not_eq_true', ← Bool.not_eq_true,
    OrderedMap.isEmpty_iff_get?, Classical.not_forall]
  constructor
  · rintro ⟨⟨id, tracked⟩, all⟩
    refine ⟨⟨id, fun unknown => tracked (reflects.get?_eq_none unknown)⟩, fun id past known => ?_⟩
    obtain ⟨table, tracked, follows⟩ := reflects.get?_eq_some known
    exact follows.isComplete_iff.mp (all id table tracked)
  · rintro ⟨⟨id, known⟩, all⟩
    constructor
    · obtain ⟨past, known⟩ := Option.ne_none_iff_exists'.mp known
      obtain ⟨table, tracked, -⟩ := reflects.get?_eq_some known
      exact ⟨id, by rw [tracked]; nofun⟩
    · intro id table tracked
      cases known : history id with
      | none =>
        rw [reflects.get?_eq_none known] at tracked
        cases tracked
      | some past =>
        obtain ⟨other, same, follows⟩ := reflects.get?_eq_some known
        cases tracked.symm.trans same
        exact follows.isComplete_iff.mpr (all id past known)

/-! ## One section -/

/-- A section belongs to a table exactly if it counts. The table holds what has arrived of its version, and
with the section it holds what the history then says. -/
theorem Reflects.tableFor_of_accepted (reflects : tracker.Reflects history)
    (accepted : history.accepts header = true) :
    ∃ table numbers size, tracker.tableFor header.sectionId header.tableVersion = some table ∧
      table.Holds numbers size ∧ table.version = (history.tableWith header).version ∧
      insert header.number.toNat numbers = (history.tableWith header).numbers ∧
      max size (header.lastNumber.toNat + 1) = (history.tableWith header).size ∧
      (header.number.toNat ∈ numbers ↔ history.Heard header) := by
  unfold TrackerHistory.accepts at accepted
  unfold tableFor TrackerHistory.tableWith TrackerHistory.Heard
  have fresh : insert header.number.toNat ∅ = (TableHistory.start header).numbers ∧
      max 0 (header.lastNumber.toNat + 1) = (TableHistory.start header).size := by
    rw [TableHistory.numbers_start, TableHistory.size_start, Nat.zero_max]
    exact ⟨rfl, rfl⟩
  cases known : history header.sectionId with
  | none =>
    rw [reflects.get?_eq_none known]
    exact ⟨_, ∅, 0, rfl, TableProgress.holds_start _, rfl, fresh.1, fresh.2, by simp⟩
  | some past =>
    obtain ⟨table, tracked, follows⟩ := reflects.get?_eq_some known
    rw [tracked]
    simp only [follows.version]
    by_cases same : past.version = header.tableVersion
    · rw [if_pos same, if_pos same]
      refine ⟨table, _, _, rfl, follows.holds, follows.version, ?_, ?_, ?_⟩
      · exact (TableHistory.numbers_add past header).symm
      · exact (TableHistory.size_add past header).symm
      · simp [same]
    · rw [known] at accepted
      have newer : isNewerVersion header.tableVersion past.version = true := by
        simp only [Bool.and_eq_true, Bool.or_eq_true, beq_iff_eq] at accepted
        exact accepted.2.resolve_left (Ne.symm same)
      rw [if_neg same, if_neg same, if_pos newer]
      exact ⟨_, ∅, 0, rfl, TableProgress.holds_start _, rfl, fresh.1, fresh.2, by simp [same]⟩

theorem Reflects.tableFor_of_refused (reflects : tracker.Reflects history)
    (current : header.isCurrent = true) (within : header.number ≤ header.lastNumber)
    (refused : history.accepts header = false) :
    tracker.tableFor header.sectionId header.tableVersion = none := by
  unfold TrackerHistory.accepts at refused
  rw [current, decide_eq_true within] at refused
  unfold tableFor
  cases known : history header.sectionId with
  | none =>
    rw [known] at refused
    cases refused
  | some past =>
    obtain ⟨table, tracked, follows⟩ := reflects.get?_eq_some known
    rw [known] at refused
    simp only [Bool.true_and, Bool.or_eq_false_iff, beq_eq_false_iff_ne] at refused
    rw [tracked]
    simp only [follows.version]
    rw [if_neg (Ne.symm refused.1), refused.2]
    rfl

def noted (tracker : TableTracker) (header : SectionHeader) (table : TableProgress) : TableTracker :=
  ⟨tracker.tables.insert header.sectionId
    (table.accept header.number.toNat header.lastNumber.toNat).1⟩

theorem track_of_current (current : header.isCurrent = true)
    (within : header.number ≤ header.lastNumber) :
    tracker.track header = match tracker.tableFor header.sectionId header.tableVersion with
      | none => (tracker, .outdated)
      | some table =>
        (tracker.noted header table,
          (table.accept header.number.toNat header.lastNumber.toNat).2.among
            (tracker.noted header table).isComplete) := by
  unfold track
  rw [current, if_neg (by simp), if_neg (UInt8.not_lt.mpr within)]
  rfl

theorem Reflects.track_of_refused (reflects : tracker.Reflects history)
    (refused : history.accepts header = false) :
    (tracker.track header).1 = tracker ∧
      (tracker.track header).2 =
        if !header.isCurrent then .notYetCurrent
        else if header.lastNumber < header.number then .outOfRange
        else .outdated := by
  by_cases current : header.isCurrent = true
  · by_cases within : header.number ≤ header.lastNumber
    · rw [track_of_current current within, reflects.tableFor_of_refused current within refused,
        current, if_neg (UInt8.not_lt.mpr within)]
      exact ⟨rfl, rfl⟩
    · have beyond := UInt8.not_le.mp within
      unfold track
      rw [current, if_pos beyond, if_pos beyond]
      exact ⟨rfl, rfl⟩
  · unfold track
    rw [Bool.not_eq_true] at current
    rw [current]
    exact ⟨rfl, rfl⟩

/-- A section that counts is noted, and the answer follows from two facts: whether it has been heard, and
whether all tables are complete with it. -/
theorem Reflects.track_of_accepted (reflects : tracker.Reflects history)
    (accepted : history.accepts header = true) :
    (tracker.track header).1.Reflects (history.record header) ∧
      (history.Heard header → (tracker.track header).2 =
        if (tracker.track header).1.isComplete then .repeatedComplete else .repeated) ∧
      (¬history.Heard header → (tracker.track header).2 =
        if (tracker.track header).1.isComplete then .completing else .new) := by
  obtain ⟨table, numbers, size, belongs, holds, version, arrived, grown, heard⟩ :=
    reflects.tableFor_of_accepted accepted
  have counts := accepted
  unfold TrackerHistory.accepts at counts
  simp only [Bool.and_eq_true, decide_eq_true_eq] at counts
  obtain ⟨⟨current, within⟩, -⟩ := counts
  have inRange : header.number.toNat ≤ header.lastNumber.toNat := UInt8.le_iff_toNat_le.mp within
  have whole : (tracker.noted header table).isComplete = true →
      (table.accept header.number.toNat header.lastNumber.toNat).1.isComplete = true := by
    intro complete
    unfold isComplete at complete
    rw [Bool.and_eq_true, OrderedMap.all_values_iff_get?] at complete
    exact complete.2 header.sectionId _ (OrderedMap.get?_insert_self _)
  have answer := holds.arrival inRange
  rw [track_of_current current within, belongs]
  simp only
  refine ⟨?_, fun already => ?_, fun new => ?_⟩
  · have after := holds.accept inRange
    rw [arrived, grown] at after
    have follows : Follows (table.accept header.number.toNat header.lastNumber.toNat).1
        (history.tableWith header) := ⟨TableProgress.version_accept.trans version, after⟩
    intro id
    unfold TrackerHistory.record
    rw [if_pos accepted]
    by_cases same : id = header.sectionId
    · subst same
      rw [Function.update_self, noted, OrderedMap.get?_insert_self]
      exact .some follows
    · rw [Function.update_of_ne same, noted, OrderedMap.get?_insert_of_ne same]
      exact reflects id
  · rw [answer, if_pos (heard.mpr already), if_pos (heard.mpr already)]
    by_cases complete : (tracker.noted header table).isComplete = true
    · rw [if_pos (whole complete), if_pos complete, complete]
      rfl
    · rw [if_neg complete, Bool.eq_false_of_not_eq_true complete]
      split <;> rfl
  · rw [answer, if_neg (heard.not.mpr new), if_neg (heard.not.mpr new)]
    by_cases complete : (tracker.noted header table).isComplete = true
    · rw [if_pos (whole complete), if_pos complete, complete]
      rfl
    · rw [if_neg complete, Bool.eq_false_of_not_eq_true complete]
      split <;> rfl

/-! ## A run -/

theorem Reflects.act (reflects : tracker.Reflects history) (act : TrackerAct) :
    (tracker.act act).Reflects (history.act act) := by
  cases act with
  | reset => exact reflects_empty
  | track header =>
    change (tracker.track header).1.Reflects (history.record header)
    cases counts : history.accepts header with
    | true => exact (reflects.track_of_accepted counts).1
    | false =>
      unfold TrackerHistory.record
      rw [(reflects.track_of_refused counts).1, counts]
      exact reflects

theorem reflects_actAll (acts : List TrackerAct) :
    (actAll acts).Reflects (TrackerHistory.actAll acts) := by
  unfold actAll TrackerHistory.actAll
  suffices kept : ∀ (tracker : TableTracker) (history : TrackerHistory), tracker.Reflects history →
      (acts.foldl TableTracker.act tracker).Reflects (acts.foldl TrackerHistory.act history) from
    kept _ _ reflects_empty
  induction acts with
  | nil => exact fun tracker history reflects => reflects
  | cons act rest ih => exact fun tracker history reflects => ih _ _ (reflects.act act)

theorem Reflects.refused_of_answer (reflects : tracker.Reflects history)
    (answer : (tracker.track header).2 ∈ [.notYetCurrent, .outOfRange, .outdated]) :
    history.accepts header = false := by
  cases counts : history.accepts header with
  | false => rfl
  | true =>
    obtain ⟨-, already, new⟩ := reflects.track_of_accepted counts
    by_cases heard : history.Heard header
    · rw [already heard] at answer
      split at answer <;> simp at answer
    · rw [new heard] at answer
      split at answer <;> simp at answer

/-- After any sections and resets, a tracker is its history: for each identifier the version in force, the
numbers that have arrived and the size. It is complete, for one table or for all, when all numbers below the
size have arrived. The answer to a section that counts is fixed by whether it was heard before and whether
the tracker is complete with it; any other section leaves the tracker as it was. -/
theorem actAll_refines (acts : List TrackerAct) :
    let tracker := actAll acts
    let history := TrackerHistory.actAll acts
    (∀ id, Option.Rel Follows (tracker.tables.get? id) (history id)) ∧
      (∀ id, tracker.isTableComplete id = true ↔
        ∃ past, history id = some past ∧ past.numbers = Finset.range past.size) ∧
      (tracker.isComplete = true ↔ (∃ id, history id ≠ none) ∧
        ∀ id past, history id = some past → past.numbers = Finset.range past.size) ∧
      ∀ header,
        (history.accepts header = true →
          (history.Heard header → (tracker.track header).2 =
            if (tracker.track header).1.isComplete then .repeatedComplete else .repeated) ∧
          (¬history.Heard header → (tracker.track header).2 =
            if (tracker.track header).1.isComplete then .completing else .new)) ∧
        (history.accepts header = false → (tracker.track header).2 =
          if !header.isCurrent then .notYetCurrent
          else if header.lastNumber < header.number then .outOfRange
          else .outdated) ∧
        ((tracker.track header).2 ∈ [.notYetCurrent, .outOfRange, .outdated] →
          (tracker.track header).1 = tracker) := by
  have reflects := reflects_actAll acts
  refine ⟨reflects, reflects.isTableComplete_iff, reflects.isComplete_iff, fun header => ?_⟩
  refine ⟨fun counts => ?_, fun refused => ?_, fun answer => ?_⟩
  · exact (reflects.track_of_accepted counts).2
  · exact (reflects.track_of_refused refused).2
  · exact (reflects.track_of_refused (reflects.refused_of_answer answer)).1

end TableTracker

end DvbScan
