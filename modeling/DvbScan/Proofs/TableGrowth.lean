import DvbScan.Proofs.TableHistory
import Mathlib.Data.Finset.Card

/-!
# What a repeat can change

A section that was heard before may still say that its table is longer than was known. The table, which may
have been complete, is then incomplete, although no new section has arrived. So two sizes of a table matter:
the one that was known when its last new section arrived, and the present one. A section that neither is new
nor makes its table longer changes nothing.
-/

namespace DvbScan

/-! ## The last news of a table -/

namespace TableHistory

/-- Of sections, the last one first, those up to the last one that was new. -/
def upToNews : List SectionHeader → List SectionHeader
  | [] => []
  | last :: earlier =>
    if last.number ∈ earlier.map (·.number) then upToNews earlier else last :: earlier

/-- The size that was known when the last new section arrived. -/
def sizeAtNews (history : TableHistory) : Nat :=
  1 + ((upToNews history.sections).map (·.lastNumber.toNat)).foldr max 0

/-- With the last new section, every section that was known of had arrived. -/
def WasFull (history : TableHistory) : Prop := history.numbers = Finset.range history.sizeAtNews

def IsWithin (history : TableHistory) : Prop :=
  ∀ header ∈ history.sections, header.number ≤ header.lastNumber

variable {history : TableHistory} {header : SectionHeader}

theorem mem_numbers : header.number.toNat ∈ history.numbers ↔
    header.number ∈ history.sections.map (·.number) := by
  unfold numbers
  simp only [List.mem_toFinset, List.mem_map, UInt8.toNat_inj]

theorem mem_of_mem_upToNews {sections : List SectionHeader} (member : header ∈ upToNews sections) :
    header ∈ sections := by
  induction sections with
  | nil => exact member
  | cons last earlier ih =>
    unfold upToNews at member
    split at member
    · exact List.mem_cons_of_mem _ (ih member)
    · exact member

theorem number_mem_upToNews {sections : List SectionHeader} (member : header ∈ sections) :
    header.number ∈ (upToNews sections).map (·.number) := by
  induction sections generalizing header with
  | nil => cases member
  | cons last earlier ih =>
    unfold upToNews
    split
    next heard =>
      rcases List.mem_cons.mp member with rfl | before
      · obtain ⟨twin, present, same⟩ := List.mem_map.mp heard
        rw [← same]
        exact ih present
      · exact ih before
    next new => exact List.mem_map_of_mem member

theorem foldr_max_le_iff {values : List Nat} {bound : Nat} :
    values.foldr max 0 ≤ bound ↔ ∀ value ∈ values, value ≤ bound := by
  induction values with
  | nil => simp
  | cons value rest ih => rw [List.foldr_cons, Nat.max_le, ih, List.forall_mem_cons]

theorem le_foldr_max {values : List Nat} {value : Nat} (member : value ∈ values) :
    value ≤ values.foldr max 0 :=
  foldr_max_le_iff.mp (Nat.le_refl _) value member

theorem sizeAtNews_le_size (history : TableHistory) : history.sizeAtNews ≤ history.size := by
  unfold sizeAtNews size
  refine Nat.add_le_add_left (foldr_max_le_iff.mpr fun value member => ?_) 1
  obtain ⟨header, present, rfl⟩ := List.mem_map.mp member
  exact le_foldr_max (List.mem_map_of_mem (mem_of_mem_upToNews present))

theorem lt_sizeAtNews (within : history.IsWithin) {number : Nat} (arrived : number ∈ history.numbers) :
    number < history.sizeAtNews := by
  unfold numbers at arrived
  obtain ⟨header, member, rfl⟩ := List.mem_map.mp (List.mem_toFinset.mp arrived)
  obtain ⟨twin, told, same⟩ := List.mem_map.mp (number_mem_upToNews member)
  have inside : twin.number.toNat ≤ twin.lastNumber.toNat :=
    UInt8.le_iff_toNat_le.mp (within twin (mem_of_mem_upToNews told))
  have bound : twin.lastNumber.toNat ≤
      ((upToNews history.sections).map (·.lastNumber.toNat)).foldr max 0 :=
    le_foldr_max (List.mem_map.mpr ⟨twin, told, rfl⟩)
  rw [← same]
  unfold sizeAtNews
  omega

/-- A table that was full is so still, unless a repeat has made it longer. -/
theorem WasFull.isFull_iff (full : history.WasFull) :
    history.IsFull ↔ history.size = history.sizeAtNews := by
  unfold IsFull
  rw [show history.numbers = Finset.range history.sizeAtNews from full]
  constructor
  · intro same
    have sizes := congrArg Finset.card same
    rw [Finset.card_range, Finset.card_range] at sizes
    exact sizes.symm
  · intro same
    rw [same]

theorem wasFull_of_isFull (within : history.IsWithin) (full : history.IsFull) : history.WasFull := by
  have last : history.size - 1 ∈ history.numbers := by
    rw [show history.numbers = Finset.range history.size from full, Finset.mem_range]
    unfold size
    omega
  have below := lt_sizeAtNews within last
  have above := history.sizeAtNews_le_size
  have sizes : history.size = history.sizeAtNews := by omega
  unfold WasFull
  rw [← sizes]
  exact full

/-! Repeats leave the last news, and a new section is the last news. -/

theorem wasFull_add_of_heard (heard : header.number.toNat ∈ history.numbers) :
    (history.add header).WasFull ↔ history.WasFull := by
  have last : (history.add header).sizeAtNews = history.sizeAtNews := by
    unfold sizeAtNews
    change 1 + ((upToNews (header :: history.sections)).map _).foldr max 0 = _
    rw [upToNews, if_pos (mem_numbers.mp heard)]
  unfold WasFull
  rw [numbers_add, Finset.insert_eq_of_mem heard, last]

theorem wasFull_add_of_new (new : header.number.toNat ∉ history.numbers) :
    (history.add header).WasFull ↔ (history.add header).IsFull := by
  have last : (history.add header).sizeAtNews = (history.add header).size := by
    unfold sizeAtNews size
    change 1 + ((upToNews (header :: history.sections)).map _).foldr max 0 = _
    rw [upToNews, if_neg (mem_numbers.not.mp new)]
    rfl
  unfold WasFull IsFull
  rw [last]

theorem wasFull_start (header : SectionHeader) : (start header).WasFull ↔ (start header).IsFull := Iff.rfl

end TableHistory

/-! ## News for a tracker -/

namespace TrackerHistory

variable {history : TrackerHistory} {header : SectionHeader}

/-- A section that counts, and is new or makes its table longer. -/
structure LearnsFrom (history : TrackerHistory) (header : SectionHeader) : Prop where
  counts : history.accepts header = true
  news : history.Heard header →
    ∃ past, history header.sectionId = some past ∧ past.size ≤ header.lastNumber.toNat

theorem heard_of_ignored (ignored : ¬history.LearnsFrom header)
    (counts : history.accepts header = true) : history.Heard header := by
  by_contra new
  exact ignored ⟨counts, fun heard => absurd heard new⟩

theorem version_tableWith (history : TrackerHistory) (header : SectionHeader) :
    (history.tableWith header).version = header.tableVersion := by
  unfold tableWith
  split
  · rfl
  · split
    next same => exact same
    next => rfl

theorem mem_sections_tableWith {history : TrackerHistory} {header other : SectionHeader}
    (member : other ∈ (history.tableWith header).sections) :
    other = header ∨ ∃ table, history header.sectionId = some table ∧
      table.version = header.tableVersion ∧ other ∈ table.sections := by
  unfold tableWith at member
  split at member
  · exact .inl (List.mem_singleton.mp member)
  next table known =>
    split at member
    next same =>
      rcases List.mem_cons.mp member with added | held
      · exact .inl added
      · exact .inr ⟨table, known, same, held⟩
    next => exact .inl (List.mem_singleton.mp member)

theorem tableWith_of_heard (heard : history.Heard header) :
    ∃ past, history header.sectionId = some past ∧ past.version = header.tableVersion ∧
      header.number.toNat ∈ past.numbers ∧ history.tableWith header = past.add header := by
  obtain ⟨past, known, version, arrived⟩ := heard
  refine ⟨past, known, version, arrived, ?_⟩
  unfold tableWith
  rw [known]
  exact if_pos version

theorem wasFull_tableWith_of_new (new : ¬history.Heard header) :
    (history.tableWith header).WasFull ↔ (history.tableWith header).IsFull := by
  unfold tableWith
  cases known : history header.sectionId with
  | none => exact TableHistory.wasFull_start header
  | some past =>
    simp only
    split
    next version =>
      apply TableHistory.wasFull_add_of_new
      exact fun arrived => new ⟨past, known, version, arrived⟩
    next => exact TableHistory.wasFull_start header

def IsWithin (history : TrackerHistory) : Prop := ∀ id past, history id = some past → past.IsWithin

theorem IsWithin.record (within : history.IsWithin) (header : SectionHeader) :
    (history.record header).IsWithin := by
  unfold TrackerHistory.record
  split
  next counts =>
    unfold accepts at counts
    simp only [Bool.and_eq_true, decide_eq_true_eq] at counts
    intro id past known
    by_cases own : id = header.sectionId
    · subst own
      rw [Function.update_self] at known
      cases known
      intro other member
      rcases mem_sections_tableWith member with rfl | ⟨past, held, -, before⟩
      · exact counts.1.2
      · exact within _ past held other before
    · rw [Function.update_of_ne own] at known
      exact within id past known
  next => exact within

theorem isWithin_actAll (headers : List SectionHeader) : (actAll (headers.map .track)).IsWithin := by
  unfold actAll
  suffices kept : ∀ history : TrackerHistory, history.IsWithin →
      ((headers.map TrackerAct.track).foldl act history).IsWithin from kept empty nofun
  induction headers with
  | nil => exact fun history within => within
  | cons header rest ih => exact fun history within => ih _ (within.record header)

theorem record_apply_self (counts : history.accepts header = true) :
    history.record header header.sectionId = some (history.tableWith header) := by
  unfold record
  rw [if_pos counts, Function.update_self]

theorem record_apply_of_ne (header : SectionHeader) {id : UInt16} (other : id ≠ header.sectionId) :
    history.record header id = history id := by
  unfold record
  split
  · exact Function.update_of_ne other _ _
  · rfl

theorem record_of_refused (refused : history.accepts header = false) : history.record header = history := by
  unfold record
  rw [refused]
  rfl

theorem wasFull_record_of_stale (stale : history.accepts header = true → history.Heard header)
    (id : UInt16) :
    Option.Rel (fun past former => past.WasFull ↔ former.WasFull) (history.record header id)
      (history id) := by
  have unchanged : Option.Rel (fun past former => TableHistory.WasFull past ↔ former.WasFull)
      (history id) (history id) := by
    cases history id with
    | none => exact .none
    | some past => exact .some Iff.rfl
  cases counts : history.accepts header with
  | false =>
    rw [record_of_refused counts]
    exact unchanged
  | true =>
    by_cases own : id = header.sectionId
    · obtain ⟨past, known, -, arrived, same⟩ := tableWith_of_heard (stale counts)
      rw [own, record_apply_self counts, known, same]
      exact .some (TableHistory.wasFull_add_of_heard arrived)
    · rw [record_apply_of_ne header own]
      exact unchanged

/-! ## One identifier by itself -/

def only (history : TrackerHistory) (id : UInt16) : TrackerHistory :=
  fun other => if other = id then history other else none

theorem only_self (history : TrackerHistory) (id : UInt16) : history.only id id = history id :=
  if_pos rfl

theorem accepts_only (history : TrackerHistory) (header : SectionHeader) :
    (history.only header.sectionId).accepts header = history.accepts header := by
  unfold accepts
  rw [only_self]

theorem heard_only (history : TrackerHistory) (header : SectionHeader) :
    (history.only header.sectionId).Heard header ↔ history.Heard header := by
  unfold Heard
  rw [only_self]

theorem learnsFrom_only (history : TrackerHistory) (header : SectionHeader) :
    (history.only header.sectionId).LearnsFrom header ↔ history.LearnsFrom header := by
  constructor
  · rintro ⟨counts, news⟩
    rw [accepts_only] at counts
    rw [heard_only, only_self] at news
    exact ⟨counts, news⟩
  · rintro ⟨counts, news⟩
    rw [← accepts_only] at counts
    rw [← heard_only, ← only_self history] at news
    exact ⟨counts, news⟩

theorem isFull_only_iff {id : UInt16} :
    (history.only id).IsFull ↔ ∃ past, history id = some past ∧ past.IsFull := by
  constructor
  · rintro ⟨⟨another, some_known⟩, all⟩
    have own : another = id := by
      by_contra different
      exact some_known (if_neg different)
    subst own
    rw [only_self] at some_known
    obtain ⟨past, known⟩ := Option.ne_none_iff_exists'.mp some_known
    exact ⟨past, known, all another past ((only_self history another).trans known)⟩
  · rintro ⟨past, known, full⟩
    refine ⟨⟨id, by rw [only_self, known]; nofun⟩, fun another table there => ?_⟩
    unfold only at there
    split at there
    next own =>
      rw [own, known] at there
      cases there
      exact full
    next => cases there

theorem only_record_of_ne (header : SectionHeader) {id : UInt16} (other : id ≠ header.sectionId) :
    (history.record header).only id = history.only id := by
  funext another
  unfold only
  split
  next same =>
    rw [same]
    exact record_apply_of_ne header other
  next => rfl

theorem only_record_self (history : TrackerHistory) (header : SectionHeader) :
    (history.record header).only header.sectionId =
      (history.only header.sectionId).record header := by
  funext another
  by_cases own : another = header.sectionId
  · subst own
    rw [only_self]
    unfold record
    rw [accepts_only]
    split
    · rw [Function.update_self, Function.update_self]
      unfold tableWith
      rw [only_self]
    · exact (only_self history _).symm
  · rw [record_apply_of_ne header own]
    unfold only
    rw [if_neg own, if_neg own]

end TrackerHistory

/-! ## When a tracker stays as it is -/

/-- Two histories of a table that a tracker does not tell apart. -/
structure TableHistory.Alike (first second : TableHistory) : Prop where
  version : first.version = second.version
  numbers : first.numbers = second.numbers
  size : first.size = second.size

theorem TableHistory.alike_add_iff {past : TableHistory} {header : SectionHeader} :
    (past.add header).Alike past ↔
      header.number.toNat ∈ past.numbers ∧ header.lastNumber.toNat < past.size := by
  constructor
  · rintro ⟨-, numbers, size⟩
    rw [numbers_add] at numbers
    rw [size_add] at size
    refine ⟨?_, by omega⟩
    rw [← numbers]
    exact Finset.mem_insert_self _ _
  · rintro ⟨arrived, fits⟩
    refine ⟨rfl, ?_, ?_⟩
    · rw [numbers_add, Finset.insert_eq_of_mem arrived]
    · rw [size_add]
      omega

/-- A section that counts leaves what is known exactly if it neither is new nor makes its table longer. -/
theorem TrackerHistory.alike_record_iff {history : TrackerHistory} {header : SectionHeader}
    (counts : history.accepts header = true) :
    (∀ id, Option.Rel TableHistory.Alike (history.record header id) (history id)) ↔
      ¬history.LearnsFrom header := by
  constructor
  · intro alike learns
    have own := alike header.sectionId
    rw [record_apply_self counts] at own
    cases known : history header.sectionId with
    | none =>
      rw [known] at own
      cases own
    | some past =>
      rw [known] at own
      cases own with
      | some same =>
        have version : past.version = header.tableVersion := by
          rw [← same.version, version_tableWith]
        have added : history.tableWith header = past.add header := by
          unfold tableWith
          rw [known]
          exact if_pos version
        rw [added, TableHistory.alike_add_iff] at same
        obtain ⟨other, there, longer⟩ := learns.news ⟨past, known, version, same.1⟩
        cases known.symm.trans there
        exact Nat.not_le_of_lt same.2 longer
  · intro ignored id
    obtain ⟨past, known, version, arrived, added⟩ :=
      tableWith_of_heard (heard_of_ignored ignored counts)
    have fits : header.lastNumber.toNat < past.size :=
      Nat.lt_of_not_le fun longer => ignored ⟨counts, fun _ => ⟨past, known, longer⟩⟩
    by_cases own : id = header.sectionId
    · rw [own, record_apply_self counts, known, added]
      exact .some (TableHistory.alike_add_iff.mpr ⟨arrived, fits⟩)
    · rw [record_apply_of_ne header own]
      cases history id with
      | none => exact .none
      | some past => exact .some ⟨rfl, rfl, rfl⟩

namespace TableProgress

theorem Holds.eq {first second : TableProgress} {numbers : Finset Nat} {size : Nat}
    (former : first.Holds numbers size) (latter : second.Holds numbers size)
    (version : first.version = second.version) : first = second := by
  have length : first.received.length = second.received.length := former.length.trans latter.length.symm
  have received : first.received = second.received := by
    refine List.ext_getElem length fun number inside outside => ?_
    have flags : first.has number = true ↔ second.has number = true := by
      rw [former.flags, latter.flags]
    rw [has_iff, has_iff, List.getElem?_eq_getElem inside, List.getElem?_eq_getElem outside,
      Option.some.injEq, Option.some.injEq] at flags
    exact Bool.eq_iff_iff.mpr flags
  have complete : first.isComplete = second.isComplete := by
    rw [Bool.eq_iff_iff, former.complete, latter.complete]
  cases first
  cases second
  cases version
  cases received
  cases complete
  rfl

theorem Holds.unique {table : TableProgress} {numbers others : Finset Nat} {size other : Nat}
    (former : table.Holds numbers size) (latter : table.Holds others other) :
    numbers = others ∧ size = other := by
  refine ⟨?_, former.length.symm.trans latter.length⟩
  ext number
  rw [← former.flags, latter.flags]

end TableProgress

namespace TableTracker

variable {tracker : TableTracker} {history : TrackerHistory} {header : SectionHeader}

theorem Follows.eq_iff {first second : TableProgress} {former latter : TableHistory}
    (follows : Follows first former) (others : Follows second latter) :
    first = second ↔ former.Alike latter := by
  constructor
  · rintro rfl
    obtain ⟨numbers, size⟩ := follows.holds.unique others.holds
    exact ⟨follows.version.symm.trans others.version, numbers, size⟩
  · rintro ⟨version, numbers, size⟩
    refine follows.holds.eq (numbers ▸ size ▸ others.holds) ?_
    rw [follows.version, others.version, version]

theorem Reflects.eq_iff {first second : TableTracker} {former latter : TrackerHistory}
    (reflects : first.Reflects former) (others : second.Reflects latter) :
    first = second ↔ ∀ id, Option.Rel TableHistory.Alike (former id) (latter id) := by
  constructor
  · rintro rfl id
    cases known : former id with
    | none =>
      cases shape : latter id with
      | none => exact .none
      | some past =>
        obtain ⟨table, tracked, -⟩ := others.get?_eq_some shape
        rw [reflects.get?_eq_none known] at tracked
        cases tracked
    | some past =>
      obtain ⟨table, tracked, follows⟩ := reflects.get?_eq_some known
      cases shape : latter id with
      | none =>
        rw [others.get?_eq_none shape] at tracked
        cases tracked
      | some other =>
        obtain ⟨twin, there, second⟩ := others.get?_eq_some shape
        cases tracked.symm.trans there
        exact .some ((follows.eq_iff second).mp rfl)
  · intro alike
    have tables : first.tables = second.tables := by
      refine OrderedMap.ext_get? fun id => ?_
      have same := alike id
      cases known : former id with
      | none =>
        rw [known] at same
        cases shape : latter id with
        | none => rw [reflects.get?_eq_none known, others.get?_eq_none shape]
        | some past =>
          rw [shape] at same
          cases same
      | some past =>
        rw [known] at same
        cases shape : latter id with
        | none =>
          rw [shape] at same
          cases same
        | some other =>
          rw [shape] at same
          cases same with
          | some same =>
            obtain ⟨table, tracked, follows⟩ := reflects.get?_eq_some known
            obtain ⟨twin, there, second⟩ := others.get?_eq_some shape
            rw [tracked, there, (follows.eq_iff second).mpr same]
    cases first
    cases second
    cases tables
    rfl

/-- A section is news exactly if it counts and was not heard. -/
theorem Reflects.isFresh_iff {tracker : TableTracker} {history : TrackerHistory} {header : SectionHeader}
    (reflects : tracker.Reflects history) :
    (tracker.track header).2.isFresh = true ↔
      history.accepts header = true ∧ ¬history.Heard header := by
  cases counts : history.accepts header with
  | false =>
    rw [(reflects.track_of_refused counts).2]
    split
    · simp [Arrival.isFresh]
    · split <;> simp [Arrival.isFresh]
  | true =>
    obtain ⟨-, already, new⟩ := reflects.track_of_accepted counts
    by_cases heard : history.Heard header
    · rw [already heard]
      split <;> simp [Arrival.isFresh, heard]
    · rw [new heard]
      split <;> simp [Arrival.isFresh, heard]

theorem isFresh_track_empty {header : SectionHeader} (current : header.isCurrent = true)
    (within : header.number ≤ header.lastNumber) : (empty.track header).2.isFresh = true := by
  apply reflects_empty.isFresh_iff.mpr
  constructor
  · unfold TrackerHistory.accepts
    rw [current, decide_eq_true within]
    rfl
  · rintro ⟨past, known, -⟩
    cases known

theorem Reflects.track_eq_outOfRange_iff (reflects : tracker.Reflects history) :
    (tracker.track header).2 = .outOfRange ↔
      header.isCurrent = true ∧ header.lastNumber < header.number := by
  constructor
  · intro answer
    have refused : history.accepts header = false := reflects.refused_of_answer (by simp [answer])
    rw [(reflects.track_of_refused refused).2] at answer
    split at answer
    next => cases answer
    next current =>
      split at answer
      next beyond => exact ⟨by simpa using current, beyond⟩
      next => cases answer
  · rintro ⟨current, beyond⟩
    unfold track
    rw [current, if_neg (by simp), if_pos beyond]

theorem Reflects.fst_track_eq_self_iff (reflects : tracker.Reflects history) :
    (tracker.track header).1 = tracker ↔ ¬history.LearnsFrom header := by
  cases counts : history.accepts header with
  | false =>
    refine iff_of_true (reflects.track_of_refused counts).1 fun learns => ?_
    rw [learns.counts] at counts
    cases counts
  | true =>
    have after := (reflects.track_of_accepted counts).1
    rw [after.eq_iff reflects]
    exact TrackerHistory.alike_record_iff counts

end TableTracker

end DvbScan
