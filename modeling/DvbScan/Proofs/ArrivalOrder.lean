import DvbScan.Proofs.HeldSections

/-!
# The order of arrival

Sections arrive in any order, and more than once, and a later one may announce a longer table. If each table keeps
to one version, the tracker comes out the same in whatever order they arrive: it is told by which sections there
are. For one table of one length the answers can be read off too. The table is completed once, by the section with
which the last number has arrived, and every section behind that is a repeat of a complete table.
-/

namespace DvbScan

namespace SectionHeader

def OneVersionEach (headers : List SectionHeader) : Prop :=
  ∀ first ∈ headers, ∀ second ∈ headers, first.applies = true → second.applies = true →
    first.sectionId = second.sectionId → first.tableVersion = second.tableVersion

/-- Every number up to the last one is that of a section that applies. -/
def ArrivedUpTo (last : UInt8) (headers : List SectionHeader) : Prop :=
  ∀ number ≤ last.toNat, ∃ header ∈ headers, header.applies = true ∧ header.number.toNat = number

instance (headers : List SectionHeader) : Decidable (OneVersionEach headers) :=
  inferInstanceAs (Decidable (∀ first ∈ headers, _))

instance (last : UInt8) (headers : List SectionHeader) : Decidable (ArrivedUpTo last headers) :=
  inferInstanceAs (Decidable (∀ number ≤ last.toNat, _))

/-- All sections are of one table, and announce one last number. -/
def OfOneLength (id : UInt16) (last : UInt8) (headers : List SectionHeader) : Prop :=
  ∀ header ∈ headers, header.sectionId = id ∧ header.lastNumber = last

variable {id : UInt16} {last : UInt8} {header : SectionHeader} {headers before first second : List SectionHeader}

theorem OneVersionEach.subset (single : OneVersionEach second) (subset : first ⊆ second) : OneVersionEach first :=
  fun former member latter present => single former (subset member) latter (subset present)

theorem OfOneLength.subset (alike : OfOneLength id last second) (subset : first ⊆ second) :
    OfOneLength id last first :=
  fun header member => alike header (subset member)

theorem OneVersionEach.leads (single : OneVersionEach headers) (present : header ∈ ofTable id headers) :
    Leads id header.tableVersion headers := by
  obtain ⟨member, applies, own⟩ := mem_ofTable.mp present
  intro other there different
  obtain ⟨listed, counts, same⟩ := mem_ofTable.mp there
  exact absurd (single other listed header member counts applies (same.trans own.symm)) different

theorem OneVersionEach.ofVersion_eq (single : OneVersionEach headers) (present : header ∈ ofTable id headers) :
    ofVersion id header.tableVersion headers = ofTable id headers := by
  obtain ⟨member, applies, own⟩ := mem_ofTable.mp present
  apply List.filter_eq_self.mpr
  intro other there
  obtain ⟨listed, counts, same⟩ := mem_ofTable.mp there
  simpa using single other listed header member counts applies (same.trans own.symm)

theorem arrivedUpTo_concat_of_ignored (ignored : header.applies = false) :
    ArrivedUpTo last (before ++ [header]) ↔ ArrivedUpTo last before := by
  simp [ArrivedUpTo, ignored, or_and_right, exists_or]

theorem arrivedUpTo_concat_of_heard
    (heard : ∃ other ∈ before, other.applies = true ∧ other.number.toNat = header.number.toNat) :
    ArrivedUpTo last (before ++ [header]) ↔ ArrivedUpTo last before := by
  obtain ⟨twin, present, counts, same⟩ := heard
  refine forall₂_congr fun number _ => ⟨?_, ?_⟩
  · rintro ⟨other, member, applies, rfl⟩
    rcases List.mem_append.mp member with there | added
    · exact ⟨other, there, applies, rfl⟩
    · rw [List.mem_singleton.mp added]
      exact ⟨twin, present, counts, same⟩
  · rintro ⟨other, member, found⟩
    exact ⟨other, List.mem_append_left _ member, found⟩

theorem whole_ofTable_iff (alike : OfOneLength id last headers) :
    Whole (ofTable id headers) ↔ ArrivedUpTo last headers := by
  constructor
  · rintro ⟨some_sections, announced⟩ number below
    obtain ⟨header, member⟩ := List.exists_mem_of_ne_nil _ some_sections
    rw [← (alike header (mem_ofTable.mp member).1).2] at below
    obtain ⟨other, present, same⟩ := announced header member number below
    obtain ⟨listed, applies, -⟩ := mem_ofTable.mp present
    exact ⟨other, listed, applies, same⟩
  · intro arrived
    have found (number : Nat) (below : number ≤ last.toNat) :
        ∃ other ∈ ofTable id headers, other.number.toNat = number := by
      obtain ⟨other, listed, applies, same⟩ := arrived number below
      exact ⟨other, mem_ofTable.mpr ⟨listed, applies, (alike other listed).1⟩, same⟩
    obtain ⟨first, present, -⟩ := found 0 (Nat.zero_le _)
    refine ⟨List.ne_nil_of_mem present, fun header member number below => found number ?_⟩
    rw [(alike header (mem_ofTable.mp member).1).2] at below
    exact below

end SectionHeader

open SectionHeader

theorem TableHistory.alike_of_perm {first second : TableHistory} (version : first.version = second.version)
    (perm : first.sections.Perm second.sections) : first.Alike second where
  version := version
  numbers := by
    ext number
    rw [mem_numbers_iff, mem_numbers_iff]
    exact exists_congr fun header => and_congr_left fun _ => perm.mem_iff
  size := by
    apply eq_of_forall_lt_iff
    intro number
    rw [lt_size_iff, lt_size_iff]
    exact exists_congr fun header => and_congr_left fun _ => perm.mem_iff

namespace TrackerHistory

variable {id : UInt16} {header : SectionHeader} {headers first second : List SectionHeader}

theorem known_of_single (single : OneVersionEach headers) (present : header ∈ ofTable id headers) :
    ∃ table, actAll (headers.map .track) id = some table ∧ table.version = header.tableVersion ∧
      table.sections = (ofTable id headers).reverse := by
  have held := held_of_leads (single.leads present)
  rw [single.ofVersion_eq present] at held
  have some_held : (actAll (headers.map .track)).held id header.tableVersion ≠ [] := by
    rw [held]
    simpa using List.ne_nil_of_mem present
  obtain ⟨table, known, version, sections⟩ := exists_of_held_ne_nil some_held
  exact ⟨table, known, version, sections.trans held⟩

theorem eq_none_iff_of_single (single : OneVersionEach headers) :
    actAll (headers.map .track) id = none ↔ ofTable id headers = [] := by
  constructor
  · intro unknown
    by_contra some_sections
    obtain ⟨header, present⟩ := List.exists_mem_of_ne_nil _ some_sections
    obtain ⟨table, known, -⟩ := known_of_single single present
    cases unknown.symm.trans known
  · intro none
    by_contra some_known
    obtain ⟨table, known⟩ := Option.ne_none_iff_exists'.mp some_known
    have listed := latest_mem_ofVersion known
    have present : table.latest ∈ ofTable id headers := List.mem_of_mem_filter listed
    rw [none] at present
    cases present

end TrackerHistory

namespace TableTracker

variable {id : UInt16} {version : Nat} {last : UInt8} {header : SectionHeader}
  {headers before first second : List SectionHeader}

theorem actAll_concat (headers : List SectionHeader) (header : SectionHeader) :
    actAll ((headers ++ [header]).map .track) = ((actAll (headers.map .track)).track header).1 := by
  simp [actAll, act]

theorem version?_of_single (single : OneVersionEach headers) :
    (actAll (headers.map .track)).version? id = some version ↔
      ∃ header ∈ ofTable id headers, header.tableVersion = version := by
  rw [(reflects_actAll (headers.map .track)).version?_eq, Option.map_eq_some_iff]
  constructor
  · rintro ⟨table, known, rfl⟩
    have listed := TrackerHistory.latest_mem_ofVersion known
    exact ⟨table.latest, List.mem_of_mem_filter listed, (mem_ofVersion.mp listed).2.2.2⟩
  · rintro ⟨header, present, rfl⟩
    obtain ⟨table, known, version, -⟩ := TrackerHistory.known_of_single single present
    exact ⟨table, known, version⟩

theorem isTableComplete_of_single (single : OneVersionEach headers) :
    (actAll (headers.map .track)).isTableComplete id = true ↔ Whole (ofTable id headers) := by
  by_cases none : ofTable id headers = []
  · have unknown := (TrackerHistory.eq_none_iff_of_single single).mpr none
    rw [(reflects_actAll (headers.map .track)).isTableComplete_iff, unknown, none]
    simp [Whole]
  · obtain ⟨header, present⟩ := List.exists_mem_of_ne_nil _ none
    have all := single.ofVersion_eq present
    rw [← all] at none ⊢
    exact (inForce_of_leads (single.leads present) none).2

theorem isComplete_of_single (single : OneVersionEach headers) :
    (actAll (headers.map .track)).isComplete = true ↔
      (∃ id, ofTable id headers ≠ []) ∧ ∀ id, ofTable id headers ≠ [] → Whole (ofTable id headers) := by
  have reflects := reflects_actAll (headers.map .track)
  have unknown (id : UInt16) : TrackerHistory.actAll (headers.map .track) id = none ↔ ofTable id headers = [] :=
    TrackerHistory.eq_none_iff_of_single single
  rw [reflects.isComplete_iff]
  unfold TrackerHistory.IsFull
  simp only [ne_eq, unknown]
  refine and_congr_right fun _ => forall_congr' fun id => ?_
  rw [← isTableComplete_of_single single, reflects.isTableComplete_iff, ← unknown]
  constructor
  · intro full some_known
    obtain ⟨table, known⟩ := Option.ne_none_iff_exists'.mp some_known
    exact ⟨table, known, full table known⟩
  · intro full table known
    obtain ⟨other, there, whole⟩ := full (by rw [known]; nofun)
    cases known.symm.trans there
    exact whole

theorem actAll_eq_of_perm (single : OneVersionEach first) (perm : first.Perm second) :
    actAll (first.map .track) = actAll (second.map .track) := by
  have other : OneVersionEach second := single.subset fun _ => perm.mem_iff.mpr
  rw [(reflects_actAll (first.map .track)).eq_iff (reflects_actAll (second.map .track))]
  intro id
  have tables : (ofTable id first).Perm (ofTable id second) := perm.filter _
  by_cases none : ofTable id first = []
  · have nothing : ofTable id second = [] := by
      rw [none] at tables
      exact tables.nil_eq.symm
    rw [(TrackerHistory.eq_none_iff_of_single single).mpr none,
      (TrackerHistory.eq_none_iff_of_single other).mpr nothing]
    exact .none
  · obtain ⟨header, present⟩ := List.exists_mem_of_ne_nil _ none
    obtain ⟨former, known, version, sections⟩ := TrackerHistory.known_of_single single present
    obtain ⟨latter, there, same, twins⟩ := TrackerHistory.known_of_single other (tables.mem_iff.mp present)
    rw [known, there]
    apply Option.Rel.some
    apply TableHistory.alike_of_perm (version.trans same.symm)
    rw [sections, twins]
    exact (List.reverse_perm _).trans (tables.trans (List.reverse_perm _).symm)

def answers (tracker : TableTracker) : List SectionHeader → List Arrival
  | [] => []
  | header :: rest => (tracker.track header).2 :: (tracker.track header).1.answers rest

theorem answers_append (tracker : TableTracker) (first second : List SectionHeader) :
    tracker.answers (first ++ second) = tracker.answers first ++
      ((first.map .track).foldl act tracker).answers second := by
  induction first generalizing tracker with
  | nil => rfl
  | cons header rest ih =>
    simp only [List.cons_append, answers, ih]
    rfl

theorem isComplete_of_oneLength (single : OneVersionEach headers) (alike : OfOneLength id last headers) :
    (actAll (headers.map .track)).isComplete = true ↔ ArrivedUpTo last headers := by
  rw [isComplete_of_single single, ← whole_ofTable_iff alike]
  constructor
  · rintro ⟨⟨other, some_sections⟩, all⟩
    obtain ⟨header, present⟩ := List.exists_mem_of_ne_nil _ some_sections
    obtain ⟨listed, -, own⟩ := mem_ofTable.mp present
    rw [(alike header listed).1] at own
    exact own ▸ all other some_sections
  · intro whole
    refine ⟨⟨id, whole.1⟩, fun other some_sections => ?_⟩
    obtain ⟨header, present⟩ := List.exists_mem_of_ne_nil _ some_sections
    obtain ⟨listed, -, own⟩ := mem_ofTable.mp present
    rw [(alike header listed).1] at own
    exact own ▸ whole

theorem heard_of_single (single : OneVersionEach (before ++ [header])) (applies : header.applies = true) :
    (TrackerHistory.actAll (before.map .track)).Heard header ↔
      ∃ other ∈ ofTable header.sectionId before, other.number.toNat = header.number.toNat := by
  have earlier : OneVersionEach before := single.subset (List.subset_append_left _ _)
  constructor
  · rintro ⟨table, known, -, arrived⟩
    obtain ⟨other, held, same⟩ := TableHistory.mem_numbers_iff.mp arrived
    exact ⟨other, List.mem_of_mem_filter (TrackerHistory.mem_ofVersion_of_mem_sections known held), same⟩
  · rintro ⟨other, present, same⟩
    obtain ⟨table, known, version, sections⟩ := TrackerHistory.known_of_single earlier present
    obtain ⟨listed, counts, own⟩ := mem_ofTable.mp present
    refine ⟨table, known, version.trans ?_, TableHistory.mem_numbers_iff.mpr ⟨other, ?_, same⟩⟩
    · exact single other (List.mem_append_left _ listed) header (List.mem_append_right _ List.mem_cons_self)
        counts applies own
    · rw [sections]
      exact List.mem_reverse.mpr present

theorem accepts_of_single (single : OneVersionEach (before ++ [header])) (applies : header.applies = true) :
    (TrackerHistory.actAll (before.map .track)).accepts header = true := by
  refine TrackerHistory.accepts_iff.mpr ⟨applies, fun table known => .inl ?_⟩
  have held := TrackerHistory.latest_mem_ofVersion known
  obtain ⟨listed, counts, own, version⟩ := mem_ofVersion.mp held
  rw [← version]
  exact single header (List.mem_append_right _ List.mem_cons_self) table.latest (List.mem_append_left _ listed)
    applies counts own.symm

theorem heard_of_arrived (single : OneVersionEach (before ++ [header])) (alike : OfOneLength id last (before ++ [header]))
    (applies : header.applies = true) (arrived : ArrivedUpTo last before) :
    (TrackerHistory.actAll (before.map .track)).Heard header := by
  obtain ⟨own, length⟩ := alike header (List.mem_append_right _ List.mem_cons_self)
  have within : header.number.toNat ≤ last.toNat := by
    have inside := (Bool.and_eq_true_iff.mp applies).2
    rw [← length]
    exact UInt8.le_iff_toNat_le.mp (of_decide_eq_true inside)
  obtain ⟨other, listed, counts, same⟩ := arrived _ within
  refine (heard_of_single single applies).mpr ⟨other, mem_ofTable.mpr ⟨listed, counts, ?_⟩, same⟩
  exact (alike other (List.mem_append_left _ listed)).1.trans own.symm

/-- A section completes the table exactly if the last number has arrived with it, and once the table is complete
every section that applies is a repeat. -/
theorem answer_of_oneLength (single : OneVersionEach (before ++ [header]))
    (alike : OfOneLength id last (before ++ [header])) :
    (((actAll (before.map .track)).track header).2 = .completing ↔
        ¬ArrivedUpTo last before ∧ ArrivedUpTo last (before ++ [header])) ∧
      (header.applies = true → ArrivedUpTo last before →
        ((actAll (before.map .track)).track header).2 = .repeatedComplete) := by
  have reflects := reflects_actAll (before.map .track)
  cases applies : header.applies with
  | false =>
    have refused : (TrackerHistory.actAll (before.map .track)).accepts header = false := by
      rw [← Bool.not_eq_true, TrackerHistory.accepts_iff, applies]
      simp
    rw [(reflects.track_of_refused refused).2, arrivedUpTo_concat_of_ignored applies]
    refine ⟨iff_of_false ?_ (fun given => given.1 given.2), nofun⟩
    split
    · nofun
    · split <;> nofun
  | true =>
    have complete := isComplete_of_oneLength single alike
    rw [actAll_concat] at complete
    obtain ⟨-, already, new⟩ := reflects.track_of_accepted (accepts_of_single single applies)
    by_cases heard : (TrackerHistory.actAll (before.map .track)).Heard header
    · obtain ⟨twin, present, same⟩ := (heard_of_single single applies).mp heard
      obtain ⟨listed, counts, -⟩ := mem_ofTable.mp present
      have unchanged : ArrivedUpTo last (before ++ [header]) ↔ ArrivedUpTo last before :=
        arrivedUpTo_concat_of_heard ⟨twin, listed, counts, same⟩
      rw [already heard, unchanged]
      refine ⟨iff_of_false ?_ (fun given => given.1 given.2), fun _ arrived => ?_⟩
      · split <;> nofun
      · exact if_pos (complete.mpr (unchanged.mpr arrived))
    · have missing : ¬ArrivedUpTo last before :=
        fun arrived => heard (heard_of_arrived single alike applies arrived)
      rw [new heard, ← complete]
      refine ⟨?_, fun _ arrived => absurd arrived missing⟩
      split
      next full => simp [full, missing]
      next lacking => simp [lacking]

theorem count_completing (single : OneVersionEach headers) (alike : OfOneLength id last headers) :
    (empty.answers headers).count .completing = if ArrivedUpTo last headers then 1 else 0 := by
  induction headers using List.reverseRecOn with
  | nil =>
    have nothing : ¬ArrivedUpTo last [] := by
      intro arrived
      obtain ⟨header, member, -⟩ := arrived 0 (Nat.zero_le _)
      cases member
    rw [if_neg nothing]
    rfl
  | append_singleton before header ih =>
    have earlier := List.subset_append_left before [header]
    have answer := (answer_of_oneLength single alike).1
    have grows : ArrivedUpTo last before → ArrivedUpTo last (before ++ [header]) := by
      intro arrived number below
      obtain ⟨other, member, found⟩ := arrived number below
      exact ⟨other, earlier member, found⟩
    have added : (empty.answers (before ++ [header])).count .completing =
        (empty.answers before).count .completing +
          if ((actAll (before.map .track)).track header).2 == .completing then 1 else 0 := by
      rw [answers_append, List.count_append]
      exact congrArg _ List.count_singleton
    rw [added, ih (single.subset earlier) (alike.subset earlier)]
    by_cases arrived : ArrivedUpTo last before
    · simp [answer, arrived, grows arrived]
    · simp [answer, arrived]

/-- Of sections of which each table keeps to one version, in any order, the tracker holds the version of each table,
finds a table complete when its sections leave out no number that one of them announces, and is complete when every
table is. If all are of one table and announce one last number, one section completes the table if every number
arrives, and no section does otherwise. It is the one with which the last number has arrived, and every section
behind it that applies is a repeat of a complete table. -/
theorem tracks_in_any_order (single : OneVersionEach first) (perm : first.Perm second) :
    let tracker := actAll (first.map .track)
    actAll (second.map .track) = tracker ∧
      (∀ id version, tracker.version? id = some version ↔ ∃ header ∈ ofTable id first, header.tableVersion = version) ∧
      (∀ id, tracker.isTableComplete id = true ↔ Whole (ofTable id first)) ∧
      (tracker.isComplete = true ↔
        (∃ id, ofTable id first ≠ []) ∧ ∀ id, ofTable id first ≠ [] → Whole (ofTable id first)) ∧
      ∀ id last, OfOneLength id last first →
        (empty.answers first).count .completing = (if ArrivedUpTo last first then 1 else 0) ∧
        ∀ before header after, first = before ++ header :: after →
          (((actAll (before.map .track)).track header).2 = .completing ↔
            ¬ArrivedUpTo last before ∧ ArrivedUpTo last (before ++ [header])) ∧
          (header.applies = true → ArrivedUpTo last before →
            ((actAll (before.map .track)).track header).2 = .repeatedComplete) := by
  refine ⟨(actAll_eq_of_perm single perm).symm, fun id version => version?_of_single single,
    fun id => isTableComplete_of_single single, isComplete_of_single single, fun id last alike => ?_⟩
  refine ⟨count_completing single alike, ?_⟩
  rintro before header after rfl
  have upTo : before ++ [header] ⊆ before ++ header :: after := by
    rw [List.append_cons before header after]
    exact List.subset_append_left _ _
  exact answer_of_oneLength (single.subset upTo) (alike.subset upTo)

end TableTracker

namespace ShuffledTable

def header (number : UInt8) (isCurrent : Bool) : SectionHeader :=
  { tableId := 0x4A, length := 13, sectionId := 7, version := 31, isCurrent, number, lastNumber := 2 }

def sections : List SectionHeader :=
  [header 2 true, header 1 false, header 0 true, header 2 true, header 1 true, header 0 true]

theorem tracks_reversed :
    (OneVersionEach sections ∧ sections.Perm sections.reverse ∧ OfOneLength 7 2 sections) ∧
      TableTracker.actAll (sections.reverse.map .track) = TableTracker.actAll (sections.map .track) ∧
      (TableTracker.empty.answers sections).count .completing = 1 := by
  have single : OneVersionEach sections := by decide
  have alike : OfOneLength 7 2 sections := by
    unfold OfOneLength
    decide
  have perm : sections.Perm sections.reverse := (List.reverse_perm sections).symm
  obtain ⟨same, -, -, -, answers⟩ := TableTracker.tracks_in_any_order single perm
  refine ⟨⟨single, perm, alike⟩, same, ?_⟩
  rw [(answers 7 2 alike).1]
  exact if_pos (by decide)

end ShuffledTable

end DvbScan
