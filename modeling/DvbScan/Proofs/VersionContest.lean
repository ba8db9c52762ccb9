import DvbScan.Proofs.HeldSections
import Mathlib.Data.List.DropRight

/-!
# Two versions of one table

Of two versions, one is newer than the other. But a version of the last eight and one of the first eight are each
newer than the other: the low one because the count has begun again, the high one because it is higher. Where late
sections of a replaced version come in between, this decides what becomes of the table. If the versions do not
contend in this way, the older one is replaced at most once, and what still comes of it is dropped. If they do, every
section replaces the version in force unless it is of that version, and the table begins anew each time.
-/

namespace DvbScan

/-! ## Which version is newer -/

/-- Each of the versions is newer than the other. -/
def Contend (first second : Nat) : Prop :=
  isNewerVersion first second = true ∧ isNewerVersion second first = true

theorem isNewerVersion_iff {candidate adopted : Nat} :
    isNewerVersion candidate adopted = true ↔ adopted < candidate ∨ 24 ≤ adopted ∧ candidate < 8 := by
  simp [isNewerVersion]

theorem isNewerVersion_self (version : Nat) : isNewerVersion version version = false := by
  rw [← Bool.not_eq_true, isNewerVersion_iff]
  omega

theorem contend_iff {first second : Nat} :
    Contend first second ↔ 24 ≤ first ∧ second < 8 ∨ 24 ≤ second ∧ first < 8 := by
  unfold Contend
  rw [isNewerVersion_iff, isNewerVersion_iff]
  omega

instance (first second : Nat) : Decidable (Contend first second) :=
  inferInstanceAs (Decidable (_ ∧ _))

theorem Contend.symm {first second : Nat} (contend : Contend first second) : Contend second first :=
  And.symm contend

theorem Contend.newer_or_eq {first second candidate inForce : Nat} (contend : Contend first second)
    (candidate_of : candidate = first ∨ candidate = second) (inForce_of : inForce = first ∨ inForce = second) :
    candidate = inForce ∨ isNewerVersion candidate inForce = true := by
  rcases candidate_of with rfl | rfl
  · rcases inForce_of with rfl | rfl
    · exact .inl rfl
    · exact .inr contend.1
  · rcases inForce_of with rfl | rfl
    · exact .inr contend.2
    · exact .inl rfl

theorem Contend.of_two {first second former latter : Nat} (contend : Contend former latter)
    (former_of : former = first ∨ former = second) (latter_of : latter = first ∨ latter = second) :
    Contend first second := by
  rw [contend_iff] at contend ⊢
  omega

theorem isNewerVersion_or {first second : Nat} (different : first ≠ second) :
    isNewerVersion first second = true ∨ isNewerVersion second first = true := by
  rw [isNewerVersion_iff, isNewerVersion_iff]
  omega

/-! ## Versions that replace each other -/

def adopted : Option Nat → Nat → Nat
  | none, version => version
  | some former, version => if isNewerVersion version former then version else former

def replacement? : Option Nat → Option Nat → Option (Nat × Nat)
  | some former, some latter => if former = latter then none else some (former, latter)
  | _, _ => none

/-- Which versions replace which when sections of versions come one after the other. -/
def turns (inForce : Option Nat) : List Nat → List (Nat × Nat)
  | [] => []
  | version :: rest =>
    let next := some (adopted inForce version)
    (replacement? inForce next).toList ++ turns next rest

def changes : List Nat → List (Nat × Nat)
  | former :: latter :: rest => (replacement? former latter).toList ++ changes (latter :: rest)
  | _ => []

variable {first second former latter : Nat} {inForce : Option Nat} {versions : List Nat}

theorem newer_of_mem_turns (replaced : (former, latter) ∈ turns inForce versions) :
    isNewerVersion latter former = true ∧ latter ∈ versions ∧ (inForce = some former ∨ former ∈ versions) := by
  induction versions generalizing inForce with
  | nil => cases replaced
  | cons version rest ih =>
    rcases List.mem_append.mp replaced with now | later
    · cases inForce with
      | none => simp [replacement?] at now
      | some former' =>
        by_cases newer : isNewerVersion version former' = true
        · simp only [adopted, newer, if_true, replacement?] at now
          split at now
          · simp at now
          · obtain ⟨rfl, rfl⟩ : former = former' ∧ latter = version := by simpa using now
            exact ⟨newer, List.mem_cons_self, .inl rfl⟩
        · simp [adopted, newer, replacement?] at now
    · obtain ⟨newer, came, before⟩ := ih later
      refine ⟨newer, List.mem_cons_of_mem _ came, ?_⟩
      rcases before with adopting | listed
      · cases inForce with
        | none =>
          cases adopting
          exact .inr List.mem_cons_self
        | some former' =>
          by_cases newer : isNewerVersion version former' = true
          · simp only [adopted, newer, if_true, Option.some.injEq] at adopting
            exact .inr (adopting ▸ List.mem_cons_self)
          · simp only [adopted, newer, Option.some.injEq] at adopting
            exact .inl (congrArg some adopting)
      · exact .inr (List.mem_cons_of_mem _ listed)

theorem turns_of_newest (newest : ∀ version ∈ versions, isNewerVersion version latter = false) :
    turns (some latter) versions = [] := by
  induction versions with
  | nil => rfl
  | cons version rest ih =>
    simp [turns, adopted, newest version List.mem_cons_self, replacement?,
      ih fun other member => newest other (List.mem_cons_of_mem _ member)]

theorem length_turns_le_one_of_known (older : isNewerVersion former latter = false)
    (two : ∀ version ∈ versions, version = former ∨ version = latter) :
    (turns (some former) versions).length ≤ 1 := by
  induction versions with
  | nil => exact Nat.zero_le _
  | cons version rest ih =>
    have tail := fun other member => two other (List.mem_cons_of_mem _ member)
    by_cases newer : isNewerVersion version former = true
    · -- the newer version comes, and nothing replaces that
      rcases two version List.mem_cons_self with rfl | rfl
      · rw [isNewerVersion_self] at newer
        cases newer
      · have settled : turns (some version) rest = [] := by
          apply turns_of_newest
          intro other member
          rcases tail other member with rfl | rfl
          · exact older
          · exact isNewerVersion_self _
        simp only [turns, adopted, newer, if_true, replacement?, settled, List.append_nil]
        split <;> simp
    · simpa [turns, adopted, newer, replacement?] using ih tail

/-- Of two versions that do not contend, at most one replaces the other, and only once. -/
theorem length_turns_le_one (settled : ¬Contend first second)
    (two : ∀ version ∈ versions, version = first ∨ version = second) : (turns none versions).length ≤ 1 := by
  cases versions with
  | nil => exact Nat.zero_le _
  | cons version rest =>
    have tail := fun other member => two other (List.mem_cons_of_mem _ member)
    have begun : turns none (version :: rest) = turns (some version) rest := by
      simp [turns, adopted, replacement?]
    rw [begun]
    have other_way (former latter : Nat) (settled : ¬Contend former latter)
        (two : ∀ version ∈ rest, version = former ∨ version = latter) :
        (turns (some former) rest).length ≤ 1 := by
      by_cases newer : isNewerVersion former latter = true
      · have newest : ∀ version ∈ rest, isNewerVersion version former = false := by
          intro version member
          rcases two version member with rfl | rfl
          · exact isNewerVersion_self _
          · exact Bool.eq_false_of_not_eq_true fun back => settled ⟨newer, back⟩
        rw [turns_of_newest newest]
        exact Nat.zero_le _
      · exact length_turns_le_one_of_known (Bool.eq_false_of_not_eq_true newer) two
    rcases two version List.mem_cons_self with rfl | rfl
    · exact other_way _ _ settled tail
    · exact other_way _ _ (fun contend => settled contend.symm) fun other member => (tail other member).symm

/-- Of two versions that contend, each replaces the other whenever it comes. -/
theorem turns_of_contend (contend : Contend first second)
    (two : ∀ version ∈ versions, version = first ∨ version = second) : turns none versions = changes versions := by
  have known (former : Nat) (given : former = first ∨ former = second) (rest : List Nat)
      (two : ∀ version ∈ rest, version = first ∨ version = second) :
      turns (some former) rest = changes (former :: rest) := by
    induction rest generalizing former with
    | nil => rfl
    | cons version rest ih =>
      have own := two version List.mem_cons_self
      have takes : adopted (some former) version = version := by
        rcases contend.newer_or_eq own given with same | newer
        · simp [adopted, same]
        · simp [adopted, newer]
      simp only [turns, changes, takes]
      rw [ih version own fun other member => two other (List.mem_cons_of_mem _ member)]
  cases versions with
  | nil => rfl
  | cons version rest =>
    have own := two version List.mem_cons_self
    rw [← known version own rest fun other member => two other (List.mem_cons_of_mem _ member)]
    simp [turns, adopted, replacement?]

/-! ## The versions of a tracker -/

open SectionHeader

namespace TrackerHistory

variable {history : TrackerHistory} {id : UInt16} {header : SectionHeader} {headers : List SectionHeader}

theorem record_apply_of_foreign (foreign : ¬(header.applies = true ∧ header.sectionId = id)) :
    history.record header id = history id := by
  by_cases other : id = header.sectionId
  · have ignored : history.accepts header = false := by
      rw [← Bool.not_eq_true, accepts_iff]
      exact fun counts => foreign ⟨counts.1, other.symm⟩
    rw [record_of_refused ignored]
  · exact record_apply_of_ne header other

theorem version_record (history : TrackerHistory) (id : UInt16) (header : SectionHeader) :
    (history.record header id).map (·.version) =
      if header.applies = true ∧ header.sectionId = id
      then some (adopted ((history id).map (·.version)) header.tableVersion)
      else (history id).map (·.version) := by
  by_cases own : header.applies = true ∧ header.sectionId = id
  · obtain ⟨applies, rfl⟩ := own
    rw [if_pos ⟨applies, rfl⟩]
    by_cases counts : history.accepts header = true
    · rw [record_apply_self counts, Option.map_some, version_tableWith]
      cases known : history header.sectionId with
      | none => rfl
      | some table =>
        rcases (accepts_iff.mp counts).2 table known with same | newer
        · simp [adopted, same]
        · simp [adopted, newer]
    · rw [record_of_refused (Bool.eq_false_of_not_eq_true counts)]
      rw [accepts_iff] at counts
      cases known : history header.sectionId with
      | none => exact absurd ⟨applies, fun table found => by rw [known] at found; cases found⟩ counts
      | some table =>
        have kept : isNewerVersion header.tableVersion table.version = false := by
          apply Bool.eq_false_of_not_eq_true
          intro newer
          refine counts ⟨applies, fun other found => ?_⟩
          cases known.symm.trans found
          exact .inr newer
        simp [adopted, kept]
  · rw [if_neg own, record_apply_of_foreign own]

theorem accepts_of_contend {first second : Nat} (contend : Contend first second)
    (two : ∀ other ∈ ofTable header.sectionId headers, other.tableVersion = first ∨ other.tableVersion = second)
    (applies : header.applies = true) (mine : header.tableVersion = first ∨ header.tableVersion = second) :
    (actAll (headers.map .track)).accepts header = true := by
  refine accepts_iff.mpr ⟨applies, fun table known => ?_⟩
  have latest := latest_mem_ofVersion known
  have theirs := two table.latest (List.mem_of_mem_filter latest)
  rw [(mem_ofVersion.mp latest).2.2.2] at theirs
  exact contend.newer_or_eq mine theirs

theorem eq_concat_of_reverse_rtakeWhile {values others : List SectionHeader} {last : SectionHeader}
    {test : SectionHeader → Bool} (shape : last :: others = (values.rtakeWhile test).reverse) :
    ∃ before, values = before ++ [last] := by
  obtain ⟨before, split⟩ := List.rtakeWhile_suffix test values
  have stretch := congrArg List.reverse shape
  rw [List.reverse_cons, List.reverse_reverse] at stretch
  rw [← stretch, ← List.append_assoc] at split
  exact ⟨_, split.symm⟩

/-- Of two versions that contend, the table holds the last sections of one version, and no earlier ones. -/
theorem sections_of_contend {first second : Nat} (contend : Contend first second)
    (two : ∀ header ∈ ofTable id headers, header.tableVersion = first ∨ header.tableVersion = second) :
    (actAll (headers.map .track) id = none → ofTable id headers = []) ∧
      ∀ table, actAll (headers.map .track) id = some table →
        table.sections = ((ofTable id headers).rtakeWhile (·.tableVersion == table.version)).reverse := by
  induction headers using List.reverseRecOn with
  | nil => exact ⟨fun _ => rfl, nofun⟩
  | append_singleton headers last ih =>
    have earlier (header : SectionHeader) (member : header ∈ ofTable id headers) :
        header.tableVersion = first ∨ header.tableVersion = second := by
      apply two
      rw [ofTable_concat]
      exact List.mem_append_left _ member
    obtain ⟨unknown, held⟩ := ih earlier
    rw [actAll_concat]
    by_cases own : last.applies = true ∧ last.sectionId = id
    · obtain ⟨applies, rfl⟩ := own
      have listed : ofTable last.sectionId (headers ++ [last]) = ofTable last.sectionId headers ++ [last] := by
        rw [ofTable_concat, if_pos ⟨applies, rfl⟩]
      have mine : last.tableVersion = first ∨ last.tableVersion = second := by
        apply two
        rw [listed]
        exact List.mem_append_right _ List.mem_cons_self
      have counts := accepts_of_contend contend earlier applies mine
      rw [record_apply_self counts, listed]
      refine ⟨nofun, ?_⟩
      rintro table ⟨⟩
      rw [version_tableWith, List.rtakeWhile_concat_pos _ _ _ (by simp), List.reverse_append]
      unfold tableWith
      cases known : actAll (headers.map .track) last.sectionId with
      | none =>
        rw [unknown known]
        rfl
      | some table =>
        have sections := held table known
        by_cases same : table.version = last.tableVersion
        · simp only [same, if_true]
          rw [← same, ← sections]
          rfl
        · -- the last section before is of the version that is replaced
          obtain ⟨before, shape⟩ := eq_concat_of_reverse_rtakeWhile sections
          have latest := latest_mem_ofVersion known
          have other : table.latest.tableVersion ≠ last.tableVersion := by
            rw [(mem_ofVersion.mp latest).2.2.2]
            exact same
          rw [shape, List.rtakeWhile_concat_neg _ _ _ (by simpa using other)]
          simp only [same, if_false]
          rfl
    · rw [record_apply_of_foreign own, ofTable_concat, if_neg own, List.append_nil]
      exact ⟨unknown, held⟩

end TrackerHistory

namespace TableTracker

variable {tracker : TableTracker} {history : TrackerHistory} {id : UInt16} {version : Nat}
  {late : SectionHeader} {headers : List SectionHeader}

def replacements (tracker : TableTracker) (id : UInt16) : List SectionHeader → List (Nat × Nat)
  | [] => []
  | header :: rest =>
    let next := (tracker.track header).1
    (replacement? (tracker.version? id) (next.version? id)).toList ++ next.replacements id rest

theorem Reflects.track (reflects : tracker.Reflects history) (header : SectionHeader) :
    (tracker.track header).1.Reflects (history.record header) :=
  reflects.act (.track header)

theorem Reflects.replacements_eq (reflects : tracker.Reflects history) (id : UInt16) (headers : List SectionHeader) :
    tracker.replacements id headers =
      turns (tracker.version? id) ((ofTable id headers).map (·.tableVersion)) := by
  induction headers generalizing tracker history with
  | nil => rfl
  | cons header rest ih =>
    have next := (reflects.track header).version?_eq id
    rw [TrackerHistory.version_record, ← reflects.version?_eq id] at next
    rw [replacements, ih (reflects.track header)]
    simp only [next]
    by_cases own : header.applies = true ∧ header.sectionId = id
    · have listed : ofTable id (header :: rest) = header :: ofTable id rest := by simp [ofTable, own]
      rw [if_pos own, listed]
      rfl
    · have skipped : ofTable id (header :: rest) = ofTable id rest :=
        List.filter_cons_of_neg (by simpa using own)
      rw [if_neg own, skipped]
      cases tracker.version? id with
      | none => rfl
      | some version => simp [replacement?]

theorem replacements_empty (id : UInt16) (headers : List SectionHeader) :
    empty.replacements id headers = turns none ((ofTable id headers).map (·.tableVersion)) :=
  reflects_empty.replacements_eq id headers

/-! ## Late sections -/

variable {first second former latter : Nat}

theorem leads_of_newer (settled : ¬Contend first second)
    (two : ∀ header ∈ ofTable id headers, header.tableVersion = first ∨ header.tableVersion = second)
    (former_of : former = first ∨ former = second) (latter_of : latter = first ∨ latter = second)
    (newer : isNewerVersion latter former = true) : Leads id latter headers := by
  intro header member different
  have changed : former ≠ latter := by
    rintro rfl
    rw [isNewerVersion_self] at newer
    cases newer
  have same : header.tableVersion = former := by
    have theirs := two header member
    omega
  rw [same]
  refine ⟨newer, Bool.eq_false_of_not_eq_true fun back => settled ?_⟩
  exact Contend.of_two ⟨back, newer⟩ former_of latter_of

theorem Reflects.track_of_older (reflects : tracker.Reflects history) (applies : late.applies = true)
    (inForce : tracker.version? late.sectionId = some version) (different : late.tableVersion ≠ version)
    (older : isNewerVersion late.tableVersion version = false) : tracker.track late = (tracker, .outdated) := by
  rw [reflects.version?_eq] at inForce
  obtain ⟨table, known, rfl⟩ := Option.map_eq_some_iff.mp inForce
  have refused : history.accepts late = false := by
    rw [← Bool.not_eq_true, TrackerHistory.accepts_iff]
    rintro ⟨-, newest⟩
    rcases newest table known with same | newer
    · exact different same
    · rw [older] at newer
      cases newer
  obtain ⟨current, within⟩ : late.isCurrent = true ∧ late.number ≤ late.lastNumber := by
    simpa [SectionHeader.applies] using applies
  obtain ⟨unchanged, answer⟩ := reflects.track_of_refused refused
  rw [current, if_neg (by simp), if_neg (UInt8.not_lt.mpr within)] at answer
  exact Prod.ext unchanged answer

theorem exists_of_version? (inForce : (actAll (headers.map .track)).version? id = some version) :
    ∃ table, TrackerHistory.actAll (headers.map .track) id = some table ∧ table.version = version ∧
      ∃ header ∈ ofTable id headers, header.tableVersion = version := by
  rw [(reflects_actAll (headers.map .track)).version?_eq] at inForce
  obtain ⟨table, known, rfl⟩ := Option.map_eq_some_iff.mp inForce
  have latest := TrackerHistory.latest_mem_ofVersion known
  exact ⟨table, known, rfl, table.latest, List.mem_of_mem_filter latest, (mem_ofVersion.mp latest).2.2.2⟩

theorem version?_of_newer (settled : ¬Contend first second)
    (two : ∀ header ∈ ofTable id headers, header.tableVersion = first ∨ header.tableVersion = second)
    (former_of : former = first ∨ former = second) (newer : isNewerVersion latter former = true)
    (came : ∃ header ∈ ofTable id headers, header.tableVersion = latter) :
    (actAll (headers.map .track)).version? id = some latter := by
  obtain ⟨header, member, rfl⟩ := came
  have sent : header ∈ ofVersion id header.tableVersion headers :=
    List.mem_filter.mpr ⟨member, beq_self_eq_true _⟩
  have leads := leads_of_newer settled two former_of (two header member) newer
  exact (inForce_of_leads leads (List.ne_nil_of_mem sent)).1

/-- The table in force holds the sections of its version, all of them if the versions do not contend, and the last
ones that came without a break if they do. -/
theorem isTableComplete_of_two
    (two : ∀ header ∈ ofTable id headers, header.tableVersion = first ∨ header.tableVersion = second)
    (inForce : (actAll (headers.map .track)).version? id = some version) :
    (actAll (headers.map .track)).isTableComplete id = true ↔
      Whole (if Contend first second then (ofTable id headers).rtakeWhile (·.tableVersion == version)
        else ofVersion id version headers) := by
  obtain ⟨table, known, rfl, own, present, same⟩ := exists_of_version? inForce
  by_cases contend : Contend first second
  · have sections := (TrackerHistory.sections_of_contend contend two).2 table known
    rw [if_pos contend, isTableComplete_of_known known, sections, whole_reverse]
  · have mine := two own present
    rw [same] at mine
    have leads : Leads id table.version headers := by
      intro header member different
      rcases isNewerVersion_or different with ahead | behind
      · -- a newer version that has come would be in force
        have other := version?_of_newer contend two mine ahead ⟨header, member, rfl⟩
        exact absurd (Option.some.inj (other.symm.trans inForce)) different
      · exact leads_of_newer contend two (two header member) mine behind header member different
    have sent : own ∈ ofVersion id table.version headers := List.mem_filter.mpr ⟨present, by simpa using same⟩
    rw [if_neg contend]
    exact (inForce_of_leads leads (List.ne_nil_of_mem sent)).2

theorem track_late_iff
    (two : ∀ header ∈ ofTable late.sectionId headers, header.tableVersion = first ∨ header.tableVersion = second)
    (applies : late.applies = true) (mine : late.tableVersion = first ∨ late.tableVersion = second)
    (newer : isNewerVersion latter late.tableVersion = true)
    (came : ∃ header ∈ ofTable late.sectionId headers, header.tableVersion = latter) :
    (actAll (headers.map .track)).track late = (actAll (headers.map .track), .outdated) ↔ ¬Contend first second := by
  have reflects := reflects_actAll (headers.map .track)
  constructor
  · intro dropped contend
    have counts := TrackerHistory.accepts_of_contend contend two applies mine
    have answer : ((actAll (headers.map .track)).track late).2 = .outdated := congrArg Prod.snd dropped
    have refused : (TrackerHistory.actAll (headers.map .track)).accepts late = false :=
      reflects.refused_of_answer (by simp [answer])
    rw [counts] at refused
    cases refused
  · intro settled
    have inForce := version?_of_newer settled two mine newer came
    have different : late.tableVersion ≠ latter := by
      intro same
      rw [same, isNewerVersion_self] at newer
      cases newer
    have older : isNewerVersion late.tableVersion latter = false := by
      apply Bool.eq_false_of_not_eq_true
      intro back
      obtain ⟨header, member, came⟩ := came
      have theirs := two header member
      rw [came] at theirs
      exact settled (Contend.of_two ⟨back, newer⟩ mine theirs)
    exact reflects.track_of_older applies inForce different older

/-- Of the sections of a table in two versions, at most one replaces the version in force, unless the versions contend
and take turns. A late section of a replaced version is dropped and changes nothing exactly if they do not contend.
Then the version that replaced the other is in force, and its table is complete when its sections leave out no
announced number, whatever came in between; of versions that contend only the last sections without a break count. -/
theorem replaced_once
    (two : ∀ header ∈ ofTable id headers, header.tableVersion = first ∨ header.tableVersion = second) :
    let tracker := actAll (headers.map .track)
    let replaced := empty.replacements id headers
    (replaced.length ≤ 1 ↔
        ¬Contend first second ∨ (changes ((ofTable id headers).map (·.tableVersion))).length ≤ 1) ∧
      (∀ late latter, late.applies = true → late.sectionId = id → (late.tableVersion, latter) ∈ replaced →
        (tracker.track late = (tracker, .outdated) ↔ ¬Contend first second)) ∧
      (¬Contend first second → ∀ former latter, (former, latter) ∈ replaced →
        tracker.version? id = some latter) ∧
      ∀ version, tracker.version? id = some version → (tracker.isTableComplete id = true ↔
        Whole (if Contend first second then (ofTable id headers).rtakeWhile (·.tableVersion == version)
          else ofVersion id version headers)) := by
  intro tracker replaced
  have turned : replaced = turns none ((ofTable id headers).map (·.tableVersion)) := replacements_empty id headers
  have versions : ∀ version ∈ (ofTable id headers).map (·.tableVersion), version = first ∨ version = second :=
    List.forall_mem_map.mpr two
  have replacing (former latter : Nat) (there : (former, latter) ∈ replaced) :
      isNewerVersion latter former = true ∧ (former = first ∨ former = second) ∧
        ∃ header ∈ ofTable id headers, header.tableVersion = latter := by
    rw [turned] at there
    obtain ⟨newer, came, before⟩ := newer_of_mem_turns there
    exact ⟨newer, versions former (before.resolve_left nofun), List.mem_map.mp came⟩
  have inForce (settled : ¬Contend first second) (former latter : Nat) (there : (former, latter) ∈ replaced) :
      tracker.version? id = some latter := by
    obtain ⟨newer, known, came⟩ := replacing former latter there
    exact version?_of_newer settled two known newer came
  refine ⟨?_, ?_, inForce, fun version => isTableComplete_of_two two⟩
  · rw [turned]
    by_cases contend : Contend first second
    · rw [turns_of_contend contend versions]
      simp [contend]
    · exact iff_of_true (length_turns_le_one contend versions) (.inl contend)
  · rintro late latter applies rfl there
    obtain ⟨newer, mine, came⟩ := replacing _ _ there
    exact track_late_iff two applies mine newer came

end TableTracker

/-! ## Late sections of two tables -/

namespace LateSections

def header (version number lastNumber : UInt8) : SectionHeader :=
  { tableId := 0x42, length := 13, sectionId := 7, version, isCurrent := true, number, lastNumber }

def interleaved : List SectionHeader := [header 3 0 1, header 4 0 1, header 3 1 1, header 4 1 1, header 3 0 1]

/-- The version counter begins again at 0, and a section of version 31 is late. -/
def restarted : List SectionHeader := [header 31 0 0, header 0 0 0, header 31 0 0]

theorem replaced_once_by_next :
    (∀ header ∈ ofTable 7 interleaved, header.tableVersion = 3 ∨ header.tableVersion = 4) ∧
      (TableTracker.empty.replacements 7 interleaved).length ≤ 1 ∧
      (TableTracker.actAll (interleaved.map .track)).version? 7 = some 4 ∧
      (TableTracker.actAll (interleaved.map .track)).track (header 3 1 1) =
        (TableTracker.actAll (interleaved.map .track), .outdated) ∧
      (TableTracker.actAll (interleaved.map .track)).isTableComplete 7 = true := by
  have two : ∀ header ∈ ofTable 7 interleaved, header.tableVersion = 3 ∨ header.tableVersion = 4 := by decide
  obtain ⟨once, dropped, inForce, whole⟩ := TableTracker.replaced_once two
  have settled : ¬Contend 3 4 := by decide
  have replaced : (3, 4) ∈ TableTracker.empty.replacements 7 interleaved := by decide
  have newest := inForce settled 3 4 replaced
  refine ⟨two, once.mpr (.inl settled), newest, (dropped (header 3 1 1) 4 rfl rfl replaced).mpr settled, ?_⟩
  rw [whole 4 newest, if_neg settled]
  unfold Whole
  decide

theorem restarted_replaced_again :
    (∀ header ∈ ofTable 7 restarted, header.tableVersion = 31 ∨ header.tableVersion = 0) ∧
      TableTracker.empty.replacements 7 restarted = [(31, 0), (0, 31)] ∧
      ((TableTracker.actAll ((restarted.take 2).map .track)).track (header 31 0 0)).2 = .completing ∧
      (TableTracker.actAll (restarted.map .track)).version? 7 = some 31 := by
  decide

end LateSections

end DvbScan
