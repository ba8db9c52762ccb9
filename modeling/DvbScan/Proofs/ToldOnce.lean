import DvbScan.Proofs.HeldSections
import DvbScan.Proofs.NetworkLayout
import DvbScan.Proofs.ServiceReader

/-!
# What a section is told for

A reader takes a section in three steps: it reads it, tracks it, and tells what is new. What a step has done stays
done if a later one fails. But only reading can fail, and it comes first: a section that cannot be read leaves no
trace, and does not take its number from one that can. So over any sections and resets, a section of a network
table is told exactly if it can be read, the tracker accepts it, and no section of its table and number has been
accepted since its version was adopted.
-/

namespace DvbScan

/-! ## One step after the other -/

structure Telling (ρ : Type) where
  reader : ρ
  told : List Finding

/-- Steps that take a section. An error ends them, and what they have done before stays done. -/
abbrev Taking (ρ : Type) := ExceptT SiError (StateM (Telling ρ))

namespace Taking

variable {ρ α : Type}

def attempt (result : Except SiError α) : Taking ρ α := ExceptT.mk (pure result)

def follow (track : ρ → ρ × Arrival) : Taking ρ Arrival :=
  modifyGet fun telling => ((track telling.reader).2, { telling with reader := (track telling.reader).1 })

def tell (finding : Finding) : Taking ρ PUnit :=
  modify fun telling => { telling with told := telling.told ++ [finding] }

/-- Reads a section, then tracks it, and then tells what it holds if it is new. -/
def inOrder (read : ρ → Except SiError α) (track : α → ρ → ρ × Arrival) (found : α → ρ → List Finding) :
    Taking ρ Arrival := do
  let parsed ← attempt (read (← get).reader)
  let arrival ← follow (track parsed)
  if arrival.isFresh then
    (found parsed (← get).reader).forM tell
  return arrival

variable {β : Type} {telling after : Telling ρ} {error : SiError}

def runOn (taking : Taking ρ α) (telling : Telling ρ) : Except SiError α × Telling ρ :=
  taking.run.run telling

theorem runOn_bind_of_ok {taking : Taking ρ α} {value : α} (ran : taking.runOn telling = (.ok value, after))
    (next : α → Taking ρ β) : (taking >>= next).runOn telling = (next value).runOn after := by
  change (ExceptT.bindCont next (taking.runOn telling).1).run (taking.runOn telling).2 = _
  rw [ran]
  rfl

theorem runOn_bind_of_error {taking : Taking ρ α} (ran : taking.runOn telling = (.error error, after))
    (next : α → Taking ρ β) : (taking >>= next).runOn telling = (.error error, after) := by
  change (ExceptT.bindCont next (taking.runOn telling).1).run (taking.runOn telling).2 = _
  rw [ran]
  rfl

theorem runOn_get : (get : Taking ρ (Telling ρ)).runOn telling = (.ok telling, telling) := rfl

theorem runOn_attempt (result : Except SiError α) : (attempt result).runOn telling = (result, telling) := rfl

theorem runOn_follow (track : ρ → ρ × Arrival) : (follow track).runOn telling =
    (.ok (track telling.reader).2, { telling with reader := (track telling.reader).1 }) := rfl

theorem runOn_tell_all (findings : List Finding) : (findings.forM tell : Taking ρ PUnit).runOn telling =
    (.ok ⟨⟩, { telling with told := telling.told ++ findings }) := by
  induction findings generalizing telling with
  | nil =>
    rw [List.append_nil]
    rfl
  | cons finding rest ih =>
    change (rest.forM tell : Taking ρ PUnit).runOn { telling with told := telling.told ++ [finding] } = _
    rw [ih, List.append_assoc]
    rfl

variable {read : ρ → Except SiError α} {track : α → ρ → ρ × Arrival} {found : α → ρ → List Finding} {parsed : α}

theorem inOrder_of_read (readable : read telling.reader = .ok parsed) :
    (inOrder read track found).runOn telling =
      let tracked := track parsed telling.reader
      (.ok tracked.2, ⟨tracked.1, telling.told ++ if tracked.2.isFresh then found parsed tracked.1 else []⟩) := by
  unfold inOrder
  rw [runOn_bind_of_ok runOn_get, readable, runOn_bind_of_ok (runOn_attempt (.ok parsed)),
    runOn_bind_of_ok (runOn_follow (track parsed))]
  cases fresh : (track parsed telling.reader).2.isFresh with
  | false =>
    simp only [fresh, Bool.false_eq_true, if_false, List.append_nil]
    rfl
  | true =>
    simp only [fresh, if_true]
    rw [runOn_bind_of_ok runOn_get, runOn_bind_of_ok (runOn_tell_all _)]
    rfl

/-- A section that cannot be read leaves no trace. -/
theorem inOrder_of_unread (unreadable : read telling.reader = .error error) :
    (inOrder read track found).runOn telling = (.error error, telling) := by
  unfold inOrder
  rw [runOn_bind_of_ok runOn_get, unreadable, runOn_bind_of_error (runOn_attempt (.error error))]

end Taking

/-! ## Which numbers have arrived -/

open SectionHeader

namespace TableTracker

/-- The section applies now, and its version is the one in force or newer, if there is one. -/
def Accepts (tracker : TableTracker) (header : SectionHeader) : Prop :=
  header.applies = true ∧ ∀ version, tracker.version? header.sectionId = some version →
    header.tableVersion = version ∨ isNewerVersion header.tableVersion version = true

theorem Reflects.accepts_iff {tracker : TableTracker} {history : TrackerHistory} {header : SectionHeader}
    (reflects : tracker.Reflects history) : tracker.Accepts header ↔ history.accepts header = true := by
  unfold Accepts
  rw [TrackerHistory.accepts_iff, reflects.version?_eq]
  simp [Option.map_eq_some_iff]

/-- A section of the same table and number was accepted, and the version of the header has been in force ever
since. -/
def ArrivedBefore (acts : List TrackerAct) (header : SectionHeader) : Prop :=
  ∃ before earlier after, acts = before ++ .track earlier :: after ∧ (actAll before).Accepts earlier ∧
    earlier.sectionId = header.sectionId ∧ earlier.number = header.number ∧
    ∀ since, since <+: after →
      (actAll (before ++ .track earlier :: since)).version? header.sectionId = some header.tableVersion

variable {acts : List TrackerAct} {act : TrackerAct} {header : SectionHeader}

theorem not_arrivedBefore_nil : ¬ArrivedBefore [] header := by
  rintro ⟨before, earlier, after, shape, -⟩
  simp at shape

theorem arrivedBefore_concat : ArrivedBefore (acts ++ [act]) header ↔
    (actAll (acts ++ [act])).version? header.sectionId = some header.tableVersion ∧
      (ArrivedBefore acts header ∨ ∃ earlier, act = .track earlier ∧ (actAll acts).Accepts earlier ∧
        earlier.sectionId = header.sectionId ∧ earlier.number = header.number) := by
  constructor
  · rintro ⟨before, earlier, after, shape, accepted, own, same, kept⟩
    refine ⟨shape ▸ kept after List.prefix_rfl, ?_⟩
    rcases List.eq_nil_or_concat' after with rfl | ⟨between, last, rfl⟩
    · obtain ⟨rfl, ⟨⟩⟩ := List.append_inj' shape rfl
      exact .inr ⟨earlier, rfl, accepted, own, same⟩
    · have split : acts ++ [act] = (before ++ .track earlier :: between) ++ [last] := by
        rw [shape, List.append_assoc]
        rfl
      obtain ⟨rfl, -⟩ := List.append_inj' split rfl
      refine .inl ⟨before, earlier, between, rfl, accepted, own, same, fun since within => ?_⟩
      exact kept since (within.trans (List.prefix_append between [last]))
  · rintro ⟨now, ⟨before, earlier, after, rfl, accepted, own, same, kept⟩ | ⟨earlier, rfl, accepted, own, same⟩⟩
    · refine ⟨before, earlier, after ++ [act], by simp, accepted, own, same, fun since within => ?_⟩
      rcases List.prefix_concat_iff.mp within with rfl | shorter
      · simpa using now
      · exact kept since shorter
    · refine ⟨acts, earlier, [], rfl, accepted, own, same, fun since within => ?_⟩
      rw [List.prefix_nil.mp within]
      exact now

end TableTracker

namespace TrackerHistory

variable {history : TrackerHistory} {header other : SectionHeader} {acts : List TrackerAct}

theorem heard_record_iff (counts : history.accepts other = true) (own : other.sectionId = header.sectionId) :
    (history.record other).Heard header ↔
      other.tableVersion = header.tableVersion ∧ (other.number = header.number ∨ history.Heard header) := by
  unfold Heard
  rw [← own, record_apply_self counts]
  simp only [Option.some.injEq, exists_eq_left', version_tableWith]
  refine and_congr_right fun same => ?_
  unfold tableWith
  cases history other.sectionId with
  | none => simp [TableHistory.numbers_start, UInt8.toNat_inj, eq_comm]
  | some table =>
    by_cases kept : table.version = other.tableVersion
    · simp [kept, same, TableHistory.numbers_add, UInt8.toNat_inj, eq_comm]
    · have replaced : table.version ≠ header.tableVersion := fun back => kept (back.trans same.symm)
      simp [kept, replaced, TableHistory.numbers_start, UInt8.toNat_inj, eq_comm]

theorem heard_iff_arrivedBefore : (actAll acts).Heard header ↔ TableTracker.ArrivedBefore acts header := by
  induction acts using List.reverseRecOn with
  | nil =>
    refine iff_of_false ?_ TableTracker.not_arrivedBefore_nil
    rintro ⟨table, known, -⟩
    cases known
  | append_singleton acts last ih =>
    have now := (TableTracker.reflects_actAll (acts ++ [last])).version?_eq header.sectionId
    have before := TableTracker.reflects_actAll acts
    have recorded : actAll (acts ++ [last]) = (actAll acts).act last := by simp [actAll]
    rw [TableTracker.arrivedBefore_concat, now, ← ih, recorded]
    cases last with
    | reset => simp [act, empty, Heard]
    | track other =>
      simp only [act, TrackerAct.track.injEq, exists_eq_left', before.accepts_iff]
      by_cases counts : (actAll acts).accepts other = true ∧ other.sectionId = header.sectionId
      · obtain ⟨counts, own⟩ := counts
        rw [heard_record_iff counts own, ← own, record_apply_self counts, Option.map_some, version_tableWith]
        simp [counts, or_comm]
      · have kept : (actAll acts).record other header.sectionId = actAll acts header.sectionId := by
          by_cases own : header.sectionId = other.sectionId
          · rw [record_of_refused (Bool.eq_false_of_not_eq_true fun taken => counts ⟨taken, own.symm⟩)]
          · exact record_apply_of_ne other own
        have passed : ¬((actAll acts).accepts other = true ∧ other.sectionId = header.sectionId ∧
            other.number = header.number) := fun given => counts ⟨given.1, given.2.1⟩
        simp only [Heard, kept, passed, or_false]
        constructor
        · rintro ⟨table, known, version, arrived⟩
          exact ⟨by rw [known, Option.map_some, version], table, known, version, arrived⟩
        · exact And.right

end TrackerHistory

/-! ## Readers -/

def Telling.after {ρ : Type} (telling : Telling ρ) :
    Except SiError (ρ × Arrival × List Finding) → Except SiError Arrival × Telling ρ
  | .ok (next, arrival, found) => (.ok arrival, ⟨next, telling.told ++ found⟩)
  | .error error => (.error error, telling)

namespace ServiceTableReader

def read (reader : ServiceTableReader) (whole : Section) : Except SiError (Bool × ServiceSection) :=
  match isActual? whole.header.tableId with
  | none => .error (.unexpectedTable whole.header.tableId)
  | some isActual => (ServiceSection.parse whole reader.table).map (isActual, ·)

def take (whole : Section) : Taking ServiceTableReader Arrival :=
  .inOrder (·.read whole)
    (fun parsed reader =>
      let tracked := (reader.trackerOf parsed.1).track whole.header
      (reader.withTracker parsed.1 tracked.1, tracked.2))
    (fun parsed _ => parsed.2.findings parsed.1)

theorem runOn_take (whole : Section) (telling : Telling ServiceTableReader) :
    (take whole).runOn telling = telling.after (telling.reader.process whole) := by
  cases known : isActual? whole.header.tableId with
  | none =>
    have unread : telling.reader.read whole = .error (.unexpectedTable whole.header.tableId) := by
      simp [read, known]
    rw [take, Taking.inOrder_of_unread unread, process_of_unexpected known]
    rfl
  | some isActual =>
    cases outcome : ServiceSection.parse whole telling.reader.table with
    | error error =>
      have unread : telling.reader.read whole = .error error := by simp [read, known, outcome, Except.map]
      rw [take, Taking.inOrder_of_unread unread, process_of_malformed known outcome]
      rfl
    | ok parsed =>
      have readable : telling.reader.read whole = .ok (isActual, parsed) := by
        simp [read, known, outcome, Except.map]
      rw [take, Taking.inOrder_of_read readable, process_of_parsed known outcome]
      rfl

end ServiceTableReader

inductive ReaderAct where
  | take (whole : Section)
  | reset

namespace NetworkTableReader

theorem process_of_malformed {reader : NetworkTableReader} {whole : Section} {error : SiError}
    (fault : NetworkSection.parse whole reader.table = .error error) : reader.process whole = .error error := by
  unfold process
  rw [fault]
  rfl

def take (whole : Section) : Taking NetworkTableReader Arrival :=
  .inOrder (fun reader => NetworkSection.parse whole reader.table)
    (fun _ reader =>
      let tracked := reader.tracker.track whole.header
      ({ reader with tracker := tracked.1 }, tracked.2))
    (fun parsed reader => parsed.findings reader.kind)

theorem runOn_take (whole : Section) (telling : Telling NetworkTableReader) :
    (take whole).runOn telling = telling.after (telling.reader.process whole) := by
  cases outcome : NetworkSection.parse whole telling.reader.table with
  | error error =>
    rw [take, Taking.inOrder_of_unread outcome, process_of_malformed outcome]
    rfl
  | ok parsed =>
    rw [take, Taking.inOrder_of_read outcome, process_of_parsed outcome]
    rfl

def act (telling : Telling NetworkTableReader) : ReaderAct → Telling NetworkTableReader
  | .take whole => ((take whole).runOn telling).2
  | .reset => { telling with reader := telling.reader.reset }

def actAll (kind : NetworkKind) (table : DescriptorTable) (acts : List ReaderAct) : Telling NetworkTableReader :=
  acts.foldl act ⟨new kind table, []⟩

end NetworkTableReader

/-- What the tracker hears of it: nothing of a section that cannot be read. -/
def ReaderAct.heard? (table : DescriptorTable) : ReaderAct → Option TrackerAct
  | .take whole =>
    match NetworkSection.parse whole table with
    | .ok _ => some (.track whole.header)
    | .error _ => none
  | .reset => some .reset

theorem ReaderAct.heard?_of_parsed {whole : Section} {table : DescriptorTable} {parsed : NetworkSection}
    (outcome : NetworkSection.parse whole table = .ok parsed) :
    (take whole).heard? table = some (.track whole.header) := by
  simp [heard?, outcome]

theorem ReaderAct.heard?_of_malformed {whole : Section} {table : DescriptorTable} {error : SiError}
    (outcome : NetworkSection.parse whole table = .error error) : (take whole).heard? table = none := by
  simp [heard?, outcome]

namespace NetworkTableReader

variable {kind : NetworkKind} {table : DescriptorTable} {tracker : TableTracker} {told : List Finding}

theorem reader_act (act : ReaderAct) :
    (NetworkTableReader.act ⟨⟨kind, table, tracker⟩, told⟩ act).reader =
      ⟨kind, table, (act.heard? table).elim tracker tracker.act⟩ := by
  cases act with
  | reset => rfl
  | take whole =>
    rw [NetworkTableReader.act, runOn_take]
    cases outcome : NetworkSection.parse whole table with
    | error error =>
      rw [process_of_malformed outcome, ReaderAct.heard?_of_malformed outcome]
      rfl
    | ok parsed =>
      rw [process_of_parsed outcome, ReaderAct.heard?_of_parsed outcome]
      rfl

theorem actAll_concat (kind : NetworkKind) (table : DescriptorTable) (acts : List ReaderAct) (last : ReaderAct) :
    actAll kind table (acts ++ [last]) = act (actAll kind table acts) last := by
  simp [actAll]

theorem reader_actAll (kind : NetworkKind) (table : DescriptorTable) (acts : List ReaderAct) :
    (actAll kind table acts).reader = ⟨kind, table, .actAll (acts.filterMap (·.heard? table))⟩ := by
  induction acts using List.reverseRecOn with
  | nil => rfl
  | append_singleton acts last ih =>
    rw [actAll_concat, List.filterMap_append]
    cases before : actAll kind table acts with
    | mk reader told =>
      rw [before] at ih
      cases ih
      rw [reader_act]
      cases heard : last.heard? table <;> simp [heard, TableTracker.actAll]

/-- Whatever was done before, a section is told exactly if it can be read, the tracker accepts it, and its number has
not arrived since its version was adopted; then all that it holds is told. A section that cannot be read changes
neither the reader nor what was told, step by step, so that it counts for nothing later on. Neither does a section
that a reader of service tables cannot read or does not expect. -/
theorem tells_exactly_once (kind : NetworkKind) (table : DescriptorTable) (acts : List ReaderAct) (whole : Section) :
    let telling := actAll kind table acts
    let heard := acts.filterMap (·.heard? table)
    let isNews := telling.reader.tracker.Accepts whole.header ∧ ¬TableTracker.ArrivedBefore heard whole.header
    telling.reader = ⟨kind, table, .actAll heard⟩ ∧
      (∀ parsed, NetworkSection.parse whole table = .ok parsed → ∃ next arrival found,
        telling.reader.process whole = .ok (next, arrival, found) ∧
          (take whole).runOn telling = (.ok arrival, ⟨next, telling.told ++ found⟩) ∧
          (isNews → found = parsed.findings kind) ∧ (¬isNews → found = [])) ∧
      (∀ error, NetworkSection.parse whole table = .error error →
        telling.reader.process whole = .error error ∧ (take whole).runOn telling = (.error error, telling) ∧
          actAll kind table (acts ++ [.take whole]) = telling) ∧
      ∀ services : Telling ServiceTableReader,
        (ServiceTableReader.isActual? whole.header.tableId = none →
          services.reader.process whole = .error (.unexpectedTable whole.header.tableId)) ∧
        ∀ error, services.reader.process whole = .error error →
          (ServiceTableReader.take whole).runOn services = (.error error, services) := by
  intro telling heard isNews
  have own : telling.reader = ⟨kind, table, .actAll heard⟩ := reader_actAll kind table acts
  have same_table : telling.reader.table = table := by rw [own]
  have same_kind : telling.reader.kind = kind := by rw [own]
  refine ⟨own, fun parsed outcome => ?_, fun error outcome => ?_, fun services => ⟨?_, fun error fault => ?_⟩⟩
  · rw [← same_table] at outcome
    have news : (telling.reader.tracker.track whole.header).2.isFresh = true ↔ isNews := by
      have reflects := TableTracker.reflects_actAll heard
      simp only [isNews, own]
      rw [reflects.isFresh_iff, reflects.accepts_iff, TrackerHistory.heard_iff_arrivedBefore]
    have processed := process_of_parsed outcome
    refine ⟨_, _, _, processed, ?_, fun given => ?_, fun given => ?_⟩
    · rw [runOn_take, processed]
      rfl
    · rw [if_pos (news.mpr given), same_kind]
    · exact if_neg fun fresh => given (news.mp fresh)
  · rw [← same_table] at outcome
    have processed := process_of_malformed outcome
    have unchanged : (take whole).runOn telling = (.error error, telling) := by
      rw [runOn_take, processed]
      rfl
    refine ⟨processed, unchanged, ?_⟩
    rw [actAll_concat]
    exact congrArg Prod.snd unchanged
  · exact ServiceTableReader.process_of_unexpected
  · rw [ServiceTableReader.runOn_take, fault]
    rfl

end NetworkTableReader

/-! ## A malformed section, and then a copy -/

namespace MalformedSection

open scoped HanDecoders

def whole (loopLength : UInt8) : Section where
  header :=
    { tableId := 0x40, length := 24, sectionId := 0x1001, version := 5, isCurrent := true, number := 0, lastNumber := 0 }
  bytes := [0x40, 0xF0, 0x18, 0x10, 0x01, 0xCB, 0x00, 0x00, 0xF0, 0x05, 0x40, 0x03, 0x42, 0x42, 0x43, 0xF0, 0x06,
    0x10, 0x04, 0x23, 0x3A, 0xF0, loopLength, 0x00, 0x00, 0x00, 0x00]

def parsed : NetworkSection where
  id := 0x1001
  descriptors := [.networkName "BBC"]
  transports := [{ tsid := 0x1004, onid := 0x233A, descriptors := [] }]

theorem unreadable : NetworkSection.parse (whole 16) .standard = .error (.truncated 23 16 23) := by
  decide +kernel

theorem readable : NetworkSection.parse (whole 0) .standard = .ok parsed := by
  decide +kernel

theorem accepts_first : TableTracker.empty.Accepts (whole 0).header :=
  ⟨by decide, fun version inForce => by cases inForce⟩

/-- The copy is told after a section that could not be read, and is not told again. -/
theorem tells_copy_once :
    (NetworkSection.parse (whole 16) .standard = .error (.truncated 23 16 23) ∧
        NetworkSection.parse (whole 0) .standard = .ok parsed) ∧
      (NetworkTableReader.actAll .network .standard [.take (whole 16)]).told = [] ∧
      (∃ next arrival,
        (NetworkTableReader.actAll .network .standard [.take (whole 16)]).reader.process (whole 0) =
          .ok (next, arrival, [.networkName .network 0x1001 "BBC"])) ∧
      ∃ next arrival,
        (NetworkTableReader.actAll .network .standard [.take (whole 16), .take (whole 0)]).reader.process (whole 0) =
          .ok (next, arrival, []) := by
  refine ⟨⟨unreadable, readable⟩, ?_, ?_, ?_⟩
  · have unchanged := (NetworkTableReader.tells_exactly_once .network .standard [] (whole 16)).2.2.1 _ unreadable
    exact congrArg Telling.told unchanged.2.2
  · obtain ⟨own, told, -⟩ := NetworkTableReader.tells_exactly_once .network .standard [.take (whole 16)] (whole 0)
    obtain ⟨next, arrival, found, processed, -, new, -⟩ := told parsed readable
    have nothing : [ReaderAct.take (whole 16)].filterMap (·.heard? .standard) = [] := by
      simp [ReaderAct.heard?_of_malformed unreadable]
    rw [own, nothing] at new
    rw [new ⟨accepts_first, TableTracker.not_arrivedBefore_nil⟩] at processed
    exact ⟨next, arrival, processed⟩
  · obtain ⟨-, told, -⟩ :=
      NetworkTableReader.tells_exactly_once .network .standard [.take (whole 16), .take (whole 0)] (whole 0)
    obtain ⟨next, arrival, found, processed, -, -, old⟩ := told parsed readable
    have once : [ReaderAct.take (whole 16), .take (whole 0)].filterMap (·.heard? .standard) =
        [.track (whole 0).header] := by
      simp [ReaderAct.heard?_of_malformed unreadable, ReaderAct.heard?_of_parsed readable]
    have arrived : TableTracker.ArrivedBefore [.track (whole 0).header] (whole 0).header := by
      refine ⟨[], (whole 0).header, [], rfl, accepts_first, rfl, rfl, fun since within => ?_⟩
      rw [List.prefix_nil.mp within]
      rfl
    rw [once] at old
    rw [old fun news => news.2 arrived] at processed
    exact ⟨next, arrival, processed⟩

end MalformedSection

end DvbScan
