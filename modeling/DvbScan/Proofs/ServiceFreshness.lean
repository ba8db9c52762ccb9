import DvbScan.Proofs.HeldSections
import DvbScan.Proofs.Result
import DvbScan.Proofs.ServiceReader

/-!
# Which service sections are news

A transport is named by its network of origin and by a number, but the sections of service tables are
tracked by the number alone. What a section holds is therefore told exactly if its section number has not
arrived in that kind of tables for that transport number, of whatever network, since its version was adopted.
Two networks that use one transport number take the news from each other, and nothing else does.
-/

namespace DvbScan

theorem ServiceSection.tsid_of_parse {whole : Section} {table : DescriptorTable}
    {parsed : ServiceSection} (read : parse whole table = .ok parsed) :
    parsed.tsid = whole.header.sectionId := by
  unfold parse at read
  obtain ⟨onid, -, read⟩ := bind_eq_ok.mp read
  obtain ⟨services, -, read⟩ := bind_eq_ok.mp read
  cases read
  rfl

/-- A section of a service table that can be read and applies now. -/
structure ServiceTransmission (table : DescriptorTable) where
  whole : Section
  isActual : Bool
  content : ServiceSection
  known : ServiceTableReader.isActual? whole.header.tableId = some isActual
  read : ServiceSection.parse whole table = .ok content
  current : whole.header.isCurrent = true
  within : whole.header.number ≤ whole.header.lastNumber

namespace ServiceTransmission

variable {table : DescriptorTable}

def SameTransport (first second : ServiceTransmission table) : Prop :=
  first.content.onid = second.content.onid ∧ first.content.tsid = second.content.tsid

def OneVersion (run : List (ServiceTransmission table)) : Prop :=
  ∀ first ∈ run, ∀ second ∈ run, first.SameTransport second →
    first.whole.header.tableVersion = second.whole.header.tableVersion

/-- No section of the same table, the same transport and the same number is among others. -/
def IsFirst (sent : ServiceTransmission table) (past : List (ServiceTransmission table)) : Prop :=
  ∀ earlier ∈ past, earlier.isActual = sent.isActual → earlier.SameTransport sent →
    earlier.whole.header.number ≠ sent.whole.header.number

def headersOf (isActual : Bool) (run : List (ServiceTransmission table)) : List SectionHeader :=
  (run.filter (·.isActual == isActual)).map (·.whole.header)

def historyOf (isActual : Bool) (run : List (ServiceTransmission table)) : TrackerHistory :=
  .actAll ((headersOf isActual run).map .track)

end ServiceTransmission

open ServiceTransmission

namespace ServiceTableReader

variable {table : DescriptorTable}

/-- The reader after a section; a section that is refused changes nothing. -/
def hear (reader : ServiceTableReader) (whole : Section) : ServiceTableReader :=
  match reader.process whole with
  | .ok (next, _, _) => next
  | .error _ => reader

def hearAll (reader : ServiceTableReader) (run : List (ServiceTransmission table)) :
    ServiceTableReader :=
  run.foldl (fun reader sent => reader.hear sent.whole) reader

/-- The reader takes the section and tells all that it holds. -/
def Tells (reader : ServiceTableReader) (sent : ServiceTransmission table) : Prop :=
  ∃ next arrival, reader.process sent.whole = .ok (next, arrival, sent.content.findings sent.isActual)

theorem hear_eq {reader : ServiceTableReader} (own : reader.table = table)
    (sent : ServiceTransmission table) :
    reader.hear sent.whole = reader.withTracker sent.isActual
      ((reader.trackerOf sent.isActual).track sent.whole.header).1 := by
  unfold hear
  rw [process_of_parsed sent.known (by rw [own]; exact sent.read)]

theorem hearAll_spec (table : DescriptorTable) (expectActual expectOther : Bool)
    (run : List (ServiceTransmission table)) :
    let reader := (new table expectActual expectOther).hearAll run
    reader.table = table ∧ ∀ isActual,
      reader.trackerOf isActual = TableTracker.actAll ((headersOf isActual run).map .track) := by
  induction run using List.reverseRecOn with
  | nil => exact ⟨rfl, fun isActual => by cases isActual <;> rfl⟩
  | append_singleton run sent ih =>
    obtain ⟨own, trackers⟩ := ih
    unfold hearAll at own trackers ⊢
    rw [List.foldl_append]
    simp only [List.foldl_cons, List.foldl_nil]
    rw [hear_eq own]
    refine ⟨by rw [table_withTracker]; exact own, fun isActual => ?_⟩
    by_cases same : sent.isActual = isActual
    · subst same
      rw [trackerOf_withTracker, trackers]
      unfold headersOf TableTracker.actAll
      rw [List.filter_append, List.filter_cons_of_pos (by simp)]
      simp [TableTracker.act]
    · rw [trackerOf_withTracker_of_ne _ (Ne.symm same), trackers]
      unfold headersOf
      rw [List.filter_append, List.filter_cons_of_neg (by simpa using same)]
      simp

theorem process_hearAll (expectActual expectOther : Bool) (run : List (ServiceTransmission table))
    (sent : ServiceTransmission table) :
    ∃ next arrival,
      ((new table expectActual expectOther).hearAll run).process sent.whole =
          .ok (next, arrival, if arrival.isFresh then sent.content.findings sent.isActual else []) ∧
        (arrival.isFresh = true ↔
          (historyOf sent.isActual run).accepts sent.whole.header = true ∧
            ¬(historyOf sent.isActual run).Heard sent.whole.header) := by
  obtain ⟨own, trackers⟩ := hearAll_spec table expectActual expectOther run
  have reflects := TableTracker.reflects_actAll ((headersOf sent.isActual run).map .track)
  rw [← trackers sent.isActual] at reflects
  exact ⟨_, _, process_of_parsed sent.known (by rw [own]; exact sent.read), reflects.isFresh_iff⟩

/-- A section whose transport number was heard of one network only, in one version, and whose number was not
heard, counts and is new. -/
theorem news_of_first {run : List (ServiceTransmission table)} {sent : ServiceTransmission table}
    (versions : OneVersion (run ++ [sent])) (first : sent.IsFirst run)
    (alone : ∀ earlier ∈ run, earlier.isActual = sent.isActual →
      earlier.content.tsid = sent.content.tsid → earlier.content.onid = sent.content.onid) :
    (historyOf sent.isActual run).accepts sent.whole.header = true ∧
      ¬(historyOf sent.isActual run).Heard sent.whole.header := by
  -- what is held under the transport number is of this transport, as no other network has used it
  have tracked {past : TableHistory}
      (known : historyOf sent.isActual run sent.whole.header.sectionId = some past) :
      past.version = sent.whole.header.tableVersion ∧
        ∀ header ∈ past.sections, header.number ≠ sent.whole.header.number := by
    have of_run : ∀ header ∈ past.sections, header.tableVersion = past.version ∧
        header.tableVersion = sent.whole.header.tableVersion ∧
        header.number ≠ sent.whole.header.number := by
      intro header member
      obtain ⟨listed, -, number, version⟩ :=
        SectionHeader.mem_ofVersion.mp (TrackerHistory.mem_ofVersion_of_mem_sections known member)
      obtain ⟨earlier, kept, rfl⟩ := List.mem_map.mp listed
      obtain ⟨present, kind⟩ := List.mem_filter.mp kept
      have same_kind : earlier.isActual = sent.isActual := by simpa using kind
      have tsid : earlier.content.tsid = sent.content.tsid := by
        rw [ServiceSection.tsid_of_parse earlier.read, ServiceSection.tsid_of_parse sent.read]
        exact number
      have transport : earlier.SameTransport sent := ⟨alone earlier present same_kind tsid, tsid⟩
      refine ⟨version, ?_, first earlier present same_kind transport⟩
      exact versions earlier (List.mem_append_left _ present) sent
        (List.mem_append_right _ List.mem_cons_self) transport
    have latest := of_run past.latest List.mem_cons_self
    exact ⟨latest.1.symm.trans latest.2.1, fun header member => (of_run header member).2.2⟩
  constructor
  · unfold TrackerHistory.accepts
    rw [sent.current, decide_eq_true sent.within]
    cases known : historyOf sent.isActual run sent.whole.header.sectionId with
    | none => rfl
    | some past => simp [(tracked known).1]
  · rintro ⟨past, known, -, heard⟩
    unfold TableHistory.numbers at heard
    obtain ⟨header, member, number⟩ := List.mem_map.mp (List.mem_toFinset.mp heard)
    exact (tracked known).2 header member (UInt8.toNat_inj.mp number)

/-- A section of a service table is told exactly if it counts and was not heard among the sections of its
kind and transport number, of whatever network. So if every transport keeps to one version, the first section
of each table, transport and number is told whatever came before it of transports with other numbers, so long
as no other network has used its transport number in that table. -/
theorem tells_of_first (table : DescriptorTable) (expectActual expectOther : Bool)
    (run : List (ServiceTransmission table)) (sent : ServiceTransmission table) :
    let reader := (new table expectActual expectOther).hearAll run
    let history := historyOf sent.isActual run
    (∃ next arrival,
      reader.process sent.whole =
          .ok (next, arrival, if arrival.isFresh then sent.content.findings sent.isActual else []) ∧
        (arrival.isFresh = true ↔
          history.accepts sent.whole.header = true ∧ ¬history.Heard sent.whole.header)) ∧
      (OneVersion (run ++ [sent]) → sent.IsFirst run →
        (∀ earlier ∈ run, earlier.isActual = sent.isActual →
          earlier.content.tsid = sent.content.tsid → earlier.content.onid = sent.content.onid) →
        reader.Tells sent) := by
  have answer := process_hearAll expectActual expectOther run sent
  refine ⟨answer, fun versions first alone => ?_⟩
  obtain ⟨next, arrival, processed, news⟩ := answer
  rw [if_pos (news.mpr (news_of_first versions first alone))] at processed
  exact ⟨next, arrival, processed⟩

end ServiceTableReader

namespace SharedNumber

open scoped HanDecoders

def whole (network transport service : UInt8) : Section where
  header :=
    { tableId := 0x46, length := 17, sectionId := 0x1000 + transport.toUInt16, version := 0
      isCurrent := true, number := 0, lastNumber := 0 }
  bytes := [0x46, 0xF0, 0x11, 0x10, transport, 0xC1, 0x00, 0x00, 0x00, network, 0xFF, 0x00, service,
    0xFC, 0x80, 0x00, 0x00, 0x00, 0x00, 0x00]

def content (network transport service : UInt8) : ServiceSection where
  tsid := 0x1000 + transport.toUInt16
  onid := network.toUInt16
  services := [{ serviceId := service.toUInt16, runningStatus := 4, freeCa := false, descriptors := [] }]

def first : ServiceTransmission .standard where
  whole := whole 1 4 101
  isActual := false
  content := content 1 4 101
  known := rfl
  read := by decide +kernel
  current := rfl
  within := by decide

def second : ServiceTransmission .standard where
  whole := whole 2 4 202
  isActual := false
  content := content 2 4 202
  known := rfl
  read := by decide +kernel
  current := rfl
  within := by decide

def third : ServiceTransmission .standard where
  whole := whole 2 5 202
  isActual := false
  content := content 2 5 202
  known := rfl
  read := by decide +kernel
  current := rfl
  within := by decide

open ServiceTransmission

theorem versions_of_whole {run : List (ServiceTransmission .standard)}
    (made : ∀ sent ∈ run, ∃ network transport service, sent.whole = whole network transport service) :
    OneVersion run := by
  intro sent member other present _
  obtain ⟨_, _, _, shape⟩ := made sent member
  obtain ⟨_, _, _, shape'⟩ := made other present
  rw [shape, shape']
  rfl

/-- The services of the second network are not told, though nothing of its transport came before. -/
theorem second_not_told :
    OneVersion [first, second] ∧ second.IsFirst [first] ∧
      ¬((ServiceTableReader.new .standard false true).hearAll [first]).Tells second := by
  refine ⟨?_, ?_, ?_⟩
  · apply versions_of_whole
    simp only [List.mem_cons, List.not_mem_nil, or_false, forall_eq_or_imp, forall_eq]
    exact ⟨⟨1, 4, 101, rfl⟩, 2, 4, 202, rfl⟩
  · intro earlier member _ transport
    rw [List.mem_singleton.mp member] at transport
    exact absurd transport.1 (by decide)
  · rintro ⟨next, arrival, told⟩
    have silent : (((ServiceTableReader.new .standard false true).hearAll [first]).process
        second.whole).toOption.map (·.2.2) = some [] := by
      decide +kernel
    rw [told] at silent
    change some (second.content.findings second.isActual) = some [] at silent
    exact absurd silent (by decide)

theorem third_told :
    (OneVersion [first, third] ∧ third.IsFirst [first]) ∧
      ((ServiceTableReader.new .standard false true).hearAll [first]).Tells third := by
  have versions : OneVersion ([first] ++ [third]) := by
    apply versions_of_whole
    simp only [List.singleton_append, List.mem_cons, List.not_mem_nil, or_false, forall_eq_or_imp,
      forall_eq]
    exact ⟨⟨1, 4, 101, rfl⟩, 2, 5, 202, rfl⟩
  have news : third.IsFirst [first] := by
    intro earlier member _ transport
    rw [List.mem_singleton.mp member] at transport
    exact absurd transport.1 (by decide)
  have alone : ∀ earlier ∈ [first], earlier.isActual = third.isActual →
      earlier.content.tsid = third.content.tsid → earlier.content.onid = third.content.onid := by
    intro earlier member _ number
    rw [List.mem_singleton.mp member] at number
    exact absurd number (by decide)
  exact ⟨⟨versions, news⟩,
    (ServiceTableReader.tells_of_first .standard false true [first] third).2 versions news alone⟩

end SharedNumber

end DvbScan
