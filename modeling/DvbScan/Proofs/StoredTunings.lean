import DvbScan.Proofs.Commit
import DvbScan.Proofs.ConstructedTunings
import DvbScan.Proofs.Lookup

/-!
# Tunings in the store

A tuning is stored as one row for each property, with its place, and the rows of a transport are replaced as a
whole. So a commit gives every transport with a known tuning the very list that was collected, and leaves the
tunings of all others alone, be they of the same source or of another.
-/

namespace DvbScan

variable {onid tsid : UInt16} {source other : String}

def TuningRow.isOf (onid tsid : UInt16) (row : TuningRow) : Bool := row.onid == onid && row.tsid == tsid

def Store.tuningRowsAt (store : Store) (source : String) (onid tsid : UInt16) : List TuningRow :=
  (store.tunings.ofSource source).filter (TuningRow.isOf onid tsid)

namespace Topology

variable {key : TransportKey} {tuning : Tuning}

theorem isOf_of_mem_tuningRowsOf {row : TuningRow} (member : row ∈ tuningRowsOf key tuning) :
    row.isOf onid tsid = (key == ⟨onid, tsid⟩) := by
  obtain ⟨place, -, rfl⟩ := List.mem_map.mp member
  cases key
  simp [TuningRow.isOf, Bool.beq_eq_decide_eq]

theorem codes_tuningRowsOf (key : TransportKey) (tuning : Tuning) :
    (tuningRowsOf key tuning).map (fun row => (row.key, row.value)) = tuning.toCodes := by
  unfold tuningRowsOf Tuning.toCodes
  conv_rhs => rw [← List.zipIdx_map_fst 0 tuning.entries]
  rw [List.map_map, List.map_map]
  rfl

theorem storeKeys_tuningRowsOf (key : TransportKey) (tuning : Tuning) :
    (tuningRowsOf key tuning).map TuningRow.storeKey =
      tuning.keys.map fun property => (key.onid, key.tsid, Coded.code property) := by
  unfold tuningRowsOf Tuning.keys
  conv_rhs => rw [← List.zipIdx_map_fst 0 tuning.entries]
  rw [List.map_map, List.map_map, List.map_map]
  rfl

/-- The rows stand in the order of their places, which are far from exceeding a word. -/
theorem pairwise_tuningRowsOf (closed : tuning.IsClosed) (key : TransportKey) :
    (tuningRowsOf key tuning).Pairwise fun first second => first.position ≤ second.position := by
  have short : tuning.entries.length < UInt32.size := by
    have bound := closed.length_le
    have few : (Coded.all : List PropertyKey).length = 18 := rfl
    rw [few] at bound
    exact Nat.lt_of_le_of_lt bound (by decide)
  have places : (tuning.entries.zipIdx).Pairwise fun first second => first.2 < second.2 := by
    have increasing := List.pairwise_lt_range' (s := 0) (n := tuning.entries.length) 1
    rw [← List.zipIdx_map_snd, List.pairwise_map] at increasing
    exact increasing
  unfold tuningRowsOf
  rw [List.pairwise_map]
  refine places.imp_of_mem fun {first second} former latter before => ?_
  have inside := List.snd_lt_of_mem_zipIdx former
  have inside' := List.snd_lt_of_mem_zipIdx latter
  rw [UInt32.le_iff_toNat_le]
  simp only
  rw [UInt32.toNat_ofNat_of_lt' (by omega), UInt32.toNat_ofNat_of_lt' (by omega)]
  exact Nat.le_of_lt before

theorem tuningRowsOf_ne_nil (closed : tuning.IsClosed) (key : TransportKey) :
    tuningRowsOf key tuning ≠ [] := by
  obtain ⟨pairs, command, -, rfl⟩ := closed.split
  simp [tuningRowsOf]

def tuningOf? (topology : Topology) (key : TransportKey) : Option Tuning :=
  (topology.transports.get? key).bind (·.tuning)

def tuningRowsOfEntry (entry : TransportKey × Transport) : List TuningRow :=
  match entry.2.tuning with
  | some tuning => tuningRowsOf entry.1 tuning
  | none => []

theorem tuningRows_eq_flatMap (topology : Topology) :
    topology.tuningRows = topology.transports.entries.flatMap tuningRowsOfEntry := rfl

theorem isOf_of_mem_tuningRowsOfEntry {entry : TransportKey × Transport} {row : TuningRow}
    (member : row ∈ tuningRowsOfEntry entry) : row.isOf onid tsid = (entry.1 == ⟨onid, tsid⟩) := by
  unfold tuningRowsOfEntry at member
  split at member
  next => exact isOf_of_mem_tuningRowsOf member
  next => cases member

theorem transport_of_mem_tuningRowsOfEntry {entry : TransportKey × Transport} {row : TuningRow}
    (member : row ∈ tuningRowsOfEntry entry) : entry.1 = ⟨row.onid, row.tsid⟩ := by
  have own : row.isOf row.onid row.tsid = true := by simp [TuningRow.isOf]
  rw [isOf_of_mem_tuningRowsOfEntry member] at own
  exact beq_iff_eq.mp own

theorem filter_tuningRows (topology : Topology) (onid tsid : UInt16) :
    topology.tuningRows.filter (TuningRow.isOf onid tsid) = match topology.tuningOf? ⟨onid, tsid⟩ with
      | some tuning => tuningRowsOf ⟨onid, tsid⟩ tuning
      | none => [] := by
  have others : ∀ entry : TransportKey × Transport, entry.1 ≠ ⟨onid, tsid⟩ →
      (tuningRowsOfEntry entry).filter (TuningRow.isOf onid tsid) = [] := by
    intro entry different
    refine List.filter_eq_nil_iff.mpr fun row member => ?_
    simp [isOf_of_mem_tuningRowsOfEntry member, different]
  rw [tuningRows_eq_flatMap, List.filter_flatMap, OrderedMap.flatMap_entries_of_key others]
  unfold tuningOf?
  cases topology.transports.get? ⟨onid, tsid⟩ with
  | none => rfl
  | some transport =>
    simp only [Option.bind_some]
    have own : (tuningRowsOfEntry (⟨onid, tsid⟩, transport)).filter (TuningRow.isOf onid tsid) =
        tuningRowsOfEntry (⟨onid, tsid⟩, transport) :=
      List.filter_eq_self.mpr fun row member => by simp [isOf_of_mem_tuningRowsOfEntry member]
    exact own

theorem nodup_tuningRows {topology : Topology}
    (closed : ∀ transport ∈ topology.transports.values, ∀ tuning, transport.tuning = some tuning →
      tuning.IsClosed) : (topology.tuningRows.map TuningRow.storeKey).Nodup := by
  rw [tuningRows_eq_flatMap, List.map_flatMap, List.nodup_flatMap]
  constructor
  · rintro ⟨key, transport⟩ member
    unfold tuningRowsOfEntry
    simp only
    split
    next tuning known =>
      obtain ⟨others, shape, distinct⟩ :=
        closed transport (List.mem_map_of_mem (f := Prod.snd) member) tuning known
      rw [storeKeys_tuningRowsOf, shape]
      refine distinct.map fun first second same => ?_
      have codes : Coded.code first = Coded.code second := congrArg (·.2.2) same
      exact code_injective codes
    next => exact .nil
  · refine topology.transports.ordered.imp fun {first second} before key former latter => ?_
    obtain ⟨row, member, rfl⟩ := List.mem_map.mp former
    obtain ⟨row', member', same⟩ := List.mem_map.mp latter
    have owner : first.1 = ⟨row.onid, row.tsid⟩ := transport_of_mem_tuningRowsOfEntry member
    have owner' : second.1 = ⟨row'.onid, row'.tsid⟩ := transport_of_mem_tuningRowsOfEntry member'
    simp only [TuningRow.storeKey, Prod.mk.injEq] at same
    rw [same.1, same.2.1, ← owner] at owner'
    rw [owner'] at before
    exact Nat.lt_irrefl _ before

end Topology

namespace Store

theorem tuning?_eq (store : Store) (source : String) (onid tsid : UInt16) :
    store.tuning? source onid tsid =
      let ordered := (store.tuningRowsAt source onid tsid).mergeSort fun first second =>
        first.position ≤ second.position
      if ordered.isEmpty then none
      else some (Tuning.ofCodes (ordered.map fun row => (row.key, row.value))) := rfl

theorem tuning?_congr {first second : Store}
    (same : first.tuningRowsAt source onid tsid = second.tuningRowsAt source onid tsid) :
    first.tuning? source onid tsid = second.tuning? source onid tsid := by
  rw [tuning?_eq, tuning?_eq, same]

theorem tuning?_of_tuningRowsAt {store : Store} {tuning : Tuning} (closed : tuning.IsClosed)
    (rows : store.tuningRowsAt source onid tsid = Topology.tuningRowsOf ⟨onid, tsid⟩ tuning) :
    store.tuning? source onid tsid = some tuning := by
  have sorted := Topology.pairwise_tuningRowsOf closed ⟨onid, tsid⟩
  have codes := Topology.codes_tuningRowsOf ⟨onid, tsid⟩ tuning
  have some_row := Topology.tuningRowsOf_ne_nil closed ⟨onid, tsid⟩
  rw [tuning?_eq, rows, List.mergeSort_of_pairwise (by simpa using sorted)]
  simp only
  rw [if_neg (by simp [some_row]), codes, closed.ofCodes_toCodes]

/-- The new rows of a transport take the place of all old ones; without new rows the old ones stay. -/
theorem tuningRowsAt_putTunings {rows : List TuningRow} (distinct : (rows.map TuningRow.storeKey).Nodup)
    (store : Store) (source : String) (onid tsid : UInt16) :
    (store.putTunings source rows).tuningRowsAt source onid tsid =
      if rows.any (TuningRow.isOf onid tsid) then rows.filter (TuningRow.isOf onid tsid)
      else store.tuningRowsAt source onid tsid := by
  unfold tuningRowsAt putTunings
  simp only
  rw [StoreTable.ofSource_putAll_self distinct, StoreTable.ofSource_erase_self, List.filter_append,
    List.filter_filter, List.filter_filter]
  by_cases replaced : rows.any (TuningRow.isOf onid tsid)
  · rw [if_pos replaced]
    -- a row of the transport is written, so that all its old rows are taken out
    obtain ⟨row, member, own⟩ := List.any_eq_true.mp replaced
    refine (congrArg (· ++ _) (List.filter_eq_nil_iff.mpr fun old _ kept => ?_)).trans (List.nil_append _)
    simp only [Bool.and_eq_true, Bool.not_eq_true', List.any_eq_false] at kept
    obtain ⟨⟨here, -⟩, cleared⟩ := kept
    refine cleared row member ?_
    simp only [TuningRow.isOf, Bool.and_eq_true, beq_iff_eq] at own here ⊢
    exact ⟨own.1.trans here.1.symm, own.2.trans here.2.symm⟩
  · rw [if_neg replaced]
    have absent : ∀ row ∈ rows, ¬row.isOf onid tsid := by simpa using replaced
    rw [List.filter_eq_nil_iff.mpr absent, List.append_nil]
    refine List.filter_congr fun old _ => ?_
    by_cases here : old.isOf onid tsid
    · have apart : ∀ row ∈ rows, ¬(row.onid = old.onid ∧ row.tsid = old.tsid) := by
        intro row member same
        refine absent row member ?_
        simpa [TuningRow.isOf, same.1, same.2] using here
      simp only [here, Bool.true_and, Bool.and_eq_true, Bool.not_eq_true', List.any_eq_false, beq_iff_eq]
      refine ⟨fun row member same => ?_, apart⟩
      simp only [TuningRow.storeKey, Prod.mk.injEq] at same
      exact apart row member ⟨same.1.symm, same.2.1.symm⟩
    · simp [here]

theorem tuningRowsAt_putTunings_of_ne (different : other ≠ source) (store : Store) (rows : List TuningRow)
    (onid tsid : UInt16) :
    (store.putTunings source rows).tuningRowsAt other onid tsid = store.tuningRowsAt other onid tsid := by
  unfold tuningRowsAt putTunings
  simp only
  rw [StoreTable.ofSource_putAll_of_ne different, StoreTable.ofSource_erase_of_ne different]

end Store

namespace StorageWorker

open Store DvbScan.Topology

theorem tuningRowsAt_commit {worker : StorageWorker} (running : worker.running = true) (source : String)
    (topology : Topology) (other : String) (onid tsid : UInt16) :
    (worker.commit source topology.batches).1.store.tuningRowsAt other onid tsid =
      (worker.store.putTunings source topology.tuningRows).tuningRowsAt other onid tsid := by
  rw [store_commit running, insertAll_batches]
  rfl

theorem tuningRowsAt_commit_self {worker : StorageWorker} (running : worker.running = true)
    (source : String) {topology : Topology}
    (closed : ∀ transport ∈ topology.transports.values, ∀ tuning, transport.tuning = some tuning →
      tuning.IsClosed) (onid tsid : UInt16) :
    (worker.commit source topology.batches).1.store.tuningRowsAt source onid tsid =
      match topology.tuningOf? ⟨onid, tsid⟩ with
      | some tuning => tuningRowsOf ⟨onid, tsid⟩ tuning
      | none => worker.store.tuningRowsAt source onid tsid := by
  have own := filter_tuningRows topology onid tsid
  rw [tuningRowsAt_commit running, tuningRowsAt_putTunings (nodup_tuningRows closed)]
  cases found : topology.tuningOf? ⟨onid, tsid⟩ with
  | none =>
    rw [found] at own
    have unwritten : ¬topology.tuningRows.any (TuningRow.isOf onid tsid) := by
      simpa using List.filter_eq_nil_iff.mp own
    exact if_neg unwritten
  | some tuning =>
    rw [found] at own
    simp only at own ⊢
    obtain ⟨transport, present, known⟩ := Option.bind_eq_some_iff.mp found
    have ended := closed transport (OrderedMap.mem_values_of_get? present) tuning known
    obtain ⟨row, member⟩ := List.exists_mem_of_ne_nil _ (tuningRowsOf_ne_nil ended ⟨onid, tsid⟩)
    rw [← own] at member
    obtain ⟨listed, here⟩ := List.mem_filter.mp member
    rw [if_pos (List.any_eq_true.mpr ⟨row, listed, here⟩), own]

/-- A commit gives every transport with a known tuning the very list that was collected. The tuning of every
other transport of the source, and of every transport of another source, is what it was. -/
theorem tunings_of_commit {worker : StorageWorker} (running : worker.running = true) (source : String)
    {topology : Topology}
    (constructed : ∀ transport ∈ topology.transports.values, ∀ tuning,
      transport.tuning = some tuning → tuning.Constructed ∧ tuning ≠ .empty) :
    let stored := (worker.commit source topology.batches).1.store
    (∀ onid tsid transport tuning, topology.transports.get? ⟨onid, tsid⟩ = some transport →
      transport.tuning = some tuning → stored.tuning? source onid tsid = some tuning) ∧
    ∀ other onid tsid,
      (other = source → ∀ transport, topology.transports.get? ⟨onid, tsid⟩ = some transport →
        transport.tuning = none) →
      stored.tuning? other onid tsid = worker.store.tuning? other onid tsid := by
  have closed : ∀ transport ∈ topology.transports.values, ∀ tuning, transport.tuning = some tuning →
      tuning.IsClosed := by
    intro transport member tuning known
    obtain ⟨built, nonempty⟩ := constructed transport member tuning known
    exact built.isClosed.resolve_left nonempty
  have rows := tuningRowsAt_commit_self running source closed
  refine ⟨fun onid tsid transport tuning present known => ?_, fun other onid tsid unknown => ?_⟩
  · have tuned : topology.tuningOf? ⟨onid, tsid⟩ = some tuning :=
      Option.bind_eq_some_iff.mpr ⟨transport, present, known⟩
    have ended := closed transport (OrderedMap.mem_values_of_get? present) tuning known
    refine tuning?_of_tuningRowsAt ended ?_
    rw [rows, tuned]
  · apply tuning?_congr
    by_cases same : other = source
    · subst same
      have untuned : topology.tuningOf? ⟨onid, tsid⟩ = none := Option.bind_eq_none_iff.mpr (unknown rfl)
      rw [rows, untuned]
    · rw [tuningRowsAt_commit running]
      exact tuningRowsAt_putTunings_of_ne same worker.store _ onid tsid

end StorageWorker

/-! A transport is heard again with fewer properties, beside one that is only listed. -/

namespace RetunedTransport

def former : Tuning := (Multiplex.auto 578000000 8000000).toTuning

/-- The command comes first among the codes, with a value of its own. -/
def latter : Tuning := .ofCodes [(1, 0), (3, 602000000)]

def heard : Topology := Topology.empty.applyAll [
  .transportServices 0x3001 0x233A 4164 [⟨17540, 1⟩], .transportTuning 0x3001 0x233A 4100 latter]

def filled : Store :=
  let rows := Topology.tuningRowsOf ⟨0x233A, 4100⟩ former ++ Topology.tuningRowsOf ⟨0x233A, 4164⟩ former
  (Store.empty.putTunings "cable" rows).putTunings "aerial" rows

theorem tunings_after_rescan :
    let stored := ((StorageWorker.new filled).commit "aerial" heard.batches).1.store
    filled.tuning? "aerial" 0x233A 4100 = some former ∧
      stored.tuning? "aerial" 0x233A 4100 = some ⟨[(.frequency, 602000000), (.tune, 0)]⟩ ∧
      stored.tuning? "aerial" 0x233A 4164 = some former ∧
      stored.tuning? "cable" 0x233A 4100 = some former := by
  have values : heard.transports.values =
      [{ Transport.unknown with networkId := some 0x3001, tuning := some latter },
        { Transport.unknown with networkId := some 0x3001, serviceIds := OrderedSet.insert .empty 17540 }] :=
    rfl
  have constructed : ∀ transport ∈ heard.transports.values, ∀ tuning,
      transport.tuning = some tuning → tuning.Constructed ∧ tuning ≠ .empty := by
    rw [values]
    intro transport member tuning known
    rcases List.mem_pair.mp member with rfl | rfl
    · cases known
      exact ⟨.codes _, by decide⟩
    · cases known
  have running : (StorageWorker.new filled).running = true := rfl
  obtain ⟨written, kept⟩ := StorageWorker.tunings_of_commit running "aerial" constructed
  have closed : former.IsClosed :=
    (Tuning.Constructed.multiplex (.auto 578000000 8000000)).isClosed.resolve_left (by decide)
  refine ⟨?_, written _ _ _ latter rfl rfl, ?_, ?_⟩
  · exact Store.tuning?_of_tuningRowsAt closed (by decide)
  · refine (kept "aerial" 0x233A 4164 fun _ transport found => by cases found; rfl).trans ?_
    exact Store.tuning?_of_tuningRowsAt closed (by decide)
  · refine (kept "cable" 0x233A 4100 fun same => absurd same (by decide)).trans ?_
    exact Store.tuning?_of_tuningRowsAt closed (by decide)

end RetunedTransport

end DvbScan
