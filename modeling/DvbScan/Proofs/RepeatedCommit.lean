import DvbScan.Proofs.Commit
import DvbScan.Proofs.StoreAnswers

/-!
# Committing twice

A row that is written again takes its own place, and a relation or a name that is there is not written again. So
after a second commit of the same topology the store answers as after the first one. Only the numbers that were drawn
for the names of its providers are lost.
-/

namespace DvbScan

namespace StoreTable

variable {α κ : Type} [DecidableEq κ] {key : α → κ} {source : String} {table : StoreTable α}
  {rows : List α} {test : α → Bool}

theorem erase_append (first second : StoreTable α) (source : String) (test : α → Bool) :
    (first ++ second : StoreTable α).erase source test = first.erase source test ++ second.erase source test :=
  List.filter_append _ _

theorem erase_erase {narrow : α → Bool} (wider : ∀ row, narrow row = true → test row = true)
    (table : StoreTable α) (source : String) :
    (table.erase source narrow).erase source test = table.erase source test := by
  unfold erase
  rw [List.filter_filter]
  apply List.filter_congr
  intro stored _
  cases own : stored.source == source with
  | false => rfl
  | true =>
    cases picked : narrow stored.row with
    | false => simp
    | true => simp [wider _ picked]

theorem putAll_append (key : α → κ) (source : String) (first second : StoreTable α) (rows : List α) :
    putAll key source (first ++ second) rows =
      first.erase source (fun old => rows.any (key old == key ·)) ++ putAll key source second rows := by
  induction rows generalizing first second with
  | nil =>
    have kept : first.erase source (fun _ => false) = first :=
      List.filter_eq_self.mpr (by simp)
    exact congrArg (· ++ second) kept.symm
  | cons row rest ih =>
    have step : put key source (first ++ second) row =
        first.erase source (fun old => key old == key row) ++ put key source second row := by
      unfold put
      rw [erase_append, List.append_assoc]
    have both : (first.erase source fun old => key old == key row).erase source
          (fun old => rest.any (key old == key ·)) =
        first.erase source fun old => (row :: rest).any (key old == key ·) := by
      unfold erase
      rw [List.filter_filter]
      apply List.filter_congr
      intro stored _
      cases stored.source == source <;> simp [Bool.and_comm]
    calc putAll key source (first ++ second) (row :: rest)
      _ = putAll key source (put key source (first ++ second) row) rest := rfl
      _ = (first.erase source fun old => (row :: rest).any (key old == key ·)) ++
            putAll key source (put key source second row) rest := by rw [step, ih, both]
      _ = _ := rfl

theorem putAll_eq (key : α → κ) (source : String) (table : StoreTable α) (rows : List α) :
    table.putAll key source rows =
      table.erase source (fun old => rows.any (key old == key ·)) ++ putAll key source [] rows := by
  have split := putAll_append key source table [] rows
  rwa [List.append_nil] at split

theorem mem_putAll {stored : Stored α} (member : stored ∈ table.putAll key source rows) :
    stored ∈ table ∨ ∃ row ∈ rows, stored = ⟨source, row⟩ := by
  induction rows generalizing table with
  | nil => exact .inl member
  | cons row rest ih =>
    rcases ih member with before | ⟨later, listed, same⟩
    · rcases List.mem_append.mp before with kept | new
      · exact .inl (List.mem_of_mem_filter kept)
      · exact .inr ⟨row, List.mem_cons_self, List.mem_singleton.mp new⟩
    · exact .inr ⟨later, List.mem_cons_of_mem _ listed, same⟩

/-- A test that picks all rows with one of the written keys takes out what was written. -/
theorem erase_putAll (covers : ∀ row ∈ rows, ∀ old, key old = key row → test old = true)
    (table : StoreTable α) (source : String) :
    (table.putAll key source rows).erase source test = table.erase source test := by
  have wider : ∀ old, rows.any (key old == key ·) = true → test old = true := by
    intro old picked
    obtain ⟨row, listed, same⟩ := List.any_eq_true.mp picked
    exact covers row listed old (beq_iff_eq.mp same)
  have gone : (putAll key source [] rows).erase source test = [] := by
    apply List.filter_eq_nil_iff.mpr
    intro stored member
    obtain absent | ⟨row, listed, rfl⟩ := mem_putAll member
    · cases absent
    · simp [covers row listed row rfl]
  rw [putAll_eq, erase_append, erase_erase wider, gone, List.append_nil]

theorem putAll_putAll (key : α → κ) (source : String) (table : StoreTable α) (rows : List α) :
    (table.putAll key source rows).putAll key source rows = table.putAll key source rows := by
  have covers : ∀ row ∈ rows, ∀ old, key old = key row → rows.any (key old == key ·) = true :=
    fun row listed old same => List.any_eq_true.mpr ⟨row, listed, beq_iff_eq.mpr same⟩
  rw [putAll_eq key source (table.putAll key source rows), erase_putAll covers, ← putAll_eq]

theorem addAll_of_present {rows : List TransportServiceRow} {table : StoreTable TransportServiceRow}
    (present : ∀ row ∈ rows, row ∈ table.ofSource source) : table.addAll source rows = table := by
  induction rows with
  | nil => rfl
  | cons row rest ih =>
    have there : table.has source (· == row) = true :=
      has_iff.mpr ⟨row, present row List.mem_cons_self, beq_self_eq_true row⟩
    unfold addAll
    rw [List.foldl_cons, if_pos there]
    exact ih fun later listed => present later (List.mem_cons_of_mem _ listed)

theorem addAll_addAll (source : String) (table : StoreTable TransportServiceRow)
    (rows : List TransportServiceRow) :
    (table.addAll source rows).addAll source rows = table.addAll source rows :=
  addAll_of_present fun _ listed => mem_ofSource_addAll.mpr (.inl listed)

/-- Numbers are drawn for names that are there, and none is given. -/
theorem addNames_of_present {names : List String} {table : StoreTable ProviderName}
    (present : ∀ name ∈ names, table.has source (·.name == name) = true) (next : Nat) :
    (table.addNames source next names).1 = table := by
  induction names generalizing next with
  | nil => rfl
  | cons name rest ih =>
    unfold addNames
    rw [List.foldl_cons, addName, if_pos (present name List.mem_cons_self)]
    exact ih (fun later listed => present later (List.mem_cons_of_mem _ listed)) _

theorem subset_addNames (source : String) (table : StoreTable ProviderName) (next : Nat)
    (names : List String) : table ⊆ (table.addNames source next names).1 := by
  induction names generalizing table next with
  | nil => exact fun _ member => member
  | cons name rest ih =>
    unfold addNames
    rw [List.foldl_cons, addName]
    split
    · exact ih table _
    · intro stored member
      exact ih _ _ (List.mem_append_left _ member)

theorem has_addNames {names : List String} {name : String} (listed : name ∈ names)
    (table : StoreTable ProviderName) (next : Nat) :
    (table.addNames source next names).1.has source (·.name == name) = true := by
  induction names generalizing table next with
  | nil => cases listed
  | cons first rest ih =>
    rcases List.mem_cons.mp listed with rfl | later
    · have there : (addName source (table, next) name).1.has source (·.name == name) = true := by
        unfold addName
        simp only
        split
        · assumption
        · exact List.any_eq_true.mpr ⟨_, List.mem_append_right _ List.mem_cons_self, by simp⟩
      obtain ⟨stored, member, own⟩ := List.any_eq_true.mp there
      exact List.any_eq_true.mpr ⟨stored, subset_addNames source _ _ rest member, own⟩
    · exact ih later _ _

theorem addNames_addNames (source : String) (table : StoreTable ProviderName) (next : Nat)
    (names : List String) :
    let once := table.addNames source next names
    (once.1.addNames source once.2 names).1 = once.1 :=
  addNames_of_present (fun _ listed => has_addNames listed table next) _

end StoreTable

namespace Store

theorem sources_addSource_of_mem {store : Store} {source : String} (there : source ∈ store.sources) :
    (store.addSource source).1.sources = store.sources := by
  unfold addSource
  rw [if_pos (List.contains_iff_mem.mpr there)]

theorem mem_sources_addSource (store : Store) (source : String) :
    source ∈ (store.addSource source).1.sources := by
  unfold addSource
  split
  next there => exact List.contains_iff_mem.mp there
  next => exact List.mem_append_right _ List.mem_cons_self

/-- The old tunings of a transport are taken out as a whole, be they new or written just before. -/
theorem tunings_putTunings_putTunings (store : Store) (source : String) (rows : List TuningRow) :
    ((store.putTunings source rows).putTunings source rows).tunings =
      (store.putTunings source rows).tunings := by
  have covers : ∀ row ∈ rows, ∀ old : TuningRow, old.storeKey = row.storeKey →
      (rows.any fun row => row.onid == old.onid && row.tsid == old.tsid) = true := by
    intro row listed old same
    have onid : old.onid = row.onid := congrArg Prod.fst same
    have tsid : old.tsid = row.tsid := congrArg (·.2.1) same
    exact List.any_eq_true.mpr ⟨row, listed, by simp [onid, tsid]⟩
  unfold putTunings
  simp only
  rw [StoreTable.erase_putAll covers, StoreTable.erase_erase fun _ picked => picked]

/-- Written again, the batches change nothing but the number of the next provider. -/
theorem insertAll_batches_twice (store : Store) (source : String) (topology : Topology) :
    let once := store.insertAll source topology.batches
    ∃ next, once.insertAll source topology.batches = { once with nextProvider := next } := by
  intro once
  refine ⟨(once.insertAll source topology.batches).nextProvider, ?_⟩
  rw [insertAll_batches once, show once = _ from insertAll_batches store source topology]
  simp only [StoreTable.putAll_putAll, StoreTable.addAll_addAll, StoreTable.addNames_addNames]
  congr 1
  · apply sources_addSource_of_mem
    exact store.mem_sources_addSource source
  · exact store.tunings_putTunings_putTunings source topology.tuningRows

end Store

namespace StorageWorker

variable {worker : StorageWorker}

theorem commit_of_stopped (stopped : worker.running = false) (source : String) (batches : List Batch) :
    (worker.commit source batches).1 = worker := by
  have unanswered (job : StoreJob Unit) : worker.runWith Store.writer job = (worker, unanswered job) := by
    unfold runWith
    rw [stopped]
    rfl
  have idle (jobs : List (StoreJob Unit)) : (worker.runAll jobs).1 = worker := by
    induction jobs with
    | nil => rfl
    | cons job rest ih =>
      unfold runAll runAllWith
      rw [unanswered job]
      exact ih
  unfold commit run
  simp only [idle, unanswered]
  rfl

theorem running_commit (worker : StorageWorker) (source : String) (batches : List Batch) :
    (worker.commit source batches).1.running = worker.running := by
  cases running : worker.running with
  | false => rw [commit_of_stopped running, running]
  | true =>
    unfold commit
    simp only [runAll_insert running]
    unfold run runWith
    rw [if_pos running]
    exact running

theorem store_commit_twice (worker : StorageWorker) (source : String) (topology : Topology) :
    let once := (worker.commit source topology.batches).1
    ∃ next, (once.commit source topology.batches).1.store = { once.store with nextProvider := next } := by
  intro once
  cases running : worker.running with
  | false =>
    have same : once = worker := commit_of_stopped running source topology.batches
    rw [same, commit_of_stopped running]
    exact ⟨worker.store.nextProvider, rfl⟩
  | true =>
    have still : once.running = true := (worker.running_commit source topology.batches).trans running
    rw [store_commit still, show once.store = _ from store_commit running source topology.batches]
    exact worker.store.insertAll_batches_twice source topology

/-- Once a topology is committed, a second commit of it changes no answer: not to a question of any source, nor to
the one for the sources. The links of services to providers stay the same, and so does the provider that each leads
to. -/
theorem commit_twice (worker : StorageWorker) (source : String) (topology : Topology) :
    let once := (worker.commit source topology.batches).1
    let twice := (once.commit source topology.batches).1
    (∀ asked, Store.AnswersAlike asked twice.store once.store) ∧
      twice.store.sourceNames = once.store.sourceNames ∧
      (∀ link, link ∈ twice.store.providerLinks ↔ link ∈ once.store.providerLinks) ∧
      ∀ asked onid serviceId,
        twice.store.providerOf? asked onid serviceId = once.store.providerOf? asked onid serviceId := by
  intro once twice
  obtain ⟨next, same⟩ := worker.store_commit_twice source topology
  rw [show twice.store = { once.store with nextProvider := next } from same]
  refine ⟨fun asked => ?_, rfl, fun link => Iff.rfl, fun asked onid serviceId => rfl⟩
  exact once.store.answersAlike_nextProvider next asked

end StorageWorker

end DvbScan
