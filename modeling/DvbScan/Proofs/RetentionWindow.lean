import DvbScan.LogRetention
import DvbScan.Proofs.Result
import Mathlib.Data.List.Basic

/-!
# What retention removes

Log files from before the retention window go, and nothing else does. The window begins so many days before now.
A count of days is taken for a number with a sign: where the window would begin before the calendar there is no
moment to compare with, or the count has turned negative, and log files go up to a day that is still to come.
-/

namespace DvbScan

namespace LogRetention

variable {now limit : Int} {days : UInt64} {entry : LogEntry} {entries : List LogEntry}

def InCalendar (moment : Int) : Prop := calendarStart ≤ moment ∧ moment < calendarEnd

def IsLog (entry : LogEntry) : Prop := entry.isFile ∧ logName.toList <+: entry.name.toList

def IsOld (moment : Int) (entry : LogEntry) : Prop := IsLog entry ∧ entry.modified < moment

instance (moment : Int) : Decidable (InCalendar moment) :=
  inferInstanceAs (Decidable (calendarStart ≤ moment ∧ moment < calendarEnd))

instance : DecidablePred IsLog := fun entry =>
  inferInstanceAs (Decidable (entry.isFile ∧ logName.toList <+: entry.name.toList))

instance (moment : Int) : DecidablePred (IsOld moment) := fun entry =>
  inferInstanceAs (Decidable (IsLog entry ∧ entry.modified < moment))

def AllDated (entries : List LogEntry) : Prop := ∀ entry ∈ entries, IsLog entry → InCalendar entry.modified

/-- What goes and what stays if log files go up to a moment. -/
def clearedUpTo (moment : Int) (entries : List LogEntry) : List LogEntry × List LogEntry :=
  entries.partition (IsOld moment ·)

/-- No log file was last modified from the one moment on and before the other. -/
def NoneBetween (start limit : Int) (entries : List LogEntry) : Prop :=
  ∀ entry ∈ entries, IsLog entry → entry.modified < start ∨ limit ≤ entry.modified

def windowStart (now : Int) (days : UInt64) : Int := now - days.toNat * nanosecondsPerDay

/-- Where the window begins if the highest bit of the count is a sign: as many days ahead as the count is short of
64 bits. -/
def turnedStart (now : Int) (days : UInt64) : Int := now + (UInt64.size - days.toNat) * nanosecondsPerDay

theorem isLog_iff : isLog entry = true ↔ IsLog entry := by
  simp [isLog, IsLog, String.isPrefixOf]

theorem isExpired_eq (moment : Int) : isExpired moment = fun entry => decide (IsOld moment entry) := by
  funext entry
  rw [Bool.eq_iff_iff, decide_eq_true_iff, isExpired, Bool.and_eq_true, isLog_iff, decide_eq_true_iff]
  rfl

theorem all_isDated_iff : entries.all isDated = true ↔ AllDated entries := by
  rw [List.all_eq_true]
  refine forall₂_congr fun entry _ => ?_
  rw [← isLog_iff, InCalendar, isDated]
  cases isLog entry <;> simp

theorem clearedUpTo_eq (moment : Int) (entries : List LogEntry) :
    clearedUpTo moment entries = (entries.filter (IsOld moment ·), entries.filter (¬IsOld moment ·)) := by
  rw [clearedUpTo, List.partition_eq_filter_filter]
  simp only [Function.comp_def, decide_not]

theorem mem_clearedUpTo : entry ∈ (clearedUpTo limit entries).1 ↔ entry ∈ entries ∧ IsOld limit entry := by
  rw [clearedUpTo_eq, List.mem_filter, decide_eq_true_iff]

/-- A later moment lets go what an earlier one keeps exactly if there is something in between. -/
theorem gone_subset_iff {start : Int} :
    (clearedUpTo limit entries).1 ⊆ (clearedUpTo start entries).1 ↔ NoneBetween start limit entries := by
  constructor
  · intro within entry member log
    by_contra between
    have gone : entry ∈ (clearedUpTo limit entries).1 := mem_clearedUpTo.mpr ⟨member, log, by omega⟩
    have old := (mem_clearedUpTo.mp (within gone)).2.2
    omega
  · intro clear entry gone
    obtain ⟨member, log, old⟩ := mem_clearedUpTo.mp gone
    have apart := clear entry member log
    exact mem_clearedUpTo.mpr ⟨member, log, by omega⟩

theorem clearedUpTo_eq_iff {start : Int} (earlier : start ≤ limit) :
    clearedUpTo limit entries = clearedUpTo start entries ↔ NoneBetween start limit entries := by
  constructor
  · intro same
    rw [← gone_subset_iff, same]
    exact List.Subset.refl _
  · intro clear
    have alike (entry) (member : entry ∈ entries) : IsOld limit entry ↔ IsOld start entry := by
      refine and_congr_right fun log => ?_
      have apart := clear entry member log
      omega
    rw [clearedUpTo_eq, clearedUpTo_eq]
    refine Prod.ext ?_ ?_
    · exact List.filter_congr fun entry member => decide_eq_decide.mpr (alike entry member)
    · exact List.filter_congr fun entry member => decide_eq_decide.mpr (not_congr (alike entry member))

/-- The moment before which log files go. -/
inductive Limit (now : Int) (days : UInt64) : Int → Prop
  | window (inside : InCalendar (windowStart now days)) : Limit now days (windowStart now days)
  | turned (inside : InCalendar (turnedStart now days)) : Limit now days (turnedStart now days)

theorem signedDays_toNat (days : UInt64) :
    signedDays days.toNat = days.toNat ∧ days.toNat < 9223372036854775808 ∨
      signedDays days.toNat = days.toNat - UInt64.size ∧ 9223372036854775808 ≤ days.toNat := by
  have bound := days.toNat_lt
  unfold signedDays
  rw [Int.bmod_def]
  simp only [UInt64.size]
  split <;> omega

theorem greatestSpan_eq : greatestSpan = 106751991167 := by decide

/-- A window that begins in the calendar has no more days than the calendar. -/
theorem days_of_window (present : InCalendar now) (inside : InCalendar (windowStart now days)) :
    days.toNat < 191491529 := by
  simp only [InCalendar, windowStart, calendarStart, calendarEnd, nanosecondsPerDay] at present inside
  omega

theorem days_of_turned (present : InCalendar now) (inside : InCalendar (turnedStart now days)) :
    18446744073709551616 < days.toNat + 191491529 := by
  simp only [InCalendar, turnedStart, calendarStart, calendarEnd, nanosecondsPerDay, UInt64.size] at present inside
  omega

theorem cutoff_eq_ok_iff_span {count : Nat} : cutoff now count = .ok limit ↔
    (-greatestSpan ≤ signedDays count ∧ signedDays count ≤ greatestSpan) ∧
      InCalendar (now - signedDays count * nanosecondsPerDay) ∧
      limit = now - signedDays count * nanosecondsPerDay := by
  unfold cutoff InCalendar
  dsimp only
  split
  next beyond =>
    refine iff_of_false nofun fun within => ?_
    omega
  next within =>
    split
    next beyond =>
      refine iff_of_false nofun fun inside => ?_
      omega
    next inside =>
      rw [Except.ok.injEq, eq_comm]
      refine ⟨fun same => ⟨by omega, by omega, same⟩, fun found => found.2.2⟩

/-- The calendar is shorter than the spans of time, so that it alone bounds the count. -/
theorem cutoff_eq_ok_iff (present : InCalendar now) : cutoff now days.toNat = .ok limit ↔ Limit now days limit := by
  rw [cutoff_eq_ok_iff_span, greatestSpan_eq]
  rcases signedDays_toNat days with ⟨same, small⟩ | ⟨turned, large⟩
  · rw [same]
    constructor
    · rintro ⟨-, inside, rfl⟩
      exact .window inside
    · rintro (inside | inside)
      · have few := days_of_window present inside
        exact ⟨by omega, inside, rfl⟩
      · have many := days_of_turned present inside
        omega
  · have start : now - (days.toNat - UInt64.size) * nanosecondsPerDay = turnedStart now days := by
      unfold turnedStart
      rw [Int.sub_eq_add_neg, ← Int.neg_mul, Int.neg_sub]
    rw [turned, start]
    constructor
    · rintro ⟨-, inside, rfl⟩
      exact .turned inside
    · rintro (inside | inside)
      · have few := days_of_window present inside
        omega
      · have many := days_of_turned present inside
        have bound := days.toNat_lt
        have near : -106751991167 ≤ (days.toNat - UInt64.size : Int) ∧ (days.toNat - UInt64.size : Int) ≤ 106751991167 := by
          simp only [UInt64.size]
          omega
        exact ⟨near, inside, rfl⟩

theorem Limit.unique {other : Int} (present : InCalendar now) (first : Limit now days limit)
    (second : Limit now days other) : limit = other := by
  have found := (cutoff_eq_ok_iff present).mpr first
  rw [(cutoff_eq_ok_iff present).mpr second] at found
  exact (Except.ok.inj found).symm

theorem clean_eq_ok_iff (present : InCalendar now) {result : List LogEntry × List LogEntry} :
    clean now days.toNat (some entries) = .ok result ↔
      AllDated entries ∧ ∃ limit, Limit now days limit ∧ result = clearedUpTo limit entries := by
  unfold clean
  rw [bind_eq_ok]
  simp only [cutoff_eq_ok_iff present, isExpired_eq]
  constructor
  · rintro ⟨limit, reached, found⟩
    split at found
    next dated => exact ⟨all_isDated_iff.mp dated, limit, reached, (Except.ok.inj found).symm⟩
    next undated => cases found
  · rintro ⟨dated, limit, reached, rfl⟩
    exact ⟨limit, reached, if_pos (all_isDated_iff.mpr dated)⟩

/-- More days lead further back, unless they alone are taken for a negative count. -/
theorem Limit.le_of_le {larger : UInt64} {limit' : Int} (present : InCalendar now) (more : days ≤ larger)
    (first : Limit now days limit) (second : Limit now larger limit') :
    limit' ≤ limit ∨ InCalendar (windowStart now days) ∧ limit = windowStart now days ∧
      InCalendar (turnedStart now larger) ∧ limit' = turnedStart now larger := by
  have order : days.toNat ≤ larger.toNat := UInt64.le_iff_toNat_le.mp more
  cases first with
  | window inside =>
    cases second with
    | window _ =>
      left
      simp only [windowStart, nanosecondsPerDay]
      omega
    | turned ahead => exact .inr ⟨inside, rfl, ahead, rfl⟩
  | turned ahead =>
    have many := days_of_turned present ahead
    cases second with
    | window inside =>
      have few := days_of_window present inside
      omega
    | turned _ =>
      left
      simp only [turnedStart, nanosecondsPerDay]
      omega

theorem windowStart_le_turnedStart (now : Int) (days : UInt64) : windowStart now days ≤ turnedStart now days := by
  have bound := days.toNat_lt
  simp only [windowStart, turnedStart, nanosecondsPerDay, UInt64.size]
  omega

theorem exists_limit_iff : (∃ limit, Limit now days limit) ↔
    InCalendar (windowStart now days) ∨ InCalendar (turnedStart now days) := by
  constructor
  · rintro ⟨limit, inside | ahead⟩
    · exact .inl inside
    · exact .inr ahead
  · rintro (inside | ahead)
    · exact ⟨_, .window inside⟩
    · exact ⟨_, .turned ahead⟩

theorem clean_eq_window_iff (present : InCalendar now) :
    clean now days.toNat (some entries) = .ok (clearedUpTo (windowStart now days) entries) ↔
      AllDated entries ∧ (InCalendar (windowStart now days) ∨ InCalendar (turnedStart now days) ∧
        NoneBetween (windowStart now days) (turnedStart now days) entries) := by
  rw [clean_eq_ok_iff present]
  refine and_congr_right fun _ => ?_
  constructor
  · rintro ⟨limit, inside | ahead, same⟩
    · exact .inl inside
    · exact .inr ⟨ahead, (clearedUpTo_eq_iff (windowStart_le_turnedStart now days)).mp same.symm⟩
  · rintro (inside | ⟨ahead, clear⟩)
    · exact ⟨_, .window inside, rfl⟩
    · exact ⟨_, .turned ahead, ((clearedUpTo_eq_iff (windowStart_le_turnedStart now days)).mpr clear).symm⟩

theorem clean_eq_error_iff (present : InCalendar now) : (∃ step, clean now days.toNat (some entries) = .error step) ↔
    ¬(AllDated entries ∧ (InCalendar (windowStart now days) ∨ InCalendar (turnedStart now days))) := by
  rw [← exists_limit_iff]
  constructor
  · rintro ⟨step, broken⟩ ⟨dated, limit, reached⟩
    rw [(clean_eq_ok_iff present).mpr ⟨dated, limit, reached, rfl⟩] at broken
    cases broken
  · intro without
    cases outcome : clean now days.toNat (some entries) with
    | error step => exact ⟨step, rfl⟩
    | ok result =>
      obtain ⟨dated, limit, reached, -⟩ := (clean_eq_ok_iff present).mp outcome
      exact absurd ⟨dated, limit, reached⟩ without

theorem gone_of_larger {larger : UInt64} {gone kept gone' kept' : List LogEntry} (present : InCalendar now)
    (more : days ≤ larger) (former : clean now days.toNat (some entries) = .ok (gone, kept))
    (latter : clean now larger.toNat (some entries) = .ok (gone', kept')) :
    gone' ⊆ gone ↔ (InCalendar (windowStart now days) → InCalendar (turnedStart now larger) →
      NoneBetween (windowStart now days) (turnedStart now larger) entries) := by
  obtain ⟨-, limit, reached, same⟩ := (clean_eq_ok_iff present).mp former
  obtain ⟨-, limit', reached', same'⟩ := (clean_eq_ok_iff present).mp latter
  have goneOf : gone = (clearedUpTo limit entries).1 := congrArg Prod.fst same
  have goneOf' : gone' = (clearedUpTo limit' entries).1 := congrArg Prod.fst same'
  rw [goneOf, goneOf', gone_subset_iff]
  constructor
  · intro clear inside ahead
    rwa [reached.unique present (.window inside), reached'.unique present (.turned ahead)] at clear
  · intro clear
    rcases Limit.le_of_le present more reached reached' with earlier | ⟨inside, rfl, ahead, rfl⟩
    · intro entry _ _
      omega
    · exact clear inside ahead

/-- Log files from before the retention window go and all else stays, exactly if the calendar has dates for the log
files and either has the day on which the window begins, or has the day that a negative count leads to and no log file
is from between the two. In the latter case log files go up to that day to come. Without such days, or with a log file
without a date, there is a breakdown. What goes for a larger count went for a smaller one, unless the larger alone has
turned negative and there is a log file in between. -/
theorem removes_before_window (now : Int) (present : InCalendar now) (days : UInt64) (entries : List LogEntry) :
    (clean now days.toNat (some entries) = .ok (clearedUpTo (windowStart now days) entries) ↔
      AllDated entries ∧ (InCalendar (windowStart now days) ∨ InCalendar (turnedStart now days) ∧
        NoneBetween (windowStart now days) (turnedStart now days) entries)) ∧
    (AllDated entries → InCalendar (turnedStart now days) →
      clean now days.toNat (some entries) = .ok (clearedUpTo (turnedStart now days) entries)) ∧
    ((∃ step, clean now days.toNat (some entries) = .error step) ↔
      ¬(AllDated entries ∧ (InCalendar (windowStart now days) ∨ InCalendar (turnedStart now days)))) ∧
    (∀ larger gone kept gone' kept', days ≤ larger → clean now days.toNat (some entries) = .ok (gone, kept) →
      clean now larger.toNat (some entries) = .ok (gone', kept') →
      (gone' ⊆ gone ↔ (InCalendar (windowStart now days) → InCalendar (turnedStart now larger) →
        NoneBetween (windowStart now days) (turnedStart now larger) entries))) ∧
    clean now days.toNat none = .ok ([], []) :=
  ⟨clean_eq_window_iff present,
    fun dated ahead => (clean_eq_ok_iff present).mpr ⟨dated, _, .turned ahead, rfl⟩,
    clean_eq_error_iff present,
    fun _ _ _ _ _ more former latter => gone_of_larger present more former latter,
    rfl⟩

end LogRetention

/-! An old log file, one of the last day, and what only looks like one. -/

namespace LogDirectory

open LogRetention

def now : Int := 20454 * nanosecondsPerDay

def fresh : LogEntry := ⟨"siscan.log.2025-12-31", true, now - 1⟩
def old : LogEntry := ⟨"siscan.log.2025-12-21", true, now - 10 * nanosecondsPerDay⟩
def foreign : LogEntry := ⟨"other.txt", true, now - 10 * nanosecondsPerDay⟩
def folder : LogEntry := ⟨"siscan.log.d", false, now - 10 * nanosecondsPerDay⟩

def entries : List LogEntry := [fresh, old, foreign, folder]

/-- A week leaves the fresh one, and removes nothing that two days keep. The greatest count removes it too. -/
theorem week_of_logs :
    InCalendar now ∧ AllDated entries ∧ clean now 7 (some entries) = .ok ([old], [fresh, foreign, folder]) ∧
      (2 : UInt64) ≤ 7 ∧ clean now 2 (some entries) = .ok ([old], [fresh, foreign, folder]) ∧ [old] ⊆ [old] ∧
      InCalendar (turnedStart now 18446744073709551615) ∧
      clean now 18446744073709551615 (some entries) = .ok ([fresh, old], [foreign, folder]) := by
  have present : InCalendar now := by decide
  have dated : AllDated entries := by
    unfold AllDated
    decide
  have ahead : InCalendar (turnedStart now 18446744073709551615) := by decide
  obtain ⟨week, -⟩ := removes_before_window now present 7 entries
  obtain ⟨days, -, -, larger, -⟩ := removes_before_window now present 2 entries
  obtain ⟨-, turned, -⟩ := removes_before_window now present 18446744073709551615 entries
  have ofWeek : clean now 7 (some entries) = .ok ([old], [fresh, foreign, folder]) :=
    week.mpr ⟨dated, .inl (by decide)⟩
  have ofDays : clean now 2 (some entries) = .ok ([old], [fresh, foreign, folder]) :=
    days.mpr ⟨dated, .inl (by decide)⟩
  have fewer := (larger 7 _ _ _ _ (by decide) ofDays ofWeek).mpr fun _ beyond => absurd beyond (by decide)
  exact ⟨present, dated, ofWeek, by decide, ofDays, fewer, ahead, turned dated ahead⟩

/-- The greatest count removes a log file of the last day, which a count of one day keeps, and the greatest count
without a sign breaks down. -/
theorem fresh_log_removed :
    clean now 18446744073709551615 (some [fresh]) = .ok ([fresh], []) ∧
      ¬IsOld (windowStart now 18446744073709551615) fresh ∧
      clean now 1 (some [fresh]) = .ok ([], [fresh]) ∧
      clean now 9223372036854775807 (some [fresh]) = .error .daySpan := by
  refine ⟨?_, ?_, ?_, ?_⟩
  · decide +kernel
  · decide
  · decide +kernel
  · decide +kernel

end LogDirectory

end DvbScan
