import DvbScan.Proofs.SweepRun
import Mathlib.Data.Finset.Card

/-!
# No channel is tried twice

The requests to tune of a run are noted by their keys and counted. A sweep asks only for what it has not
noted, from whichever source the target comes and however the receiver answers, so no two requests of a run
have the same key. There are few enough keys that the count of requests never leaves its machine word.
-/

namespace DvbScan

namespace Sweep

variable {ι : Type}

/-- The requests to tune are numbered from one up, and their keys are those noted, no two the same. -/
structure RequestsNoted (sweep : Sweep ι) : Prop where
  numbers : (Call.tunes sweep.calls).map (·.1) = List.range' 1 sweep.attempts
  keys : (Call.tunes sweep.calls).map (·.2.1.equivalence) = sweep.attempted.reverse
  distinct : sweep.attempted.Nodup

theorem requestsNoted_new (platform : Platform) (candidates : ι) (timeouts : Timeouts) :
    (new platform candidates timeouts).RequestsNoted :=
  ⟨rfl, rfl, .nil⟩

namespace RequestsNoted

theorem of_untuned {before after : Sweep ι} (noted : before.RequestsNoted)
    (untuned : Untuned before after) : after.RequestsNoted where
  numbers := by rw [untuned.tunes, untuned.attempts, noted.numbers]
  keys := by rw [untuned.tunes, untuned.attempted, noted.keys]
  distinct := by rw [untuned.attempted]; exact noted.distinct

theorem ask {sweep : Sweep ι} (noted : sweep.RequestsNoted) {target : Target}
    (fresh : sweep.isAttempted target.tuning = false) : (sweep.ask target).RequestsNoted where
  numbers := by
    change (Call.tunes (sweep.calls ++ _)).map _ = List.range' 1 (sweep.attempts + 1)
    rw [Call.tunes_append, List.map_append, noted.numbers, List.range'_concat]
    simp only [Call.tunes, Nat.one_mul, Nat.add_comm 1]
    rfl
  keys := by
    change (Call.tunes (sweep.calls ++ _)).map _ =
      (target.tuning.equivalence :: sweep.attempted).reverse
    rw [Call.tunes_append, List.map_append, noted.keys, List.reverse_cons]
    rfl
  distinct := by
    refine List.nodup_cons.mpr ⟨fun member => ?_, noted.distinct⟩
    have tried : sweep.isAttempted target.tuning = true := List.contains_iff_mem.mpr member
    rw [fresh] at tried
    cases tried

variable [CandidateSource ι]

theorem ask_planned {sweep passed : Sweep ι} {target : Target} (noted : sweep.RequestsNoted)
    (planned : sweep.plan = (passed, .request target)) : (passed.ask target).RequestsNoted := by
  have untuned := untuned_of_plan planned
  apply (noted.of_untuned untuned).ask
  unfold isAttempted
  rw [untuned.attempted]
  exact fresh_of_plan planned

theorem advance {sweep : Sweep ι} (noted : sweep.RequestsNoted) (receiver : Receiver) :
    (sweep.advance receiver).1.RequestsNoted := by
  fun_induction sweep.advance receiver with
  | case1 sweep passed planned =>
    apply (noted.of_untuned (untuned_of_plan planned)).of_untuned
    exact ⟨rfl, rfl, rfl, rfl⟩
  | case2 sweep passed planned =>
    apply (noted.of_untuned (untuned_of_plan planned)).of_untuned
    exact ⟨rfl, rfl, rfl, rfl⟩
  | case3 sweep passed step planned => exact noted.of_untuned (untuned_of_plan planned)
  | case4 sweep passed target planned asked accepted =>
    exact (noted.ask_planned planned).of_untuned ⟨rfl, rfl, rfl, rfl⟩
  | case5 sweep passed target planned asked error refused fatal =>
    exact (noted.ask_planned planned).of_untuned ⟨rfl, rfl, rfl, rfl⟩
  | case6 sweep passed target planned asked error refused passable _ ih =>
    exact ih ((noted.ask_planned planned).of_untuned (asked.untuned_settle target .failed))

theorem act {sweep : Sweep ι} (noted : sweep.RequestsNoted) (receiver : Receiver)
    (act : SweepAct) : (sweep.act receiver act).1.RequestsNoted := by
  rw [act_eq_complete]
  have prepared := noted.of_untuned (sweep.untuned_prepare receiver act)
  cases progress : sweep.prepare receiver act with
  | waits waiting =>
    rw [progress] at prepared
    exact prepared
  | movesOn moving =>
    rw [progress] at prepared
    exact prepared.advance receiver

theorem actAll {sweep : Sweep ι} (noted : sweep.RequestsNoted) (receiver : Receiver)
    (acts : List SweepAct) : (sweep.actAll receiver acts).RequestsNoted := by
  induction acts generalizing sweep with
  | nil => exact noted
  | cons act rest ih => exact ih (noted.act receiver act)

omit [CandidateSource ι]

/-- No more requests are noted than there are keys. -/
theorem attempts_le {sweep : Sweep ι} (noted : sweep.RequestsNoted) :
    sweep.attempts ≤ EquivalenceKey.bound := by
  have values : (sweep.attempted.map (·.value)).Nodup := by
    refine noted.distinct.map fun first second same => ?_
    cases first
    cases second
    cases same
    rfl
  have bounded : (sweep.attempted.map (·.value)).toFinset ⊆ Finset.range EquivalenceKey.bound := by
    intro value member
    obtain ⟨key, noticed, rfl⟩ := List.mem_map.mp (List.mem_toFinset.mp member)
    rw [← List.mem_reverse, ← noted.keys] at noticed
    obtain ⟨request, -, rfl⟩ := List.mem_map.mp noticed
    exact Finset.mem_range.mpr request.2.1.equivalence_lt
  have counted : sweep.attempted.length = sweep.attempts := by
    have numbers := congrArg List.length noted.numbers
    have keys := congrArg List.length noted.keys
    simp only [List.length_map, List.length_range', List.length_reverse] at numbers keys
    omega
  calc sweep.attempts
    _ = (sweep.attempted.map (·.value)).toFinset.card := by
      rw [List.toFinset_card_of_nodup values, List.length_map, counted]
    _ ≤ (Finset.range EquivalenceKey.bound).card := Finset.card_le_card bounded
    _ = EquivalenceKey.bound := Finset.card_range _

end RequestsNoted

variable [CandidateSource ι]

/-- Over a whole run, whatever the source of candidates and the receiver do and whatever is done with the
sweep, no two requests to tune are for the same channel. They are numbered in order, and their numbers never
leave their machine word. -/
theorem requests_distinct (platform : Platform) (candidates : ι) (timeouts : Timeouts)
    (receiver : Receiver) (acts : List SweepAct) :
    let requests := Call.tunes ((new platform candidates timeouts).actAll receiver acts).calls
    (requests.map (·.2.1.equivalence)).Nodup ∧ (requests.map (·.1)).Pairwise (· < ·) ∧
      ∀ number ∈ requests.map (·.1), number < UInt64.size := by
  have noted : ((new platform candidates timeouts).actAll receiver acts).RequestsNoted :=
    (requestsNoted_new platform candidates timeouts).actAll receiver acts
  refine ⟨?_, ?_, ?_⟩
  · rw [noted.keys]
    exact List.nodup_reverse.mpr noted.distinct
  · rw [noted.numbers]
    exact List.pairwise_lt_range'
  · intro number member
    rw [noted.numbers] at member
    calc number
      _ < 1 + _ := (List.mem_range'_1.mp member).2
      _ ≤ 1 + EquivalenceKey.bound := Nat.add_le_add_left noted.attempts_le 1
      _ < UInt64.size := by decide

end Sweep

end DvbScan
