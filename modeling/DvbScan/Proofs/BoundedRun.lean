import DvbScan.Proofs.SweepRun

/-!
# Runs within a bound

How long a sweep reads its candidates depends on their source, so a run is not computed by plain recursion.
Within a bound on the candidates and requests of each decision it is. A bounded run that comes to an end is
the run itself.
-/

namespace DvbScan

namespace Offer

variable {ι : Type} [CandidateSource ι]

def firstUntriedWithin (isTried : Tuning → Bool) : Nat → Offer ι → Option (Offer ι)
  | 0, _ => none
  | bound + 1, offer =>
    match offer.result with
    | .ok (some tuning) =>
      if isTried tuning then firstUntriedWithin isTried bound (CandidateSource.next offer.rest)
      else some offer
    | _ => some offer

theorem firstUntried_of_within {isTried : Tuning → Bool} {bound : Nat} {offer last : Offer ι}
    (found : firstUntriedWithin isTried bound offer = some last) :
    offer.firstUntried isTried = some last := by
  induction bound generalizing offer with
  | zero => cases found
  | succ bound ih =>
    obtain ⟨result, rest⟩ := offer
    rw [firstUntried]
    rcases result with step | _ | tuning
    · exact found
    · exact found
    · unfold firstUntriedWithin at found
      simp only at found ⊢
      by_cases tried : isTried tuning
      · rw [if_pos tried] at found ⊢
        exact ih found
      · rw [if_neg tried] at found ⊢
        exact found

end Offer

namespace Sweep

variable {ι : Type} [CandidateSource ι]

def planWithin (bound : Nat) (sweep : Sweep ι) : Option (Sweep ι × Plan) :=
  if sweep.isHarvested then some (sweep, .enough)
  else
    let (tried, announced) := sweep.announcedTarget
    let passed := sweep.giveUp tried
    match announced with
    | some target => some (passed, .request target)
    | none =>
      ((CandidateSource.next sweep.candidates).firstUntriedWithin sweep.isAttempted bound).map
        fun ⟨found, candidates⟩ =>
          ({ passed with candidates }, match found with
            | .error step => .stuck step
            | .ok none => .exhausted
            | .ok (some tuning) => .request ⟨tuning, none⟩)

theorem plan_of_within {bound : Nat} {sweep : Sweep ι} {result : Sweep ι × Plan}
    (planned : sweep.planWithin bound = some result) : sweep.plan = result := by
  unfold planWithin at planned
  unfold plan
  split
  next satisfied =>
    rw [if_pos satisfied] at planned
    exact Option.some.inj planned
  next unsatisfied =>
    rw [if_neg unsatisfied] at planned
    unfold nextTarget
    simp only at planned ⊢
    cases announced : sweep.announcedTarget.2 with
    | some target =>
      rw [announced] at planned
      exact Option.some.inj planned
    | none =>
      rw [announced] at planned
      obtain ⟨⟨found, candidates⟩, search, rfl⟩ := Option.map_eq_some_iff.mp planned
      unfold candidateTarget
      rw [Offer.firstUntried_of_within search]
      rcases found with step | _ | tuning
      · rfl
      · rfl
      · rfl

def advanceWithin (receiver : Receiver) :
    Nat → Sweep ι → Option (List (TuneRequest ι) × Sweep ι × Option (Failure ScanError))
  | 0, _ => none
  | bound + 1, sweep =>
    match sweep.planWithin (bound + 1) with
    | none => none
    | some (passed, .enough) =>
      some ([], { passed with phase := .finished, status := passed.harvestedStatus }, none)
    | some (passed, .exhausted) =>
      some ([], { passed with phase := .finished, status := passed.exhaustedStatus }, none)
    | some (passed, .stuck step) => some ([], passed, some (.broken step))
    | some (passed, .request target) =>
      let request : TuneRequest ι := { before := sweep, passed, target }
      let asked := passed.ask target
      match receiver.tune passed.calls asked.attempts target.tuning with
      | none => some ([request], { asked with phase := .tuning asked.attempts target }, none)
      | some error =>
        if error.isFatal then
          some ([request], { asked with phase := .finished, status := .failed },
            some (.rejected error))
        else
          (advanceWithin receiver bound (asked.settle target .failed)).map
            fun (requests, result) => (request :: requests, result)

theorem advance_of_plan {sweep passed : Sweep ι} {next : Plan} (receiver : Receiver)
    (planned : sweep.plan = (passed, next)) :
    sweep.advance receiver = match next with
      | .enough =>
        ({ passed with phase := .finished, status := passed.harvestedStatus }, none)
      | .exhausted =>
        ({ passed with phase := .finished, status := passed.exhaustedStatus }, none)
      | .stuck step => (passed, some (.broken step))
      | .request target =>
        let asked := passed.ask target
        match receiver.tune passed.calls asked.attempts target.tuning with
        | none => ({ asked with phase := .tuning asked.attempts target }, none)
        | some error =>
          if error.isFatal then
            ({ asked with phase := .finished, status := .failed }, some (.rejected error))
          else (asked.settle target .failed).advance receiver := by
  rw [advance]
  split
  next shape => cases planned.symm.trans shape; rfl
  next shape => cases planned.symm.trans shape; rfl
  next shape => cases planned.symm.trans shape; rfl
  next shape => cases planned.symm.trans shape; rfl

theorem advance_of_within {receiver : Receiver} {bound : Nat} {sweep : Sweep ι}
    {requests : List (TuneRequest ι)} {result : Sweep ι × Option (Failure ScanError)}
    (moved : advanceWithin receiver bound sweep = some (requests, result)) :
    sweep.requests receiver = requests ∧ sweep.advance receiver = result := by
  induction bound generalizing sweep requests with
  | zero => cases moved
  | succ bound ih =>
    unfold advanceWithin at moved
    cases shape : sweep.planWithin (bound + 1) with
    | none =>
      rw [shape] at moved
      cases moved
    | some plan =>
      obtain ⟨passed, next⟩ := plan
      rw [shape] at moved
      have planned := plan_of_within shape
      rw [advance_of_plan receiver planned]
      cases next with
      | enough =>
        cases moved
        exact ⟨requests_of_ending receiver (by rw [planned]; nofun), rfl⟩
      | exhausted =>
        cases moved
        exact ⟨requests_of_ending receiver (by rw [planned]; nofun), rfl⟩
      | stuck step =>
        cases moved
        exact ⟨requests_of_ending receiver (by rw [planned]; nofun), rfl⟩
      | request target =>
        rw [requests_of_request receiver planned]
        simp only at moved ⊢
        cases answer : receiver.tune passed.calls (passed.ask target).attempts target.tuning with
        | none =>
          rw [answer] at moved
          cases moved
          exact ⟨rfl, rfl⟩
        | some error =>
          rw [answer] at moved
          simp only at moved ⊢
          by_cases fatal : error.isFatal
          · rw [if_pos fatal] at moved
            cases moved
            exact ⟨by rw [if_pos fatal], if_pos fatal⟩
          · rw [if_neg fatal] at moved
            rw [if_neg fatal, if_neg fatal]
            obtain ⟨⟨later, final⟩, rest, same⟩ := Option.map_eq_some_iff.mp moved
            cases same
            obtain ⟨requests_eq, advance_eq⟩ := ih rest
            exact ⟨congrArg _ requests_eq, advance_eq⟩

def runWithin (receiver : Receiver) (bound : Nat) :
    Sweep ι → List SweepAct → Option (List (TuneRequest ι) × Sweep ι)
  | sweep, [] => some ([], sweep)
  | sweep, act :: rest =>
    match sweep.prepare receiver act with
    | .waits waiting => runWithin receiver bound waiting rest
    | .movesOn moving =>
      match advanceWithin receiver bound moving with
      | none => none
      | some (requests, after, _) =>
        (runWithin receiver bound after rest).map
          fun (later, final) => (requests ++ later, final)

/-- A bounded run that comes to an end makes the requests of the run and ends in the same sweep. -/
theorem run_of_within {receiver : Receiver} {bound : Nat} {sweep final : Sweep ι}
    {acts : List SweepAct} {requests : List (TuneRequest ι)}
    (run : runWithin receiver bound sweep acts = some (requests, final)) :
    sweep.requestsOf receiver acts = requests ∧ sweep.actAll receiver acts = final := by
  induction acts generalizing sweep requests with
  | nil =>
    cases run
    exact ⟨rfl, rfl⟩
  | cons act rest ih =>
    unfold runWithin at run
    change _ ++ requestsOf (sweep.act receiver act).1 receiver rest = _ ∧
      actAll (sweep.act receiver act).1 receiver rest = _
    rw [act_eq_complete]
    cases progress : sweep.prepare receiver act with
    | waits waiting =>
      rw [progress] at run
      exact ih run
    | movesOn moving =>
      rw [progress] at run
      simp only at run
      cases shape : advanceWithin receiver bound moving with
      | none =>
        rw [shape] at run
        cases run
      | some moved =>
        obtain ⟨first, after, failure⟩ := moved
        rw [shape] at run
        obtain ⟨⟨later, last⟩, remaining, same⟩ := Option.map_eq_some_iff.mp run
        cases same
        obtain ⟨requests_eq, advance_eq⟩ := advance_of_within shape
        obtain ⟨later_eq, last_eq⟩ := ih remaining
        change moving.requests receiver ++ requestsOf (moving.advance receiver).1 receiver rest = _ ∧
          actAll (moving.advance receiver).1 receiver rest = _
        rw [advance_eq, requests_eq, later_eq, last_eq]
        exact ⟨rfl, rfl⟩

end Sweep

def Receiver.willing : Receiver where
  tune _ _ _ := none
  currentTuning _ := none
  openFilter _ _ _ := none

end DvbScan
