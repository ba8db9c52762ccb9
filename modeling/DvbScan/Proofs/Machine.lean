import DvbScan.Proofs.Result
import DvbScan.Si.Bytes

/-!
# Computing on a machine

The numbers of this library have any size, its lists have an answer for every index, and its recursions end by
construction. A machine has words of a fixed width, refuses an index that is out of range, and repeats a step
until it is told to stop. Here are its operations, each with what can go wrong in it. A computation made of them
in which nothing goes wrong has the result of a plain one.
-/

namespace DvbScan

inductive Misstep where
  /-- A sum that does not fit its word. -/
  | sum
  /-- A difference below zero. -/
  | difference
  | product
  /-- A division by zero. -/
  | quotient
  /-- A shift by the width of the word or more. -/
  | shift
  | index
  | slice
  /-- Pieces of no length. -/
  | piece
  deriving DecidableEq, Repr

/-- Why a computation stops without a value: it refuses its input, or it cannot go on. -/
inductive Stop where
  | refused (reason : SiError)
  | misstep (step : Misstep)
  deriving DecidableEq, Repr

/-- A computation; one that never ends is `none`. -/
abbrev Machine (α : Type) := ExceptT Stop Option α

/-- The widths of words; offsets, lengths and keys have the largest. -/
inductive Width where
  | byte | half | word | size
  deriving DecidableEq, Repr

def Width.bits : Width → Nat
  | byte => 8
  | half => 16
  | word => 32
  | size => 64

def Width.values (width : Width) : Nat := 1 <<< width.bits

namespace Machine

variable {α β σ : Type}

def fault (step : Misstep) : Machine α := throw (.misstep step)

def refuse (reason : SiError) : Machine α := throw (.refused reason)

def of : Except SiError α → Machine α
  | .ok value => pure value
  | .error reason => refuse reason

def attempt (computation : Machine α) : Machine (Except SiError α) :=
  ExceptT.mk <| computation.run.map fun
    | .ok value => .ok (.ok value)
    | .error (.refused reason) => .ok (.error reason)
    | .error (.misstep step) => .error (.misstep step)

/-- The computation ends, and gives the value or refuses for the reason of a plain result. -/
def Gives (computation : Machine α) (result : Except SiError α) : Prop :=
  computation.run = some (result.mapError .refused)

def add (width : Width) (first second : Nat) : Machine Nat :=
  if first + second < width.values then pure (first + second) else fault .sum

def sub (first second : Nat) : Machine Nat :=
  if second ≤ first then pure (first - second) else fault .difference

def mul (width : Width) (first second : Nat) : Machine Nat :=
  if first * second < width.values then pure (first * second) else fault .product

def quotient (dividend divisor : Nat) : Machine Nat :=
  if 0 < divisor then pure (dividend / divisor) else fault .quotient

def remainder (dividend divisor : Nat) : Machine Nat :=
  if 0 < divisor then pure (dividend % divisor) else fault .quotient

/-- Bits beyond the word are lost. -/
def shiftLeft (width : Width) (value count : Nat) : Machine Nat :=
  if count < width.bits then pure ((value <<< count) % width.values) else fault .shift

def index (items : List α) (place : Nat) : Machine α :=
  match items[place]? with
  | some item => pure item
  | none => fault .index

def slice (items : List α) (start stop : Nat) : Machine (List α) :=
  if start ≤ stop ∧ stop ≤ items.length then pure ((items.drop start).take (stop - start))
  else fault .slice

def insertAt (items : List α) (place : Nat) (item : α) : Machine (List α) :=
  if place ≤ items.length then pure (items.take place ++ item :: items.drop place) else fault .index

def loopFor (step : σ → Machine (σ ⊕ α)) : Nat → σ → Machine α
  | 0, _ => ExceptT.mk none
  | turns + 1, state => do
    match ← step state with
    | .inl next => loopFor step turns next
    | .inr result => pure result

open Classical in
/-- Repeats a step until it gives a result. The loop never ends if no number of turns is enough. -/
noncomputable def loop (step : σ → Machine (σ ⊕ α)) (state : σ) : Machine α :=
  if ends : ∃ turns outcome, (loopFor step turns state).run = some outcome then
    loopFor step ends.choose state
  else ExceptT.mk none

/-- One turn of a loop through entries. A reader gives the entry at a position and the position behind it. -/
def gatherStep (more : Nat → Machine Bool) (readAt : Nat → Machine (α × Nat)) (state : Nat × List α) :
    Machine ((Nat × List α) ⊕ List α) := do
  if ← more state.1 then do
    let (entry, next) ← readAt state.1
    pure (.inl (next, state.2 ++ [entry]))
  else pure (.inr state.2)

noncomputable def gather (more : Nat → Machine Bool) (readAt : Nat → Machine (α × Nat)) (start : Nat) :
    Machine (List α) :=
  loop (gatherStep more readAt) (start, [])

section loops

variable {step : σ → Machine (σ ⊕ α)} {state : σ}

/-- More turns do not change the outcome of a loop that has ended. -/
theorem loopFor_mono {turns : Nat} {outcome : Except Stop α}
    (ended : (loopFor step turns state).run = some outcome) (more : Nat) :
    (loopFor step (turns + more) state).run = some outcome := by
  induction turns generalizing state with
  | zero => cases ended
  | succ turns ih =>
    rw [Nat.add_right_comm]
    unfold loopFor at ended ⊢
    rcases first : step state with _ | (stop | (next | result)) <;> rw [first] at ended
    · cases ended
    · exact ended
    · exact ih ended
    · exact ended

theorem loop_of_ended {turns : Nat} {outcome : Except Stop α}
    (ended : (loopFor step turns state).run = some outcome) : (loop step state).run = some outcome := by
  have ends : ∃ turns outcome, (loopFor step turns state).run = some outcome := ⟨turns, outcome, ended⟩
  obtain ⟨other, found⟩ := ends.choose_spec
  have same := loopFor_mono found turns
  rw [Nat.add_comm, loopFor_mono ended] at same
  unfold loop
  rw [dif_pos ends, found, same]

theorem loop_of_endless (endless : ∀ turns, (loopFor step turns state).run = none) :
    (loop step state).run = none := by
  unfold loop
  rw [dif_neg]
  · rfl
  · rintro ⟨turns, outcome, ended⟩
    rw [endless turns] at ended
    cases ended

theorem loop_eq (step : σ → Machine (σ ⊕ α)) (state : σ) : loop step state = (do
    match ← step state with
    | .inl next => loop step next
    | .inr result => pure result) := by
  change (loop step state).run = ExceptT.run _
  rcases first : step state with _ | (stop | (next | result))
  · refine loop_of_endless fun turns => ?_
    cases turns with
    | zero => rfl
    | succ turns =>
      unfold loopFor
      rw [first]
      rfl
  · have ended : (loopFor step 1 state).run = some (.error stop) := by
      unfold loopFor
      rw [first]
      rfl
    exact loop_of_ended ended
  · by_cases ends : ∃ turns outcome, (loopFor step turns next).run = some outcome
    · obtain ⟨turns, outcome, ended⟩ := ends
      have later : (loopFor step (turns + 1) state).run = some outcome := by
        unfold loopFor
        rw [first]
        exact ended
      exact (loop_of_ended later).trans (loop_of_ended ended).symm
    · have endless (turns : Nat) : (loopFor step turns next).run = none := by
        cases outcome : (loopFor step turns next).run with
        | none => rfl
        | some value => exact absurd ⟨turns, value, outcome⟩ ends
      refine (loop_of_endless fun turns => ?_).trans (loop_of_endless endless).symm
      cases turns with
      | zero => rfl
      | succ turns =>
        unfold loopFor
        rw [first]
        exact endless turns
  · have ended : (loopFor step 1 state).run = some (.ok result) := by
      unfold loopFor
      rw [first]
      rfl
    exact loop_of_ended ended

end loops

variable {width : Width} {first second place start stop : Nat}

@[simp]
theorem of_ok (value : α) : of (.ok value) = pure value := rfl

theorem add_eq (fits : first + second < width.values) : add width first second = pure (first + second) :=
  if_pos fits

theorem sub_eq (fits : second ≤ first) : sub first second = pure (first - second) := if_pos fits

theorem mul_eq (fits : first * second < width.values) : mul width first second = pure (first * second) :=
  if_pos fits

theorem add_word (fits : first + second < 4294967296) : add .word first second = pure (first + second) :=
  add_eq fits

theorem mul_word (fits : first * second < 4294967296) : mul .word first second = pure (first * second) :=
  mul_eq fits

theorem quotient_eq (positive : 0 < second) : quotient first second = pure (first / second) :=
  if_pos positive

theorem remainder_eq (positive : 0 < second) : remainder first second = pure (first % second) :=
  if_pos positive

theorem index_eq {items : List α} (inside : place < items.length) : index items place = pure items[place] := by
  unfold index
  rw [List.getElem?_eq_getElem inside]

theorem slice_eq {items : List α} (ordered : start ≤ stop) (inside : stop ≤ items.length) :
    slice items start stop = pure ((items.drop start).take (stop - start)) :=
  if_pos ⟨ordered, inside⟩

theorem gives_of {computation : Machine α} {result : Except SiError α}
    (plain : computation = of result) : computation.Gives result := by
  rw [plain]
  cases result with
  | error reason => rfl
  | ok value => rfl

/-- A step after a plain one is taken only with a value that the plain one can give. -/
theorem bind_of {plain : Except SiError α} {next : α → Machine β} {after : α → Except SiError β}
    (agree : ∀ value, plain = .ok value → next value = of (after value)) :
    of plain >>= next = of (plain >>= after) := by
  cases plain with
  | error reason => rfl
  | ok value => exact (pure_bind value next).trans (agree value rfl)

theorem bind_of_map {γ : Type} {plain : Except SiError α} {next : α → Machine γ}
    {after : α → Except SiError β} {change : β → γ}
    (agree : ∀ value, plain = .ok value → next value = of ((after value).map change)) :
    of plain >>= next = of ((plain >>= after).map change) := by
  cases plain with
  | error reason => rfl
  | ok value => exact (pure_bind value next).trans (agree value rfl)

theorem of_map (plain : Except SiError α) (change : α → β) :
    of (plain.map change) = of plain >>= fun value => pure (change value) := by
  cases plain with
  | error reason => rfl
  | ok value => rfl

@[simp]
theorem attempt_of (plain : Except SiError α) : attempt (of plain) = pure plain := by
  cases plain with
  | error reason => rfl
  | ok value => rfl

theorem mapM_of {plain : α → Except SiError β} {step : α → Machine β} {items : List α}
    (agree : ∀ item ∈ items, step item = of (plain item)) : items.mapM step = of (items.mapM plain) := by
  induction items with
  | nil => rfl
  | cons item rest ih =>
    rw [List.mapM_cons, List.mapM_cons, agree item List.mem_cons_self,
      ih fun other member => agree other (List.mem_cons_of_mem item member)]
    refine bind_of fun value _ => bind_of fun values _ => rfl

/-- Entries that a plain recursion reads. Each takes room below a bound, so that the loop ends. -/
theorem gather_of {more : Nat → Machine Bool} {readAt : Nat → Machine (α × Nat)}
    {isMore : Nat → Bool} {plainAt : Nat → Except SiError (α × Nat)}
    {plain : Nat → Except SiError (List α)} {start : Nat} (bound : Nat)
    (asks : ∀ position ≤ bound, more position = pure (isMore position))
    (reads : ∀ position ≤ bound, isMore position = true → readAt position = of (plainAt position))
    (onward : ∀ position entry next, isMore position = true → plainAt position = .ok (entry, next) →
      position < next ∧ next ≤ bound)
    (ends : ∀ position, isMore position = false → plain position = .ok [])
    (goesOn : ∀ position, isMore position = true → plain position =
      plainAt position >>= fun read => (plain read.2).map (read.1 :: ·))
    (inside : start ≤ bound) : gather more readAt start = of (plain start) := by
  have whole (left position : Nat) (found : List α) (inside : position ≤ bound)
      (rest : bound - position = left) :
      loop (gatherStep more readAt) (position, found) = of ((plain position).map (found ++ ·)) := by
    -- on the room that is left below the bound
    induction left using Nat.strongRecOn generalizing position found with
    | ind left ih =>
      rw [loop_eq, gatherStep, asks position inside, pure_bind]
      cases again : isMore position with
      | false =>
        rw [ends position again]
        change (pure found : Machine (List α)) = pure (found ++ [])
        rw [List.append_nil]
      | true =>
        rw [if_pos rfl, reads position inside again, goesOn position again]
        cases read : plainAt position with
        | error reason => rfl
        | ok taken =>
          obtain ⟨entry, next⟩ := taken
          obtain ⟨later, within⟩ := onward position entry next again read
          refine (ih _ (by omega) next (found ++ [entry]) within rfl).trans ?_
          change _ = of (((plain next).map (entry :: ·)).map (found ++ ·))
          cases plain next with
          | error reason => rfl
          | ok others =>
            change (pure (found ++ [entry] ++ others) : Machine (List α)) = pure (found ++ entry :: others)
            rw [List.append_assoc, List.singleton_append]
  have all := whole _ start [] inside rfl
  rw [of_map] at all
  exact all.trans (bind_pure _)

end Machine

end DvbScan
