import DvbScan.Proofs.CheckedTunings
import DvbScan.Tuning.Parser

/-!
# Tuning strings on a machine

A machine takes the tokens of a line by their places, after it has counted them, and makes a bandwidth of a number
of MHz in a word. In none of the grammars a place is out of range, so that the product is all that can go wrong.
-/

namespace DvbScan

namespace Tuning.Reading

theorem ne_of_number {token : String} {megahertz : UInt32}
    (number : Decimal.readWord? (withoutUnit (Ascii.upper token)) = some megahertz) :
    Ascii.upper token ≠ "AUTO" ∧ withoutUnit (Ascii.upper token) ≠ "1.712" := by
  constructor
  · intro automatic
    have none : Decimal.readWord? (withoutUnit "AUTO") = none := by decide
    rw [automatic, none] at number
    cases number
  · intro fraction
    have none : Decimal.readWord? "1.712" = none := by decide
    rw [fraction, none] at number
    cases number

theorem bandwidth_of_number {token : String} {megahertz : UInt32}
    (number : Decimal.readWord? (withoutUnit (Ascii.upper token)) = some megahertz) :
    bandwidth token = if megahertz.toNat * 1000000 < UInt32.size
      then .ok (megahertz * 1000000) else .error (.broken .product) := by
  obtain ⟨automatic, fraction⟩ := ne_of_number number
  simp only [bandwidth, field, if_neg automatic, if_neg fraction, number, bind, Except.bind]

end Tuning.Reading

/-- A computation on a line of tokens, which it may refuse. -/
abbrev Parsing (α : Type) := ExceptT ParseFault Machine α

def Parsing.of {α : Type} : Tuning.Reading α → Parsing α
  | .ok value => pure value
  | .error (.rejected fault) => throw fault
  | .error (.broken _) => liftM (Machine.fault .product : Machine α)

namespace CheckedLine

open Machine

variable {α β : Type}

def require (tokens : List String) (needed : Nat) : Parsing PUnit :=
  if tokens.length < needed then throw (.tooFewParameters needed tokens.length) else pure ⟨⟩

/-- The token at a place is looked up, and taken again if it has to be reported. -/
def value (tokens : List String) (field : TuningField) (place : Nat)
    (lookup : String → Machine (Option α)) : Parsing α := do
  let token ← (index tokens place : Machine String)
  match ← lookup token with
  | some value => pure value
  | none => do
    let token ← (index tokens place : Machine String)
    throw (.invalidToken field token)

def number (tokens : List String) (field : TuningField) (place : Nat) : Parsing UInt32 :=
  value tokens field place fun token => pure (Decimal.readWord? token)

def named (α : Type) [Coded α] (tokens : List String) (field : TuningField) (place : Nat) : Parsing α :=
  value tokens field place fun token => pure (Coded.ofToken? token)

def bandwidth? (token : String) : Machine (Option UInt32) :=
  let upper := Ascii.upper token
  let number := Tuning.Reading.withoutUnit upper
  if upper = "AUTO" then pure (some 0)
  else if number = "1.712" then pure (some 1712000)
  else
    match Decimal.readWord? number with
    | some megahertz => do
      let hertz ← mul .word megahertz.toNat 1000000
      pure (some (UInt32.ofNat hertz))
    | none => pure none

/-- Only an extended line of the second generation is asked for a shape. -/
def shape (system : DeliverySystem) (tokens : List String) : Parsing (Option Rolloff × Option Modulation) :=
  if 5 < tokens.length ∧ system = .dvbS2 then do
    require tokens 7
    let rolloff ← named Rolloff tokens .rolloff 5
    let modulation ← named Modulation tokens .modulation 6
    pure (some rolloff, some modulation)
  else pure (none, none)

def satellite (system? : Option DeliverySystem) (tokens : List String) : Parsing Tuning := do
  require tokens 5
  let system := system?.getD (if 5 < tokens.length then .dvbS2 else .dvbS)
  let (rolloff, modulation) ← shape system tokens
  let frequency ← number tokens .frequency 1
  let polarization ← named Polarization tokens .polarization 2
  let symbolRate ← number tokens .symbolRate 3
  let codeRate ← named CodeRate tokens .codeRate 4
  let transponder : Transponder :=
    { system, frequency, polarization, symbolRate, codeRate, rolloff, modulation }
  Checked.ofPairs transponder.properties

def multiplex (system : DeliverySystem) (tokens : List String) (base : Nat) (pipe : Option UInt32) :
    Parsing Tuning := do
  let frequency ← number tokens .frequency (base + 1)
  let bandwidth ← value tokens .bandwidth (base + 2) bandwidth?
  let codeRateHp ← named CodeRate tokens .codeRate (base + 3)
  let codeRateLp ← named CodeRate tokens .codeRate (base + 4)
  let modulation ← named Modulation tokens .modulation (base + 5)
  let transmissionMode ← named TransmissionMode tokens .transmissionMode (base + 6)
  let guardInterval ← named GuardInterval tokens .guardInterval (base + 7)
  let hierarchy ← named Hierarchy tokens .hierarchy (base + 8)
  let multiplex : Multiplex :=
    { system, frequency, bandwidth, codeRateHp, codeRateLp, modulation, transmissionMode, guardInterval,
      hierarchy, pipe }
  Checked.ofPairs multiplex.properties

def terrestrial (system : DeliverySystem) (tokens : List String) : Parsing Tuning := do
  let (base, pipe) ←
    if system = .dvbT2 then do
      require tokens 11
      let _ ← number tokens .systemId 2
      let pipe ← number tokens .pipe 1
      pure (2, some pipe)
    else do
      require tokens 9
      pure (0, none)
  multiplex system tokens base pipe

def readTokens (tokens : List String) : Parsing Tuning :=
  match tokens.head? with
  | none => throw .empty
  | some kind =>
    match Ascii.upper kind with
    | "S" => satellite none tokens
    | "S1" => satellite (some .dvbS) tokens
    | "S2" => satellite (some .dvbS2) tokens
    | "T" | "T1" => terrestrial .dvbT tokens
    | "T2" => terrestrial .dvbT2 tokens
    | _ => throw (.invalidType kind)

def parse (text : String) : Machine (Except ParseError Tuning) := do
  let result ← (readTokens (Tuning.significantTokens text)).run
  pure (result.mapError fun fault => { input := text, fault })

open Tuning (Reading)
open Parsing (of)

theorem bind_of {reading : Reading α} {next : α → Parsing β} {after : α → Reading β}
    (agree : ∀ value, next value = of (after value)) : of reading >>= next = of (reading >>= after) := by
  cases reading with
  | ok value => exact (pure_bind value next).trans (agree value)
  | error failure =>
    cases failure with
    | rejected fault => rfl
    | broken step => rfl

theorem bind_of_map {γ : Type} {reading : Reading α} {next : α → Parsing γ} {after : α → Reading β}
    {change : β → γ} (agree : ∀ value, next value = of ((after value).map change)) :
    of reading >>= next = of ((reading >>= after).map change) := by
  have mapped : (reading >>= after).map change = reading >>= fun value => (after value).map change := by
    cases reading <;> rfl
  rw [mapped]
  exact bind_of agree

variable {tokens : List String} {token : String} {place : Nat}

def found (field : TuningField) (token : String) : Option α → Parsing α
  | some value => pure value
  | none => throw (.invalidToken field token)

theorem value_eq (stands : tokens[place]? = some token) (field : TuningField)
    (lookup : String → Machine (Option α)) :
    value tokens field place lookup = liftM (lookup token) >>= found field token := by
  have taken : index tokens place = pure token := by
    unfold index
    rw [stands]
  unfold value
  rw [taken]
  refine congrArg ((liftM (lookup token) : Parsing (Option α)) >>= ·) (funext fun value? => ?_)
  cases value? <;> rfl

theorem field_eq (stands : tokens[place]? = some token) (field : TuningField) (read? : String → Option α) :
    value tokens field place (fun token => pure (read? token)) = of (Reading.field field read? token) := by
  rw [value_eq stands]
  unfold Reading.field
  cases read? token <;> rfl

/-- The product fits exactly if the plain reading does not break down. -/
theorem hertz_eq (megahertz : UInt32) :
    (do
      let hertz ← (mul .word megahertz.toNat 1000000 : Machine Nat)
      pure (UInt32.ofNat hertz) : Parsing UInt32) =
    of (if megahertz.toNat * 1000000 < UInt32.size then .ok (megahertz * 1000000)
      else .error (.broken .product)) := by
  have hertz : UInt32.ofNat (megahertz.toNat * 1000000) = megahertz * 1000000 := by
    rw [UInt32.ofNat_mul, UInt32.ofNat_toNat]
    rfl
  by_cases fits : megahertz.toNat * 1000000 < UInt32.size
  · rw [if_pos fits, mul_word fits, ← hertz]
    rfl
  · have product : mul .word megahertz.toNat 1000000 = fault .product := if_neg fits
    rw [if_neg fits, product]
    rfl

theorem found_of_product (product : Machine Nat) (field : TuningField) (token : String) :
    (liftM (do
        let hertz ← product
        pure (some (UInt32.ofNat hertz)) : Machine (Option UInt32)) >>= found field token : Parsing UInt32) = (do
      let hertz ← product
      pure (UInt32.ofNat hertz)) := by
  -- for any product: if its factors were known, the cases would be decided by multiplying
  rcases product with _ | (stop | hertz) <;> rfl

theorem bandwidth_eq (stands : tokens[place]? = some token) :
    value tokens .bandwidth place bandwidth? = of (Reading.bandwidth token) := by
  rw [value_eq stands]
  cases number : Decimal.readWord? (Reading.withoutUnit (Ascii.upper token)) with
  | some megahertz =>
    obtain ⟨automatic, fraction⟩ := Reading.ne_of_number number
    rw [Reading.bandwidth_of_number number, ← hertz_eq, ← found_of_product _ .bandwidth token]
    simp only [bandwidth?, if_neg automatic, if_neg fraction, number]
  | none =>
    simp only [bandwidth?, Reading.bandwidth, Reading.field, number]
    split
    · rfl
    split
    · rfl
    · rfl

theorem require_of_le {needed : Nat} (enough : needed ≤ tokens.length) : require tokens needed = pure ⟨⟩ :=
  if_neg (Nat.not_lt_of_le enough)

theorem require_of_lt {needed : Nat} (fewer : tokens.length < needed) :
    require tokens needed = throw (.tooFewParameters needed tokens.length) :=
  if_pos fewer

theorem ofPairs_eq (pairs : List (PropertyKey × UInt32)) :
    (liftM (Checked.ofPairs pairs) : Parsing Tuning) = pure (.ofPairs pairs) := by
  rw [Checked.ofPairs_eq]
  rfl

theorem multiplex_eq {system : DeliverySystem} {pipe : Option UInt32} {fields : List String} {base : Nat}
    (stands : ∀ offset, tokens[base + offset + 1]? = fields[offset]?) (enough : 8 ≤ fields.length)
    (fewer : ParseFault) : multiplex system tokens base pipe =
      of ((Tuning.readMultiplex system pipe fewer fields).map Multiplex.toTuning) := by
  match fields with
  | frequency :: bandwidth :: codeRateHp :: codeRateLp :: modulation :: transmissionMode :: guardInterval ::
      hierarchy :: rest =>
    unfold multiplex Tuning.readMultiplex number named
    rw [field_eq (stands 0), bandwidth_eq (stands 1), field_eq (stands 2), field_eq (stands 3),
      field_eq (stands 4), field_eq (stands 5), field_eq (stands 6), field_eq (stands 7)]
    refine bind_of_map fun frequency => bind_of_map fun bandwidth => bind_of_map fun codeRateHp => ?_
    refine bind_of_map fun codeRateLp => bind_of_map fun modulation => bind_of_map fun transmissionMode => ?_
    refine bind_of_map fun guardInterval => bind_of_map fun hierarchy => ?_
    exact ofPairs_eq _

theorem readMultiplex_of_short {system : DeliverySystem} {pipe : Option UInt32} {fewer : ParseFault}
    {fields : List String} (short : fields.length < 8) :
    Tuning.readMultiplex system pipe fewer fields = Reading.reject fewer := by
  unfold Tuning.readMultiplex
  split
  next => simp at short; omega
  next => rfl

theorem terrestrial_first (kind : String) (fields : List String) : terrestrial .dvbT (kind :: fields) =
    of ((Tuning.readFirstGeneration fields).map Multiplex.toTuning) := by
  have length : (kind :: fields).length = fields.length + 1 := rfl
  unfold terrestrial Tuning.readFirstGeneration
  rw [if_neg (by decide)]
  by_cases enough : 9 ≤ fields.length + 1
  · have stands (offset : Nat) : (kind :: fields)[0 + offset + 1]? = fields[offset]? := by simp
    rw [require_of_le enough, pure_bind, pure_bind]
    exact multiplex_eq stands (Nat.le_of_succ_le_succ enough) _
  · rw [require_of_lt (by omega), readMultiplex_of_short (by omega)]
    rfl

theorem terrestrial_second (kind : String) (fields : List String) : terrestrial .dvbT2 (kind :: fields) =
    of ((Tuning.readSecondGeneration fields).map Multiplex.toTuning) := by
  unfold terrestrial Tuning.readSecondGeneration
  rw [if_pos rfl]
  by_cases enough : 10 ≤ fields.length
  · match fields with
    | pipe :: systemId :: rest =>
      have stands (offset : Nat) : (kind :: pipe :: systemId :: rest)[2 + offset + 1]? = rest[offset]? := by
        rw [show 2 + offset + 1 = offset + 3 by omega]
        rfl
      have systemIdToken : (kind :: pipe :: systemId :: rest)[2]? = some systemId := rfl
      have pipeToken : (kind :: pipe :: systemId :: rest)[1]? = some pipe := rfl
      unfold number
      rw [require_of_le (by simpa using enough), if_neg (by omega), field_eq systemIdToken, field_eq pipeToken]
      simp only [pure_bind]
      refine bind_of_map fun _ => bind_of_map fun pipe => ?_
      exact multiplex_eq stands (by simpa using enough) _
  · rw [require_of_lt (by simp; omega), if_pos (by omega)]
    rfl

theorem shape_eq (system : DeliverySystem) (kind frequency polarization symbolRate codeRate : String)
    (extension : List String) :
    shape system (kind :: frequency :: polarization :: symbolRate :: codeRate :: extension) =
      of (Tuning.readShape system extension) := by
  unfold shape
  by_cases second : system = .dvbS2
  · subst second
    match extension with
    | [] => rfl
    | [_] => rfl
    | rolloff :: modulation :: rest =>
      have rolloffToken : (kind :: frequency :: polarization :: symbolRate :: codeRate :: rolloff ::
          modulation :: rest)[5]? = some rolloff := rfl
      have modulationToken : (kind :: frequency :: polarization :: symbolRate :: codeRate :: rolloff ::
          modulation :: rest)[6]? = some modulation := rfl
      unfold named
      rw [if_pos ⟨by simp, rfl⟩, require_of_le (by simp), pure_bind, field_eq rolloffToken,
        field_eq modulationToken]
      exact bind_of fun rolloff => bind_of fun modulation => rfl
  · rw [if_neg fun given => second given.2]
    cases system with
    | dvbS2 => exact absurd rfl second
    | _ => rfl

theorem satellite_eq (kind : String) (system? : Option DeliverySystem) (fields : List String) :
    satellite system? (kind :: fields) =
      of ((Tuning.readTransponder system? fields).map Transponder.toTuning) := by
  match fields with
  | [] | [_] | [_, _] | [_, _, _] => rfl
  | frequency :: polarization :: symbolRate :: codeRate :: extension =>
    have extended : (if 5 < (kind :: frequency :: polarization :: symbolRate :: codeRate :: extension).length
        then DeliverySystem.dvbS2 else .dvbS) = if extension.isEmpty then .dvbS else .dvbS2 := by
      cases extension <;> simp
    have frequencyToken : (kind :: frequency :: polarization :: symbolRate :: codeRate ::
        extension)[1]? = some frequency := rfl
    have polarizationToken : (kind :: frequency :: polarization :: symbolRate :: codeRate ::
        extension)[2]? = some polarization := rfl
    have symbolRateToken : (kind :: frequency :: polarization :: symbolRate :: codeRate ::
        extension)[3]? = some symbolRate := rfl
    have codeRateToken : (kind :: frequency :: polarization :: symbolRate :: codeRate ::
        extension)[4]? = some codeRate := rfl
    unfold satellite Tuning.readTransponder number named
    rw [require_of_le (by simp), pure_bind, extended, field_eq frequencyToken, field_eq polarizationToken,
      field_eq symbolRateToken, field_eq codeRateToken]
    simp only [shape_eq]
    refine bind_of_map fun shape => bind_of_map fun frequency => bind_of_map fun polarization => ?_
    refine bind_of_map fun symbolRate => bind_of_map fun codeRate => ?_
    exact ofPairs_eq _

theorem readTokens_eq (tokens : List String) : readTokens tokens = of (Tuning.readTokens tokens) := by
  cases tokens with
  | nil => rfl
  | cons kind fields =>
    unfold Tuning.readTokens
    simp only
    split
    next name =>
      simp only [readTokens, List.head?_cons, name]
      exact satellite_eq kind none fields
    next name =>
      simp only [readTokens, List.head?_cons, name]
      exact satellite_eq kind (some .dvbS) fields
    next name =>
      simp only [readTokens, List.head?_cons, name]
      exact satellite_eq kind (some .dvbS2) fields
    next name =>
      simp only [readTokens, List.head?_cons, name]
      exact terrestrial_first kind fields
    next name =>
      simp only [readTokens, List.head?_cons, name]
      exact terrestrial_first kind fields
    next name =>
      simp only [readTokens, List.head?_cons, name]
      exact terrestrial_second kind fields
    next =>
      simp only [readTokens, List.head?_cons]
      rfl

theorem parse_of_broken {text : String} {step : Breakdown} (broken : Tuning.parse text = .error (.broken step)) :
    parse text = fault .product := by
  unfold Tuning.parse at broken
  unfold parse
  rw [readTokens_eq]
  cases outcome : Tuning.readTokens (Tuning.significantTokens text) with
  | ok tuning => rw [outcome] at broken; cases broken
  | error failure =>
    cases failure with
    | rejected reason => rw [outcome] at broken; cases broken
    | broken step => rfl

theorem parse_of_answer {text : String} {answer : Except ParseError Tuning}
    (answered : Tuning.parse text = answer.mapError .rejected) : parse text = pure answer := by
  unfold Tuning.parse at answered
  unfold parse
  rw [readTokens_eq]
  cases outcome : Tuning.readTokens (Tuning.significantTokens text) with
  | ok tuning =>
    rw [outcome] at answered
    cases answer with
    | ok same => cases answered; rfl
    | error reason => cases answered
  | error failure =>
    rw [outcome] at answered
    cases failure with
    | rejected reason =>
      cases answer with
      | ok tuning => cases answered
      | error same => cases answered; rfl
    | broken step => cases answer <;> cases answered

end CheckedLine

end DvbScan
