import DvbScan.Proofs.RefusedLines
import Mathlib.Control.Monad.Basic

/-!
# Letter case

A line means what it means in capitals. A token is looked up, taken for a number or refused as the same token in
capitals, so that two lines with the same tokens but for the case of letters come to the same tuning or to the same
fault. Blanks and the comment are not part of the tokens.
-/

namespace DvbScan

namespace Ascii

theorem toNat_toUpper (c : Char) :
    c.toUpper.toNat = if 97 ≤ c.toNat ∧ c.toNat ≤ 122 then c.toNat - 32 else c.toNat := by
  by_cases small : 97 ≤ c.toNat ∧ c.toNat ≤ 122
  · have letter : 'a'.val ≤ c.val ∧ c.val ≤ 'z'.val :=
      ⟨UInt32.le_iff_toNat_le.mpr small.1, UInt32.le_iff_toNat_le.mpr small.2⟩
    have distance : ('A'.val - 'a'.val).toNat = 4294967264 := by decide
    have capital : c.toUpper = ⟨c.val + ('A'.val - 'a'.val), _⟩ := dif_pos letter
    have code : c.val.toNat = c.toNat := Char.toNat_val
    rw [if_pos small, capital, ← Char.toNat_val, UInt32.toNat_add, distance, code]
    omega
  · have other : ¬('a'.val ≤ c.val ∧ c.val ≤ 'z'.val) := fun letter =>
      small ⟨UInt32.le_iff_toNat_le.mp letter.1, UInt32.le_iff_toNat_le.mp letter.2⟩
    rw [if_neg small]
    exact congrArg Char.toNat (dif_neg other)

theorem toUpper_toUpper (c : Char) : c.toUpper.toUpper = c.toUpper := by
  have upper := toNat_toUpper c
  apply Char.toNat_inj.mp
  rw [toNat_toUpper c.toUpper]
  split at upper <;> exact if_neg (by omega)

theorem toList_upper (text : String) : (upper text).toList = text.toList.map Char.toUpper :=
  String.toList_ofList

@[simp] theorem upper_upper (text : String) : upper (upper text) = upper text := by
  have letters : (text.toList.map Char.toUpper).map Char.toUpper = text.toList.map Char.toUpper := by
    rw [List.map_map]
    exact List.map_congr_left fun c _ => toUpper_toUpper c
  rw [upper, toList_upper, letters]
  rfl

end Ascii

theorem Coded.ofToken?_upper {α : Type} [Coded α] (token : String) :
    (ofToken? (Ascii.upper token) : Option α) = ofToken? token := by
  simp only [ofToken?, Ascii.equalIgnoringCase, Ascii.upper_upper]

namespace Decimal

theorem digit?_toUpper (c : Char) : digit? c.toUpper = digit? c := by
  have upper := Ascii.toNat_toUpper c
  have digits (d : Char) : ('0' ≤ d ∧ d ≤ '9') ↔ 48 ≤ d.toNat ∧ d.toNat ≤ 57 :=
    and_congr UInt32.le_iff_toNat_le UInt32.le_iff_toNat_le
  unfold digit?
  simp only [digits]
  split at upper
  next small => rw [if_neg (by omega), if_neg (by omega)]
  next other => rw [upper]

theorem continueDigits_toUpper (sofar : Nat) (text : List Char) :
    continueDigits sofar (text.map Char.toUpper) = continueDigits sofar text := by
  induction text generalizing sofar with
  | nil => rfl
  | cons c text ih => simp only [List.map_cons, continueDigits, digit?_toUpper, ih]

theorem digits?_toUpper (text : List Char) : digits? (text.map Char.toUpper) = digits? text := by
  cases text with
  | nil => rfl
  | cons c text => exact continueDigits_toUpper 0 (c :: text)

theorem toUpper_eq_plus {c : Char} (plus : c.toUpper = '+') : c = '+' := by
  have upper := Ascii.toNat_toUpper c
  rw [plus] at upper
  change 43 = _ at upper
  apply Char.toNat_inj.mp
  change c.toNat = 43
  split at upper <;> omega

theorem readBelow?_upper (limit : Nat) (text : String) :
    readBelow? limit (Ascii.upper text) = readBelow? limit text := by
  unfold readBelow?
  rw [Ascii.toList_upper]
  cases text.toList with
  | nil => rfl
  | cons c rest =>
    by_cases plus : c = '+'
    · subst plus
      have number := digits?_toUpper rest
      exact congrArg (·.bind fun number => if number < limit then some number else none) number
    · have other : c.toUpper ≠ '+' := fun same => plus (toUpper_eq_plus same)
      have number := digits?_toUpper (c :: rest)
      rw [List.map_cons] at number ⊢
      simp [plus, other, number]

theorem readWord?_upper (text : String) : readWord? (Ascii.upper text) = readWord? text :=
  congrArg (Option.map UInt32.ofNat) (readBelow?_upper UInt32.size text)

end Decimal

/-- The fault with its token in capitals. Faults that agree in capitals are of one kind, with one field or with the
same numbers of tokens. -/
def ParseFault.inCapitals : ParseFault → ParseFault
  | empty => empty
  | invalidType token => invalidType (Ascii.upper token)
  | tooFewParameters needed got => tooFewParameters needed got
  | invalidToken field token => invalidToken field (Ascii.upper token)

namespace Tuning

namespace Reading

variable {α β : Type} {reading reading' : Reading α}

def inCapitals (reading : Reading α) : Reading α := reading.mapError (Failure.map ParseFault.inCapitals)

theorem inCapitals_bind {next next' : α → Reading β} (same : inCapitals reading = inCapitals reading')
    (after : ∀ value, inCapitals (next value) = inCapitals (next' value)) :
    inCapitals (reading >>= next) = inCapitals (reading' >>= next') := by
  cases reading with
  | ok value =>
    cases reading' with
    | ok value' => exact Except.ok.inj same ▸ after value
    | error failure => cases same
  | error failure =>
    cases reading' with
    | ok value => cases same
    | error failure' => exact congrArg Except.error (Except.error.inj same)

theorem inCapitals_map (same : inCapitals reading = inCapitals reading') (change : α → β) :
    inCapitals (reading.map change) = inCapitals (reading'.map change) := by
  change inCapitals (reading >>= fun value => .ok (change value)) =
    inCapitals (reading' >>= fun value => .ok (change value))
  exact inCapitals_bind same fun _ => rfl

theorem inCapitals_field (field : TuningField) {read? : String → Option α} {token : String}
    (same : read? (Ascii.upper token) = read? token) :
    inCapitals (Reading.field field read? (Ascii.upper token)) = inCapitals (Reading.field field read? token) := by
  unfold Reading.field
  rw [same]
  cases read? token with
  | some value => rfl
  | none => exact congrArg (Reading.reject ∘ ParseFault.invalidToken field) (Ascii.upper_upper token)

theorem inCapitals_word (field : TuningField) (token : String) :
    inCapitals (word field (Ascii.upper token)) = inCapitals (word field token) :=
  inCapitals_field field (Decimal.readWord?_upper token)

theorem inCapitals_named [Coded α] (field : TuningField) (token : String) :
    inCapitals (named α field (Ascii.upper token)) = inCapitals (named α field token) :=
  inCapitals_field field (Coded.ofToken?_upper token)

/-- A bandwidth is read in capitals; as it was written it is only reported. -/
theorem inCapitals_bandwidth (token : String) :
    inCapitals (bandwidth (Ascii.upper token)) = inCapitals (bandwidth token) := by
  unfold bandwidth
  simp only [Ascii.upper_upper]
  split
  · rfl
  split
  · rfl
  · exact inCapitals_bind (inCapitals_field .bandwidth rfl) fun _ => rfl

end Reading

open Reading

theorem inCapitals_readShape (system : DeliverySystem) (extension : List String) :
    inCapitals (readShape system (extension.map Ascii.upper)) = inCapitals (readShape system extension) := by
  match extension with
  | [] | [_] => cases system <;> rfl
  | rolloff :: modulation :: rest =>
    cases system with
    | dvbS2 =>
      refine inCapitals_bind (inCapitals_named .rolloff rolloff) fun rolloff => ?_
      exact inCapitals_bind (inCapitals_named .modulation modulation) fun modulation => rfl
    | _ => rfl

theorem inCapitals_readTransponder (system? : Option DeliverySystem) (fields : List String) :
    inCapitals (readTransponder system? (fields.map Ascii.upper)) = inCapitals (readTransponder system? fields) := by
  match fields with
  | [] | [_] | [_, _] | [_, _, _] => rfl
  | frequency :: polarization :: symbolRate :: codeRate :: extension =>
    simp only [List.map_cons, readTransponder, List.isEmpty_map]
    refine inCapitals_bind (inCapitals_readShape _ extension) fun shape => ?_
    refine inCapitals_bind (inCapitals_word .frequency frequency) fun frequency => ?_
    refine inCapitals_bind (inCapitals_named .polarization polarization) fun polarization => ?_
    refine inCapitals_bind (inCapitals_word .symbolRate symbolRate) fun symbolRate => ?_
    exact inCapitals_bind (inCapitals_named .codeRate codeRate) fun codeRate => rfl

theorem inCapitals_readMultiplex (system : DeliverySystem) (pipe : Option UInt32) (fewer : ParseFault)
    (fields : List String) : inCapitals (readMultiplex system pipe fewer (fields.map Ascii.upper)) =
      inCapitals (readMultiplex system pipe fewer fields) := by
  match fields with
  | frequency :: bandwidth :: codeRateHp :: codeRateLp :: modulation :: transmissionMode :: guardInterval ::
      hierarchy :: rest =>
    refine inCapitals_bind (inCapitals_word .frequency frequency) fun frequency => ?_
    refine inCapitals_bind (inCapitals_bandwidth bandwidth) fun bandwidth => ?_
    refine inCapitals_bind (inCapitals_named .codeRate codeRateHp) fun codeRateHp => ?_
    refine inCapitals_bind (inCapitals_named .codeRate codeRateLp) fun codeRateLp => ?_
    refine inCapitals_bind (inCapitals_named .modulation modulation) fun modulation => ?_
    refine inCapitals_bind (inCapitals_named .transmissionMode transmissionMode) fun transmissionMode => ?_
    refine inCapitals_bind (inCapitals_named .guardInterval guardInterval) fun guardInterval => ?_
    exact inCapitals_bind (inCapitals_named .hierarchy hierarchy) fun hierarchy => rfl
  | [] | [_] | [_, _] | [_, _, _] | [_, _, _, _] | [_, _, _, _, _] | [_, _, _, _, _, _]
  | [_, _, _, _, _, _, _] => rfl

theorem inCapitals_readFirstGeneration (fields : List String) :
    inCapitals (readFirstGeneration (fields.map Ascii.upper)) = inCapitals (readFirstGeneration fields) := by
  unfold readFirstGeneration
  rw [List.length_map]
  exact inCapitals_readMultiplex _ _ _ fields

theorem inCapitals_readSecondGeneration (fields : List String) :
    inCapitals (readSecondGeneration (fields.map Ascii.upper)) = inCapitals (readSecondGeneration fields) := by
  unfold readSecondGeneration
  simp only [List.length_map]
  split
  · rfl
  · match fields with
    | [] | [_] => rfl
    | pipe :: systemId :: rest =>
      refine inCapitals_bind (inCapitals_word .systemId systemId) fun _ => ?_
      refine inCapitals_bind (inCapitals_word .pipe pipe) fun pipe => ?_
      exact inCapitals_readMultiplex _ _ _ rest

theorem inCapitals_readTokens (tokens : List String) :
    inCapitals (readTokens (tokens.map Ascii.upper)) = inCapitals (readTokens tokens) := by
  cases tokens with
  | nil => rfl
  | cons kind fields =>
    simp only [List.map_cons, readTokens, Ascii.upper_upper]
    split
    next => exact inCapitals_map (inCapitals_readTransponder none fields) _
    next => exact inCapitals_map (inCapitals_readTransponder (some .dvbS) fields) _
    next => exact inCapitals_map (inCapitals_readTransponder (some .dvbS2) fields) _
    next => exact inCapitals_map (inCapitals_readFirstGeneration fields) _
    next => exact inCapitals_map (inCapitals_readFirstGeneration fields) _
    next => exact inCapitals_map (inCapitals_readSecondGeneration fields) _
    next => exact congrArg (Reading.reject ∘ ParseFault.invalidType) (Ascii.upper_upper kind)

theorem inCapitals_readTokens_eq {tokens tokens' : List String}
    (same : tokens.map Ascii.upper = tokens'.map Ascii.upper) :
    inCapitals (readTokens tokens) = inCapitals (readTokens tokens') := by
  rw [← inCapitals_readTokens, same, inCapitals_readTokens]

theorem Reading.ends_of_inCapitals {α : Type} {reading reading' : Reading α}
    (same : inCapitals reading = inCapitals reading') :
    (∃ value, reading = .ok value ∧ reading' = .ok value) ∨
    (∃ fault fault', reading = reject fault ∧ reading' = reject fault' ∧
      fault.inCapitals = fault'.inCapitals) ∨
    ∃ step, reading = .error (.broken step) ∧ reading' = .error (.broken step) := by
  cases reading with
  | ok value =>
    cases reading' with
    | ok value' => exact .inl ⟨value, rfl, same.symm⟩
    | error failure => cases same
  | error failure =>
    cases reading' with
    | ok value => cases same
    | error failure' =>
      have failures := Except.error.inj same
      cases failure with
      | rejected fault =>
        cases failure' with
        | rejected fault' => exact .inr (.inl ⟨fault, fault', rfl, rfl, Failure.rejected.inj failures⟩)
        | broken step => cases failures
      | broken step =>
        cases failure' with
        | rejected fault => cases failures
        | broken step' => exact .inr (.inr ⟨step, rfl, congrArg Except.error failures.symm⟩)

/-- Only a bandwidth that does not fit breaks the reading of a line. -/
theorem overflows_of_broken {tokens : List String} {step : Breakdown}
    (broken : readTokens tokens = .error (.broken step)) : Overflows tokens := by
  by_contra narrow
  have settles := settles_readTokens narrow
  rw [broken] at settles
  cases settles

/-- Lines whose tokens differ in the case of letters only come to the same tuning, or are refused for faults that
differ in the case of letters only. A bandwidth that does not fit a word is too wide in both. -/
theorem parse_regardless_of_case {text text' : String}
    (same : (significantTokens text).map Ascii.upper = (significantTokens text').map Ascii.upper) :
    (∃ tuning, parse text = .ok tuning ∧ parse text' = .ok tuning) ∨
    (∃ fault fault', parse text = .error (.rejected ⟨text, fault⟩) ∧
      parse text' = .error (.rejected ⟨text', fault'⟩) ∧ fault.inCapitals = fault'.inCapitals) ∨
    Overflows (significantTokens text) ∧ Overflows (significantTokens text') := by
  rcases Reading.ends_of_inCapitals (inCapitals_readTokens_eq same) with
    ⟨tuning, first, second⟩ | ⟨fault, fault', first, second, alike⟩ | ⟨step, first, second⟩
  · refine .inl ⟨tuning, ?_, ?_⟩
    · rw [parse, first]
      rfl
    · rw [parse, second]
      rfl
  · refine .inr (.inl ⟨fault, fault', ?_, ?_, alike⟩)
    · rw [parse, first]
      rfl
    · rw [parse, second]
      rfl
  · exact .inr (.inr ⟨overflows_of_broken first, overflows_of_broken second⟩)

end Tuning

namespace RetypedLine

def carrier : Tuning := Transponder.toTuning
  { system := .dvbS2, frequency := 11778000, polarization := .vertical, symbolRate := 27500000
    codeRate := .fec2_3, rolloff := some .r25, modulation := some .psk8 }

def line : String := "S2 11778000 V 27500000 2/3 25 8PSK"

def retyped : String := "  s2 11778000\tv  27500000 2/3 25 8psk # the same carrier"

def misspelt : String := "T 578000000 8MHz 2/3 NONE QAM65 8K 1/32 NONE"

def misspeltAgain : String := "t 578000000  8mhz 2/3 none qam65 8k 1/32 none #"

/-! The line that is typed again is read alike, and the misspelt one is refused for the same modulation. -/

theorem read_and_refused_alike :
    Tuning.parse line = .ok carrier ∧ Tuning.parse retyped = .ok carrier ∧
    Tuning.parse misspelt = .error (.rejected ⟨misspelt, .invalidToken .modulation "QAM65"⟩) ∧
    ∃ fault, Tuning.parse misspeltAgain = .error (.rejected ⟨misspeltAgain, fault⟩) ∧
      fault.inCapitals = .invalidToken .modulation "QAM65" := by
  have read : Tuning.readTokens (Tuning.significantTokens line) = .ok carrier := by decide +kernel
  have refused : Tuning.readTokens (Tuning.significantTokens misspelt) =
      Tuning.Reading.reject (.invalidToken .modulation "QAM65") := by decide +kernel
  have parsed : Tuning.parse line = .ok carrier := by rw [Tuning.parse, read]; rfl
  have unparsed : Tuning.parse misspelt = .error (.rejected ⟨misspelt, .invalidToken .modulation "QAM65"⟩) := by
    rw [Tuning.parse, refused]
    rfl
  refine ⟨parsed, ?_, unparsed, ?_⟩
  · have same : (Tuning.significantTokens line).map Ascii.upper =
        (Tuning.significantTokens retyped).map Ascii.upper := by decide +kernel
    rcases Tuning.parse_regardless_of_case same with
      ⟨tuning, first, second⟩ | ⟨fault, fault', first, -, -⟩ | ⟨overflows, -⟩
    · rw [parsed] at first
      cases first
      exact second
    · rw [parsed] at first
      cases first
    · rw [Tuning.readTokens_of_overflows overflows] at read
      cases read
  · have same : (Tuning.significantTokens misspelt).map Ascii.upper =
        (Tuning.significantTokens misspeltAgain).map Ascii.upper := by decide +kernel
    rcases Tuning.parse_regardless_of_case same with
      ⟨tuning, first, -⟩ | ⟨fault, fault', first, second, alike⟩ | ⟨overflows, -⟩
    · rw [unparsed] at first
      cases first
    · rw [unparsed] at first
      cases first
      exact ⟨fault', second, alike.symm⟩
    · rw [Tuning.readTokens_of_overflows overflows] at refused
      cases refused

end RetypedLine

end DvbScan
