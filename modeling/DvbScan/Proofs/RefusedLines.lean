import DvbScan.Proofs.CheckedLines

/-!
# Lines that are refused

Whatever a line is, it is read to the end or refused, and a refusal names no token but one of the line before its
comment. There is one exception. A number of MHz is read as any word, but a bandwidth in Hz has to fit a word as
well: the line of a multiplex breaks down if it comes to a bandwidth of more than 4294 MHz.
-/

namespace DvbScan

namespace Tuning

/-- The bandwidth is a number of MHz, and as a number of Hz no word holds it. -/
def IsTooWide (token : String) : Prop :=
  ∃ megahertz, Decimal.readWord? (Reading.withoutUnit (Ascii.upper token)) = some megahertz ∧
    4294 < megahertz.toNat

/-- The line has all tokens of a multiplex, and before the bandwidth there are numbers where numbers belong. -/
inductive ComesTo (bandwidth : String) : List String → Prop where
  | first {kind frequency : String} {rest : List String}
    (system : Ascii.upper kind = "T" ∨ Ascii.upper kind = "T1")
    (known : (Decimal.readWord? frequency).isSome) (enough : 6 ≤ rest.length) :
    ComesTo bandwidth (kind :: frequency :: bandwidth :: rest)
  | second {kind pipe systemId frequency : String} {rest : List String} (system : Ascii.upper kind = "T2")
    (known : ∀ number ∈ [pipe, systemId, frequency], (Decimal.readWord? number).isSome)
    (enough : 6 ≤ rest.length) :
    ComesTo bandwidth (kind :: pipe :: systemId :: frequency :: bandwidth :: rest)

def Overflows (tokens : List String) : Prop := ∃ bandwidth, ComesTo bandwidth tokens ∧ IsTooWide bandwidth

theorem fits_iff (megahertz : Nat) : megahertz * 1000000 < UInt32.size ↔ ¬4294 < megahertz := by
  have size : UInt32.size = 4294967296 := rfl
  omega

theorem Reading.bandwidth_of_tooWide {token : String} (tooWide : IsTooWide token) :
    Reading.bandwidth token = .error (.broken .product) := by
  obtain ⟨megahertz, number, large⟩ := tooWide
  rw [Reading.bandwidth_of_number number]
  exact if_neg fun fits => (fits_iff _).mp fits large

theorem Reading.eq_some_of_field {α : Type} {field : TuningField} {read? : String → Option α} {token : String}
    {value : α} (read : Reading.field field read? token = .ok value) : read? token = some value := by
  unfold Reading.field at read
  split at read
  next found => rw [found, Except.ok.inj read]
  next => cases read

/-- The reading gives a value or a fault, and an error of the fault names none but these tokens. -/
inductive Settles {α : Type} (tokens : List String) : Reading α → Prop where
  | value (value : α) : Settles tokens (.ok value)
  | refused {fault : ParseFault}
    (own : ∀ text token, (ParseError.mk text fault).token? = some token → token ∈ tokens) :
    Settles tokens (Reading.reject fault)

namespace Settles

variable {α β : Type} {tokens : List String} {token : String} {reading : Reading α}

theorem tooFew (needed got : Nat) :
    Settles tokens (Reading.reject (.tooFewParameters needed got) : Reading α) :=
  .refused nofun

theorem invalidToken (own : token ∈ tokens) (field : TuningField) :
    Settles tokens (Reading.reject (.invalidToken field token) : Reading α) :=
  .refused fun _ _ named => Option.some.inj named ▸ own

theorem bind {next : α → Reading β} (settles : Settles tokens reading)
    (after : ∀ value, reading = .ok value → Settles tokens (next value)) :
    Settles tokens (reading >>= next) := by
  cases settles with
  | value value => exact after value rfl
  | refused own => exact .refused own

theorem map {change : α → β} (settles : Settles tokens reading) : Settles tokens (reading.map change) :=
  settles.bind fun value _ => .value (change value)

theorem field (own : token ∈ tokens) (field : TuningField) (read? : String → Option α) :
    Settles tokens (Reading.field field read? token) := by
  unfold Reading.field
  split
  · exact .value _
  · exact invalidToken own field

theorem bandwidth (own : token ∈ tokens) (narrow : ¬IsTooWide token) : Settles tokens (Reading.bandwidth token) := by
  cases number : Decimal.readWord? (Reading.withoutUnit (Ascii.upper token)) with
  | some megahertz =>
    have fits : megahertz.toNat * 1000000 < UInt32.size :=
      (fits_iff megahertz.toNat).mpr fun large => narrow ⟨megahertz, number, large⟩
    rw [Reading.bandwidth_of_number number, if_pos fits]
    exact .value _
  | none =>
    simp only [Reading.bandwidth, Reading.field, number]
    split
    · exact .value 0
    split
    · exact .value 1712000
    · exact invalidToken own .bandwidth

end Settles

variable {tokens fields : List String}

theorem settles_readShape (system : DeliverySystem) {extension : List String} (own : extension ⊆ tokens) :
    Settles tokens (readShape system extension) := by
  unfold readShape
  split
  next => exact .tooFew 7 6
  next rolloff modulation rest =>
    refine (Settles.field (own (by simp)) .rolloff _).bind fun rolloff _ => ?_
    refine (Settles.field (own (by simp)) .modulation _).bind fun modulation _ => ?_
    exact .value _
  next => exact .value _

theorem settles_readTransponder (system? : Option DeliverySystem) (own : fields ⊆ tokens) :
    Settles tokens (readTransponder system? fields) := by
  unfold readTransponder
  split
  next frequency polarization symbolRate codeRate extension =>
    have later : extension ⊆ tokens := fun token member => own (by simp [member])
    refine (settles_readShape _ later).bind fun shape _ => ?_
    refine (Settles.field (own (by simp)) .frequency _).bind fun frequency _ => ?_
    refine (Settles.field (own (by simp)) .polarization _).bind fun polarization _ => ?_
    refine (Settles.field (own (by simp)) .symbolRate _).bind fun symbolRate _ => ?_
    refine (Settles.field (own (by simp)) .codeRate _).bind fun codeRate _ => ?_
    exact .value _
  next => exact .tooFew 5 _

theorem settles_readMultiplex {system : DeliverySystem} {pipe : Option UInt32} {needed got : Nat}
    (own : fields ⊆ tokens)
    (narrow : ∀ frequency bandwidth rest, fields = frequency :: bandwidth :: rest →
      (Decimal.readWord? frequency).isSome = true → 6 ≤ rest.length → ¬IsTooWide bandwidth) :
    Settles tokens (readMultiplex system pipe (.tooFewParameters needed got) fields) := by
  unfold readMultiplex
  split
  next frequency bandwidth codeRateHp codeRateLp modulation transmissionMode guardInterval hierarchy rest =>
    refine (Settles.field (own (by simp)) .frequency _).bind fun hertz read => ?_
    have fits := narrow frequency bandwidth _ rfl (Option.isSome_of_eq_some (Reading.eq_some_of_field read)) (by simp)
    refine (Settles.bandwidth (own (by simp)) fits).bind fun bandwidth _ => ?_
    refine (Settles.field (own (by simp)) .codeRate _).bind fun codeRateHp _ => ?_
    refine (Settles.field (own (by simp)) .codeRate _).bind fun codeRateLp _ => ?_
    refine (Settles.field (own (by simp)) .modulation _).bind fun modulation _ => ?_
    refine (Settles.field (own (by simp)) .transmissionMode _).bind fun transmissionMode _ => ?_
    refine (Settles.field (own (by simp)) .guardInterval _).bind fun guardInterval _ => ?_
    refine (Settles.field (own (by simp)) .hierarchy _).bind fun hierarchy _ => ?_
    exact .value _
  next => exact .tooFew needed got

theorem settles_readSecondGeneration (own : fields ⊆ tokens)
    (narrow : ∀ pipe systemId frequency bandwidth rest,
      fields = pipe :: systemId :: frequency :: bandwidth :: rest →
      (∀ number ∈ [pipe, systemId, frequency], (Decimal.readWord? number).isSome = true) → 6 ≤ rest.length →
      ¬IsTooWide bandwidth) : Settles tokens (readSecondGeneration fields) := by
  unfold readSecondGeneration
  simp only
  split
  next => exact .tooFew 11 _
  next =>
    split
    next pipe systemId later _ =>
      have rest : later ⊆ tokens := fun token member => own (by simp [member])
      refine (Settles.field (own (by simp)) .systemId _).bind fun _ systemIdRead => ?_
      refine (Settles.field (own (by simp)) .pipe _).bind fun _ pipeRead => ?_
      refine settles_readMultiplex rest fun frequency bandwidth rest shape known enough => ?_
      refine narrow pipe systemId frequency bandwidth rest (by rw [shape]) ?_ enough
      have pipeKnown := Option.isSome_of_eq_some (Reading.eq_some_of_field pipeRead)
      have systemIdKnown := Option.isSome_of_eq_some (Reading.eq_some_of_field systemIdRead)
      simp [pipeKnown, systemIdKnown, known]
    next => exact .tooFew 11 _

theorem settles_readTokens (narrow : ¬Overflows tokens) : Settles tokens (readTokens tokens) := by
  cases tokens with
  | nil => exact .refused nofun
  | cons kind fields =>
    have own : fields ⊆ kind :: fields := List.subset_cons_self kind fields
    unfold readTokens
    simp only
    split
    next => exact (settles_readTransponder _ own).map
    next => exact (settles_readTransponder _ own).map
    next => exact (settles_readTransponder _ own).map
    next system =>
      refine (settles_readMultiplex own fun frequency bandwidth rest shape known enough tooWide => ?_).map
      subst shape
      exact narrow ⟨bandwidth, .first (.inl system) known enough, tooWide⟩
    next system =>
      refine (settles_readMultiplex own fun frequency bandwidth rest shape known enough tooWide => ?_).map
      subst shape
      exact narrow ⟨bandwidth, .first (.inr system) known enough, tooWide⟩
    next system =>
      refine (settles_readSecondGeneration own fun pipe systemId frequency bandwidth rest shape known enough => ?_).map
      subst shape
      exact fun tooWide => narrow ⟨bandwidth, .second system known enough, tooWide⟩
    next => exact .refused fun _ _ named => Option.some.inj named ▸ List.mem_cons_self

theorem Reading.exists_word {token : String} (known : (Decimal.readWord? token).isSome = true)
    (field : TuningField) : ∃ value, Reading.word field token = .ok value := by
  obtain ⟨value, number⟩ := Option.isSome_iff_exists.mp known
  refine ⟨value, ?_⟩
  unfold Reading.word Reading.field
  rw [number]

theorem readMultiplex_of_tooWide (system : DeliverySystem) (pipe : Option UInt32) (fewer : ParseFault)
    {frequency bandwidth : String} {rest : List String} (known : (Decimal.readWord? frequency).isSome = true)
    (enough : 6 ≤ rest.length) (tooWide : IsTooWide bandwidth) :
    readMultiplex system pipe fewer (frequency :: bandwidth :: rest) = .error (.broken .product) := by
  obtain ⟨hertz, read⟩ := Reading.exists_word known .frequency
  match rest with
  | codeRateHp :: codeRateLp :: modulation :: transmissionMode :: guardInterval :: hierarchy :: rest =>
    simp only [readMultiplex, read, Reading.bandwidth_of_tooWide tooWide]
    rfl

theorem readTokens_of_overflows (overflows : Overflows tokens) : readTokens tokens = .error (.broken .product) := by
  obtain ⟨bandwidth, comes, tooWide⟩ := overflows
  cases comes with
  | @first kind frequency rest system known enough =>
    have broken : readFirstGeneration (frequency :: bandwidth :: rest) = .error (.broken .product) :=
      readMultiplex_of_tooWide _ _ _ known enough tooWide
    rcases system with system | system
    · simp only [readTokens, system, broken]
      rfl
    · simp only [readTokens, system, broken]
      rfl
  | @second kind pipe systemId frequency rest system known enough =>
    have broken : readSecondGeneration (pipe :: systemId :: frequency :: bandwidth :: rest) =
        .error (.broken .product) := by
      obtain ⟨pipeNumber, pipeRead⟩ := Reading.exists_word (known pipe (by simp)) .pipe
      obtain ⟨systemIdNumber, systemIdRead⟩ := Reading.exists_word (known systemId (by simp)) .systemId
      have long : ¬(pipe :: systemId :: frequency :: bandwidth :: rest).length < 10 := by simpa using enough
      unfold readSecondGeneration
      simp only [if_neg long, pipeRead, systemIdRead]
      exact readMultiplex_of_tooWide _ _ _ (known frequency (by simp)) enough tooWide
    simp only [readTokens, system, broken]
    rfl

theorem Settles.answer {reading : Reading Tuning} (settles : Settles tokens reading) (text : String) :
    ∃ answer : Except ParseError Tuning,
      (reading.mapError fun failure => failure.map fun fault => { input := text, fault }) =
          answer.mapError .rejected ∧
        ∀ error, answer = .error error → error.input = text ∧
          ∀ token, error.token? = some token → token ∈ tokens := by
  cases settles with
  | value tuning => exact ⟨.ok tuning, rfl, nofun⟩
  | @refused fault own =>
    refine ⟨.error ⟨text, fault⟩, rfl, ?_⟩
    rintro error ⟨⟩
    exact ⟨rfl, own text⟩

/-- A line that does not come to a bandwidth beyond 4294 MHz is answered, also by a machine: with a tuning, or with an
error that tells the whole line and names no token but one of the line before its comment. At such a bandwidth the
line breaks down, and the product is what a machine cannot do. -/
theorem parse_answers_unless_overflows (text : String) :
    (¬Overflows (significantTokens text) → ∃ answer : Except ParseError Tuning,
      parse text = answer.mapError .rejected ∧ CheckedLine.parse text = pure answer ∧
        ∀ error, answer = .error error → error.input = text ∧
          ∀ token, error.token? = some token → token ∈ significantTokens text) ∧
      (Overflows (significantTokens text) →
        parse text = .error (.broken .product) ∧ CheckedLine.parse text = Machine.fault .product) := by
  constructor
  · intro narrow
    obtain ⟨answer, answered, own⟩ := (settles_readTokens narrow).answer text
    exact ⟨answer, answered, CheckedLine.parse_of_answer answered, own⟩
  · intro overflows
    have broken : parse text = .error (.broken .product) := by
      unfold parse
      rw [readTokens_of_overflows overflows]
      rfl
    exact ⟨broken, CheckedLine.parse_of_broken broken⟩

end Tuning

/-! A multiplex whose bandwidth is the largest that fits, and one that is wider by a MHz. -/

namespace WideMultiplex

def line (bandwidth : String) : String := "T 578000000 " ++ bandwidth ++ " 2/3 NONE QAM64 8K 1/32 NONE"

theorem line_overflows : Tuning.Overflows (Tuning.significantTokens (line "4295MHz")) := by
  have tokens : Tuning.significantTokens (line "4295MHz") =
      ["T", "578000000", "4295MHz", "2/3", "NONE", "QAM64", "8K", "1/32", "NONE"] := by decide +kernel
  rw [tokens]
  exact ⟨"4295MHz", .first (.inl (by decide)) (by decide) (by decide), 4295, by decide, by decide⟩

theorem line_unanswered :
    ¬∀ text, (∃ tuning, Tuning.parse text = .ok tuning) ∨
      ∃ error, Tuning.parse text = .error (.rejected error) ∧ error.input = text ∧
        ∀ token, error.token? = some token → token ∈ Tuning.significantTokens text := by
  intro answered
  have broken : Tuning.parse (line "4295MHz") = .error (.broken .product) := by
    unfold Tuning.parse
    rw [Tuning.readTokens_of_overflows line_overflows]
    rfl
  rcases answered (line "4295MHz") with ⟨tuning, read⟩ | ⟨error, refused, -⟩
  · rw [broken] at read
    cases read
  · rw [broken] at refused
    cases refused

theorem line_narrow : ¬Tuning.Overflows (Tuning.significantTokens (line "4294MHz")) := by
  have tokens : Tuning.significantTokens (line "4294MHz") =
      ["T", "578000000", "4294MHz", "2/3", "NONE", "QAM64", "8K", "1/32", "NONE"] := by decide +kernel
  rw [tokens]
  rintro ⟨bandwidth, comes, megahertz, number, large⟩
  cases comes with
  | first system known enough =>
    have value : Decimal.readWord? (Tuning.Reading.withoutUnit (Ascii.upper "4294MHz")) = some 4294 := by decide
    rw [value] at number
    cases number
    exact absurd large (by decide)
  | second system known enough => exact absurd system (by decide)

theorem line_answered :
    (∃ answer : Except ParseError Tuning, Tuning.parse (line "4294MHz") = answer.mapError .rejected ∧
        CheckedLine.parse (line "4294MHz") = pure answer) ∧
      Tuning.parse (line "4295MHz") = .error (.broken .product) ∧
      CheckedLine.parse (line "4295MHz") = Machine.fault .product := by
  obtain ⟨answer, read, same, -⟩ := (Tuning.parse_answers_unless_overflows (line "4294MHz")).1 line_narrow
  exact ⟨⟨answer, read, same⟩, (Tuning.parse_answers_unless_overflows (line "4295MHz")).2 line_overflows⟩

end WideMultiplex

end DvbScan
