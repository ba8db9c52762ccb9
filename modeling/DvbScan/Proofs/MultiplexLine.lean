import DvbScan.Proofs.Result
import DvbScan.Proofs.TuningFields
import DvbScan.Si.Descriptor.Delivery

/-!
# Lines for multiplexes

A line tells a bandwidth as whole MHz, apart from the narrow one. Every bandwidth that is read or announced
can be told so, and the line of its multiplex is read as the multiplex.
-/

namespace DvbScan

namespace Tuning

/-- A bandwidth that a line can tell: the narrow one, or a whole number of MHz. -/
def IsWritable (bandwidth : UInt32) : Prop :=
  bandwidth = 1712000 ∨ 1000000 ∣ bandwidth.toNat

theorem isToken_bandwidthToken (bandwidth : UInt32) : isToken (bandwidthToken bandwidth) = true := by
  unfold bandwidthToken
  split
  · decide
  · split
    · decide
    · exact isToken_append (Decimal.isToken_write _) (by decide)

theorem withoutUnit_append (number : String) : Reading.withoutUnit (number ++ "MHZ") = number := by
  have reversed : (number ++ "MHZ").toList.reverse = 'Z' :: 'H' :: 'M' :: number.toList.reverse := by
    simp
  unfold Reading.withoutUnit
  rw [reversed]
  simp

theorem upper_write (number : Nat) :
    Ascii.upper (Decimal.write number ++ "MHz") = Decimal.write number ++ "MHZ" := by
  have digits : (Decimal.write number).toList.map Char.toUpper = (Decimal.write number).toList := by
    refine (List.map_congr_left fun c member => ?_).trans (List.map_id _)
    exact Decimal.toUpper_of_isDigit (Decimal.isDigit_of_mem_write member)
  unfold Ascii.upper
  rw [String.toList_append, List.map_append, digits, String.ofList_append, String.ofList_toList]
  rfl

theorem bandwidth_write {megahertz : Nat} (fits : megahertz * 1000000 < UInt32.size) :
    Reading.bandwidth (Decimal.write megahertz ++ "MHz") =
      .ok (UInt32.ofNat (megahertz * 1000000)) := by
  have automatic : Decimal.write megahertz ++ "MHZ" ≠ "AUTO" := by
    intro same
    have unit : 'M' ∈ (Decimal.write megahertz ++ "MHZ").toList := by simp
    rw [same] at unit
    exact absurd unit (by decide)
  have narrow : Decimal.write megahertz ≠ "1.712" := by
    intro same
    have point : '.' ∈ (Decimal.write megahertz).toList := by rw [same]; decide
    exact absurd (Decimal.isDigit_of_mem_write point) (by decide)
  have small : megahertz < UInt32.size :=
    (Nat.le_mul_of_pos_right megahertz (by decide)).trans_lt fits
  have value : (UInt32.ofNat megahertz).toNat = megahertz := UInt32.toNat_ofNat_of_lt' small
  have word : Decimal.readWord? (Decimal.write megahertz) = some (UInt32.ofNat megahertz) := by
    rw [← Decimal.readWord?_write, value]
  have product : UInt32.ofNat megahertz * 1000000 = UInt32.ofNat (megahertz * 1000000) := by
    rw [UInt32.ofNat_mul]
    rfl
  unfold Reading.bandwidth
  simp only [upper_write, withoutUnit_append, automatic, narrow, if_false, Reading.field, word, bind,
    Except.bind, value, fits, if_true, product]

theorem bandwidth_token {bandwidth : UInt32} (writable : IsWritable bandwidth) :
    Reading.bandwidth (bandwidthToken bandwidth) = .ok bandwidth := by
  unfold bandwidthToken
  by_cases none : bandwidth = 0
  · rw [if_pos none, none]
    rfl
  · by_cases narrow : bandwidth = 1712000
    · rw [if_neg none, if_pos narrow, narrow]
      rfl
    · have whole : bandwidth.toNat / 1000000 * 1000000 = bandwidth.toNat :=
        Nat.div_mul_cancel (writable.resolve_left narrow)
      have fits : bandwidth.toNat / 1000000 * 1000000 < UInt32.size := by
        rw [whole]
        exact bandwidth.toNat_lt_size
      rw [if_neg none, if_neg narrow, bandwidth_write fits, whole, UInt32.ofNat_toNat]

theorem writable_bandwidth {token : String} {bandwidth : UInt32}
    (read : Reading.bandwidth token = .ok bandwidth) : IsWritable bandwidth := by
  unfold Reading.bandwidth at read
  simp only at read
  split at read
  · cases read
    exact .inr ⟨0, rfl⟩
  · split at read
    · cases read
      exact .inl rfl
    · obtain ⟨megahertz, -, converted⟩ := bind_eq_ok.mp read
      split at converted
      next fits =>
        cases converted
        right
        refine ⟨megahertz.toNat, ?_⟩
        rw [UInt32.toNat_mul]
        change megahertz.toNat * 1000000 % UInt32.size = _
        rw [Nat.mod_eq_of_lt fits, Nat.mul_comm]
      next => cases converted

end Tuning

namespace Multiplex

/-- A multiplex that a line can tell: of the first generation without a pipe, or of the second with one,
and with a bandwidth that has a token. -/
inductive IsRegular (multiplex : Multiplex) : Prop where
  | first (system : multiplex.system = .dvbT) (pipe : multiplex.pipe = none)
      (bandwidth : Tuning.IsWritable multiplex.bandwidth)
  | second {p : UInt32} (system : multiplex.system = .dvbT2) (pipe : multiplex.pipe = some p)
      (bandwidth : Tuning.IsWritable multiplex.bandwidth)

theorem distinct_properties (multiplex : Multiplex) : Tuning.Distinct multiplex.properties := by
  unfold properties
  cases multiplex.pipe <;> simp [Tuning.Distinct]

def fields (multiplex : Multiplex) : List String :=
  [Decimal.write multiplex.frequency.toNat, Tuning.bandwidthToken multiplex.bandwidth,
    Coded.token multiplex.codeRateHp, Coded.token multiplex.codeRateLp,
    Coded.token multiplex.modulation, Coded.token multiplex.transmissionMode,
    Coded.token multiplex.guardInterval, Coded.token multiplex.hierarchy]

theorem isToken_of_mem_fields {multiplex : Multiplex} {field : String}
    (member : field ∈ multiplex.fields) : isToken field = true := by
  unfold fields at member
  simp only [List.mem_cons, List.not_mem_nil, or_false] at member
  rcases member with rfl | rfl | rfl | rfl | rfl | rfl | rfl | rfl
  · exact Decimal.isToken_write _
  · exact Tuning.isToken_bandwidthToken _
  · exact isToken_token _
  · exact isToken_token _
  · exact isToken_token _
  · exact isToken_token _
  · exact isToken_token _
  · exact isToken_token _

theorem readMultiplex_fields {multiplex : Multiplex} (fewer : ParseFault)
    (writable : Tuning.IsWritable multiplex.bandwidth) :
    Tuning.readMultiplex multiplex.system multiplex.pipe fewer multiplex.fields = .ok multiplex := by
  unfold Tuning.readMultiplex fields
  simp only [Tuning.Reading.word_write, Tuning.bandwidth_token writable,
    Tuning.Reading.named_token, bind, Except.bind]

theorem readFirstGeneration_fields {multiplex : Multiplex} (system : multiplex.system = .dvbT)
    (pipe : multiplex.pipe = none) (writable : Tuning.IsWritable multiplex.bandwidth) :
    Tuning.readFirstGeneration multiplex.fields = .ok multiplex := by
  have read := readMultiplex_fields (.tooFewParameters 9 9) writable
  rw [system, pipe] at read
  exact read

theorem readSecondGeneration_fields {multiplex : Multiplex} {pipe : UInt32}
    (system : multiplex.system = .dvbT2) (piped : multiplex.pipe = some pipe)
    (writable : Tuning.IsWritable multiplex.bandwidth) :
    Tuning.readSecondGeneration (Decimal.write pipe.toNat :: "0" :: multiplex.fields) =
      .ok multiplex := by
  have read := readMultiplex_fields (.tooFewParameters 11 11) writable
  have zero := Tuning.Reading.word_write .systemId 0
  have number : Decimal.write (0 : UInt32).toNat = "0" := by decide +kernel
  have count : (Decimal.write pipe.toNat :: "0" :: multiplex.fields).length = 10 := rfl
  rw [system, piped] at read
  rw [number] at zero
  unfold Tuning.readSecondGeneration
  rw [count]
  simp only [Nat.lt_irrefl, if_false, zero, Tuning.Reading.word_write, bind, Except.bind]
  exact read

theorem multiplexTokens_toTuning (multiplex : Multiplex) :
    multiplex.toTuning.multiplexTokens = multiplex.fields := by
  have distinct := multiplex.distinct_properties
  have frequency : multiplex.toTuning.numeralOf .frequency =
      Decimal.write multiplex.frequency.toNat :=
    Tuning.numeralOf_ofPairs distinct (by simp [properties])
  have bandwidth : multiplex.toTuning.get? .bandwidthHz = some multiplex.bandwidth :=
    Tuning.get?_ofPairs distinct (by simp [properties])
  have codeRateHp : multiplex.toTuning.tokenOf .codeRateHp CodeRate =
      Coded.token multiplex.codeRateHp :=
    Tuning.tokenOf_ofPairs distinct (by simp [properties])
  have codeRateLp : multiplex.toTuning.tokenOf .codeRateLp CodeRate =
      Coded.token multiplex.codeRateLp :=
    Tuning.tokenOf_ofPairs distinct (by simp [properties])
  have modulation : multiplex.toTuning.tokenOf .modulation Modulation =
      Coded.token multiplex.modulation :=
    Tuning.tokenOf_ofPairs distinct (by simp [properties])
  have transmissionMode : multiplex.toTuning.tokenOf .transmissionMode TransmissionMode =
      Coded.token multiplex.transmissionMode :=
    Tuning.tokenOf_ofPairs distinct (by simp [properties])
  have guardInterval : multiplex.toTuning.tokenOf .guardInterval GuardInterval =
      Coded.token multiplex.guardInterval :=
    Tuning.tokenOf_ofPairs distinct (by simp [properties])
  have hierarchy : multiplex.toTuning.tokenOf .hierarchy Hierarchy =
      Coded.token multiplex.hierarchy :=
    Tuning.tokenOf_ofPairs distinct (by simp [properties])
  unfold Tuning.multiplexTokens
  rw [frequency, bandwidth, codeRateHp, codeRateLp, modulation, transmissionMode, guardInterval,
    hierarchy]
  rfl

theorem system?_toTuning (multiplex : Multiplex) :
    multiplex.toTuning.system? = some multiplex.system :=
  Tuning.named?_ofPairs multiplex.distinct_properties (by simp [properties])

def tokens (multiplex : Multiplex) : List String :=
  match multiplex.pipe with
  | none => "T" :: multiplex.fields
  | some pipe => "T2" :: Decimal.write pipe.toNat :: "0" :: multiplex.fields

theorem isToken_of_mem_tokens {multiplex : Multiplex} {token : String}
    (member : token ∈ multiplex.tokens) : isToken token = true := by
  unfold tokens at member
  split at member
  · rcases List.mem_cons.mp member with rfl | field
    · decide
    · exact isToken_of_mem_fields field
  · simp only [List.mem_cons] at member
    rcases member with rfl | rfl | rfl | field
    · decide
    · exact Decimal.isToken_write _
    · decide
    · exact isToken_of_mem_fields field

theorem tokens_toTuning {multiplex : Multiplex} (regular : multiplex.IsRegular) :
    multiplex.toTuning.tokens = multiplex.tokens := by
  unfold Tuning.tokens tokens
  rw [system?_toTuning, multiplexTokens_toTuning]
  cases regular with
  | first system pipe => rw [system, pipe]
  | @second p system pipe =>
    have stream : multiplex.toTuning.numeralOf .streamId = Decimal.write p.toNat :=
      Tuning.numeralOf_ofPairs multiplex.distinct_properties (by simp [properties, pipe])
    rw [system, pipe, stream]

theorem readTokens_tokens {multiplex : Multiplex} (regular : multiplex.IsRegular) :
    Tuning.readTokens multiplex.tokens = .ok multiplex.toTuning := by
  unfold tokens
  cases regular with
  | first system pipe writable =>
    rw [pipe]
    change (Tuning.readFirstGeneration multiplex.fields).map Multiplex.toTuning = _
    rw [readFirstGeneration_fields system pipe writable]
    rfl
  | @second p system pipe writable =>
    rw [pipe]
    change (Tuning.readSecondGeneration
      (Decimal.write p.toNat :: "0" :: multiplex.fields)).map Multiplex.toTuning = _
    rw [readSecondGeneration_fields system pipe writable]
    rfl

theorem parse_print {multiplex : Multiplex} (regular : multiplex.IsRegular) :
    Tuning.parse multiplex.toTuning.print = .ok multiplex.toTuning := by
  unfold Tuning.print
  rw [tokens_toTuning regular]
  exact Tuning.parse_intercalate (fun token => isToken_of_mem_tokens) (readTokens_tokens regular)

theorem regular_of_readMultiplex {system : DeliverySystem} {pipe : Option UInt32} {fewer : ParseFault}
    {fields : List String} {multiplex : Multiplex}
    (read : Tuning.readMultiplex system pipe fewer fields = .ok multiplex) :
    multiplex.system = system ∧ multiplex.pipe = pipe ∧ Tuning.IsWritable multiplex.bandwidth := by
  unfold Tuning.readMultiplex at read
  split at read
  next =>
    obtain ⟨frequency, -, rest⟩ := bind_eq_ok.mp read
    obtain ⟨bandwidth, written, rest⟩ := bind_eq_ok.mp rest
    obtain ⟨codeRateHp, -, rest⟩ := bind_eq_ok.mp rest
    obtain ⟨codeRateLp, -, rest⟩ := bind_eq_ok.mp rest
    obtain ⟨modulation, -, rest⟩ := bind_eq_ok.mp rest
    obtain ⟨transmissionMode, -, rest⟩ := bind_eq_ok.mp rest
    obtain ⟨guardInterval, -, rest⟩ := bind_eq_ok.mp rest
    obtain ⟨hierarchy, -, made⟩ := bind_eq_ok.mp rest
    cases made
    exact ⟨rfl, rfl, Tuning.writable_bandwidth written⟩
  next => cases read

theorem regular_of_readFirstGeneration {fields : List String} {multiplex : Multiplex}
    (read : Tuning.readFirstGeneration fields = .ok multiplex) : multiplex.IsRegular := by
  obtain ⟨system, pipe, writable⟩ := regular_of_readMultiplex read
  exact .first system pipe writable

theorem regular_of_readSecondGeneration {fields : List String} {multiplex : Multiplex}
    (read : Tuning.readSecondGeneration fields = .ok multiplex) : multiplex.IsRegular := by
  unfold Tuning.readSecondGeneration at read
  simp only at read
  split at read
  · cases read
  · split at read
    · obtain ⟨systemId, -, rest⟩ := bind_eq_ok.mp read
      obtain ⟨pipe, -, made⟩ := bind_eq_ok.mp rest
      obtain ⟨system, piped, writable⟩ := regular_of_readMultiplex made
      exact .second system piped writable
    · cases read

end Multiplex

theorem writable_bandwidthOf (code : Nat) : Tuning.IsWritable (bandwidthOf code) := by
  unfold bandwidthOf
  split
  · exact .inr (by decide)
  · exact .inr (by decide)
  · exact .inr (by decide)
  · exact .inr (by decide)
  · exact .inr (by decide)
  · exact .inl rfl
  · exact .inr (by decide)

theorem TerrestrialDelivery.regular_multiplex {payload : Bytes} {delivery : TerrestrialDelivery}
    (read : TerrestrialDelivery.read payload = .ok delivery) : delivery.multiplex.IsRegular := by
  unfold TerrestrialDelivery.read at read
  obtain ⟨fourth, -, rest⟩ := bind_eq_ok.mp read
  obtain ⟨fifth, -, rest⟩ := bind_eq_ok.mp rest
  obtain ⟨sixth, -, rest⟩ := bind_eq_ok.mp rest
  obtain ⟨frequency, -, made⟩ := bind_eq_ok.mp rest
  cases made
  exact .first rfl rfl (writable_bandwidthOf _)

theorem T2Delivery.writable_of_readDetails {payload : Bytes} {details : T2Details}
    (read : T2Delivery.readDetails payload = .ok details) : Tuning.IsWritable details.bandwidth := by
  unfold T2Delivery.readDetails at read
  obtain ⟨fourth, -, rest⟩ := bind_eq_ok.mp read
  obtain ⟨fifth, -, made⟩ := bind_eq_ok.mp rest
  cases made
  exact writable_bandwidthOf _

end DvbScan
