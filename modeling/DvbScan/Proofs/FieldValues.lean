import DvbScan.Proofs.CheckedDescriptors
import DvbScan.Proofs.SectionFraming
import Mathlib.Data.Nat.Digits.Lemmas

/-!
# What fields say

A field is read exactly if it ends within the bytes. A word is the number with its bytes as digits to the base of
256, and a decimal number is the one with the halves of its bytes as digits: a half may be as large as 15, but it
counts by tens. A number in decimal digits is written in one way, and is read as it was written.
-/

namespace DvbScan

namespace Bytes

/-! ## Numbers by their digits -/

/-- The number with the bytes as its digits, the highest one first. -/
def wordValue (part : Bytes) : Nat := Nat.ofDigits 256 (part.map UInt8.toNat).reverse

def halves (part : Bytes) : List Nat := part.flatMap fun byte => [byte.toNat / 16, byte.toNat % 16]

/-- The number with the halves of the bytes as its decimal digits, the highest one first. -/
def decimalValue (part : Bytes) : Nat := Nat.ofDigits 10 part.halves.reverse

/-- The lowest digits of a number, two to a byte. -/
def packed (number : Nat) : Nat → Bytes
  | 0 => []
  | count + 1 => packed (number / 100) count ++ [UInt8.ofNat (16 * (number / 10 % 10) + number % 10)]

theorem bigEndian_eq_wordValue (part : Bytes) : part.bigEndian = part.wordValue := by
  unfold bigEndian wordValue
  rw [Nat.ofDigits_eq_foldr, List.foldr_reverse, List.foldl_map]
  exact congrArg (List.foldl · 0 part) (funext₂ fun value byte => Nat.add_comm _ _)

theorem wordValue_lt (part : Bytes) : part.wordValue < 256 ^ part.length := by
  have digits : ∀ digit ∈ (part.map UInt8.toNat).reverse, digit < 256 := by
    intro digit member
    obtain ⟨byte, -, rfl⟩ := List.mem_map.mp (List.mem_reverse.mp member)
    exact byte.toNat_lt
  have bound := Nat.ofDigits_lt_base_pow_length (by decide) digits
  rwa [List.length_reverse, List.length_map] at bound

theorem halves_append (upper lower : Bytes) : halves (upper ++ lower) = upper.halves ++ lower.halves :=
  List.flatMap_append

theorem length_halves (part : Bytes) : part.halves.length = 2 * part.length := by
  simp [halves, List.length_flatMap, Nat.mul_comm]

theorem ten_pow_length_halves (part : Bytes) : 10 ^ part.halves.length = 100 ^ part.length := by
  rw [length_halves, pow_mul]
  rfl

theorem decimalValue_append (upper lower : Bytes) :
    decimalValue (upper ++ lower) = 100 ^ lower.length * upper.decimalValue + lower.decimalValue := by
  unfold decimalValue
  rw [halves_append, List.reverse_append, Nat.ofDigits_append, List.length_reverse, ten_pow_length_halves,
    Nat.add_comm]

theorem decimalValue_lt {part : Bytes} (digits : ∀ digit ∈ part.halves, digit < 10) :
    part.decimalValue < 100 ^ part.length := by
  have bound := Nat.ofDigits_lt_base_pow_length (by decide) fun digit member =>
    digits digit (List.mem_reverse.mp member)
  rwa [List.length_reverse, ten_pow_length_halves] at bound

theorem decimalValue_singleton (byte : UInt8) :
    decimalValue [byte] = 10 * (byte.toNat / 16) + byte.toNat % 16 := by
  simp only [decimalValue, halves, List.flatMap_singleton, List.reverse_cons, List.reverse_nil, List.nil_append,
    List.singleton_append, Nat.ofDigits_cons, Nat.ofDigits_nil]
  omega

theorem decimalValue_concat (front : Bytes) (last : UInt8) :
    decimalValue (front ++ [last]) = 100 * front.decimalValue + (10 * (last.toNat / 16) + last.toNat % 16) := by
  rw [decimalValue_append, decimalValue_singleton, List.length_singleton, pow_one]

theorem decimalPair_eq_decimalValue (byte : UInt8) : decimalPair byte = decimalValue [byte] := by
  have bound := byte.toNat_lt
  rw [decimalValue_singleton, decimalPair, bits_eq, bits_eq]
  simp only [Nat.reduceShiftLeft]
  omega

/-- A half counts fifteen at most, which is nine and two thirds of nine. -/
theorem decimalValue_le (part : Bytes) : 3 * part.decimalValue + 5 ≤ 5 * 100 ^ part.length := by
  induction part using List.reverseRecOn with
  | nil => decide
  | append_singleton front last ih =>
    have bound := last.toNat_lt
    rw [decimalValue_concat, List.length_append, List.length_singleton, pow_succ]
    omega

/-! ## Decimal numbers as they are written -/

theorem length_packed (number count : Nat) : (packed number count).length = count := by
  induction count generalizing number with
  | zero => rfl
  | succ count ih => rw [packed, List.length_append, ih, List.length_singleton]

theorem decimalValue_packed {number count : Nat} (small : number < 100 ^ count) :
    (packed number count).decimalValue = number := by
  induction count generalizing number with
  | zero =>
    rw [pow_zero, Nat.lt_one_iff] at small
    rw [small]
    rfl
  | succ count ih =>
    have upper : number / 100 < 100 ^ count := by
      rw [pow_succ] at small
      omega
    have pair : (UInt8.ofNat (16 * (number / 10 % 10) + number % 10)).toNat =
        16 * (number / 10 % 10) + number % 10 := by
      rw [UInt8.toNat_ofNat']
      omega
    rw [packed, decimalValue_concat, ih upper, pair]
    omega

theorem halves_packed (number count : Nat) : ∀ digit ∈ (packed number count).halves, digit < 10 := by
  induction count generalizing number with
  | zero => exact fun digit member => absurd member List.not_mem_nil
  | succ count ih =>
    intro digit member
    rw [packed, halves_append, List.mem_append, halves, halves, List.flatMap_singleton] at member
    rcases member with member | member
    · exact ih _ digit member
    · simp only [UInt8.toNat_ofNat', List.mem_cons, List.not_mem_nil, or_false] at member
      omega

theorem packed_concat {byte : UInt8} (upper : byte.toNat / 16 < 10) (lower : byte.toNat % 16 < 10)
    (number count : Nat) :
    packed (100 * number + (10 * (byte.toNat / 16) + byte.toNat % 16)) (count + 1) = packed number count ++ [byte] := by
  have rest : (100 * number + (10 * (byte.toNat / 16) + byte.toNat % 16)) / 100 = number := by omega
  have pair : 16 * ((100 * number + (10 * (byte.toNat / 16) + byte.toNat % 16)) / 10 % 10) +
      (100 * number + (10 * (byte.toNat / 16) + byte.toNat % 16)) % 10 = byte.toNat := by omega
  rw [packed, rest, pair, UInt8.ofNat_toNat]

/-- Decimal digits are the only bytes that say their number. -/
theorem packed_decimalValue {part : Bytes} (digits : ∀ digit ∈ part.halves, digit < 10) :
    packed part.decimalValue part.length = part := by
  induction part using List.reverseRecOn with
  | nil => rfl
  | append_singleton front last ih =>
    rw [halves_append] at digits
    have upper : last.toNat / 16 < 10 := digits _ (by simp [halves])
    have lower : last.toNat % 16 < 10 := digits _ (by simp [halves])
    rw [decimalValue_concat, List.length_append, List.length_singleton, packed_concat upper lower,
      ih fun digit member => digits digit (List.mem_append_left _ member)]

/-! ## Readers -/

/-- The reader gives the number that the field says if it ends within the bytes, and refuses it otherwise. -/
def ReadsExactly (read : Bytes → Nat → Except SiError Nat) (width : Nat) (value : Bytes → Nat)
    (refusal : Bytes → Nat → SiError) : Prop :=
  ∀ data offset, read data offset =
    if offset + width ≤ data.length then .ok (value ((data.drop offset).take width))
    else .error (refusal data offset)

def refusedWord (width : Nat) (data : Bytes) (offset : Nat) : SiError := .truncated offset width data.length

/-- Digits are refused at the first byte that is not there. -/
def refusedDigits (data : Bytes) (offset : Nat) : SiError := .truncated (max offset data.length) 1 data.length

theorem readsExactly_number {width : Nat} {change : Nat → Nat} {value : Bytes → Nat}
    (agree : ∀ part : Bytes, part.length = width → change part.wordValue = value part) :
    ReadsExactly (fun data offset => (data.number offset width).map change) width value (refusedWord width) := by
  intro data offset
  change Except.map change ((data.field offset width).map bigEndian) = _
  split
  next inside =>
    have length := length_of_field (field_of_inside inside)
    rw [field_of_inside inside, ← agree _ length, ← bigEndian_eq_wordValue]
    rfl
  next beyond =>
    rw [field_of_beyond (by omega)]
    rfl

theorem ReadsExactly.joined {upper lower : Bytes → Nat → Except SiError Nat} {size size' factor : Nat}
    (former : ReadsExactly upper size decimalValue refusedDigits)
    (latter : ReadsExactly lower size' decimalValue refusedDigits) (places : factor = 100 ^ size') :
    ReadsExactly (joined upper lower factor size) (size + size') decimalValue refusedDigits := by
  intro data offset
  unfold Bytes.joined
  rw [former, latter]
  by_cases inside : offset + (size + size') ≤ data.length
  · have within : offset + size + size' ≤ data.length := by omega
    have length := length_of_field (field_of_inside within)
    rw [if_pos inside, if_pos (by omega), if_pos (by omega), List.take_add, List.drop_drop, decimalValue_append, length,
      places]
    rfl
  · rw [if_neg inside]
    by_cases readable : offset + size ≤ data.length
    · have last : max (offset + size) data.length = max offset data.length := by omega
      rw [if_pos readable, if_neg (by omega), refusedDigits, last]
      rfl
    · rw [if_neg readable]
      rfl

theorem readsExactly_decimal8 : ReadsExactly decimal8 1 decimalValue refusedDigits := by
  intro data offset
  unfold decimal8 word8 number
  split
  next inside =>
    rw [field_of_inside inside, drop_eq_byteAt_cons inside]
    simp [Except.map, bigEndian, decimalPair_eq_decimalValue]
  next beyond =>
    have last : max offset data.length = offset := by omega
    rw [field_of_beyond (by omega), refusedDigits, last]
    rfl

theorem readsExactly_decimal16 : ReadsExactly decimal16 2 decimalValue refusedDigits :=
  readsExactly_decimal8.joined readsExactly_decimal8 rfl

theorem readsExactly_decimal24 : ReadsExactly decimal24 3 decimalValue refusedDigits :=
  readsExactly_decimal8.joined readsExactly_decimal16 rfl

theorem readsExactly_decimal32 : ReadsExactly decimal32 4 decimalValue refusedDigits :=
  readsExactly_decimal16.joined readsExactly_decimal16 rfl

theorem ReadsExactly.eq_ok_iff {read : Bytes → Nat → Except SiError Nat} {width : Nat} {value : Bytes → Nat}
    {refusal : Bytes → Nat → SiError} (exactly : ReadsExactly read width value refusal) {data : Bytes}
    {offset number : Nat} : read data offset = .ok number ↔
      offset + width ≤ data.length ∧ number = value ((data.drop offset).take width) := by
  rw [exactly]
  split
  next inside => simp [inside, eq_comm]
  next beyond => simp [beyond]

end Bytes

/-! ## Kinds of fields -/

inductive FieldKind where
  | word8
  | word12
  | word16
  | word24
  | word32
  | decimal8
  | decimal16
  | decimal24
  | decimal32
  deriving DecidableEq, Repr

namespace FieldKind

open Bytes Machine

def width : FieldKind → Nat
  | word8 | decimal8 => 1
  | word12 | word16 | decimal16 => 2
  | word24 | decimal24 => 3
  | word32 | decimal32 => 4

def isDecimal : FieldKind → Bool
  | word8 | word12 | word16 | word24 | word32 => false
  | decimal8 | decimal16 | decimal24 | decimal32 => true

def value : FieldKind → Bytes → Nat
  | word8, part | word16, part | word24, part | word32, part => part.wordValue
  | word12, part => part.wordValue % 4096
  | decimal8, part | decimal16, part | decimal24, part | decimal32, part => part.decimalValue

def refusal (kind : FieldKind) : Bytes → Nat → SiError :=
  if kind.isDecimal then refusedDigits else refusedWord kind.width

def read : FieldKind → Bytes → Nat → Except SiError Nat
  | word8, data, offset => (data.word8 offset).map UInt8.toNat
  | word12, data, offset => data.word12 offset
  | word16, data, offset => (data.word16 offset).map UInt16.toNat
  | word24, data, offset => (data.word24 offset).map UInt32.toNat
  | word32, data, offset => (data.word32 offset).map UInt32.toNat
  | decimal8, data, offset => data.decimal8 offset
  | decimal16, data, offset => data.decimal16 offset
  | decimal24, data, offset => data.decimal24 offset
  | decimal32, data, offset => data.decimal32 offset

def readChecked : FieldKind → Bytes → Nat → Machine Nat
  | word8, data, offset => do pure (← Checked.word8 data offset).toNat
  | word12, data, offset => Checked.word12 data offset
  | word16, data, offset => do pure (← Checked.word16 data offset).toNat
  | word24, data, offset => do pure (← Checked.word24 data offset).toNat
  | word32, data, offset => do pure (← Checked.word32 data offset).toNat
  | decimal8, data, offset => Checked.decimal8 data offset
  | decimal16, data, offset => Checked.decimal16 data offset
  | decimal24, data, offset => Checked.decimal24 data offset
  | decimal32, data, offset => Checked.decimal32 data offset

theorem readChecked_eq (kind : FieldKind) {data : Bytes} (fits : data.Fits) (offset : Nat) :
    kind.readChecked data offset = of (kind.read data offset) := by
  cases kind with
  | word8 => rw [readChecked, read, of_map, Checked.word8_eq fits]
  | word12 => exact Checked.word12_eq fits offset
  | word16 => rw [readChecked, read, of_map, Checked.word16_eq fits]
  | word24 => rw [readChecked, read, of_map, Checked.word24_eq fits]
  | word32 => rw [readChecked, read, of_map, Checked.word32_eq fits]
  | decimal8 => exact Checked.decimal8_eq fits offset
  | decimal16 => exact Checked.decimal16_eq fits offset
  | decimal24 => exact Checked.decimal24_eq fits offset
  | decimal32 => exact Checked.decimal32_eq fits offset

theorem readsExactly_word {Word : Type} {width : Nat} {make : Nat → Word} {toNat : Word → Nat}
    (room : ∀ number < 256 ^ width, toNat (make number) = number) :
    ReadsExactly (fun data offset => ((data.number offset width).map make).map toNat) width wordValue
      (refusedWord width) := by
  have exactly : ReadsExactly (fun data offset => (data.number offset width).map fun number => toNat (make number))
      width wordValue (refusedWord width) :=
    readsExactly_number fun part length => room _ (length ▸ part.wordValue_lt)
  intro data offset
  rw [← exactly]
  beta_reduce
  cases data.number offset width with
  | error reason => rfl
  | ok number => rfl

theorem readsExactly (kind : FieldKind) : ReadsExactly kind.read kind.width kind.value kind.refusal := by
  cases kind with
  | word8 => exact readsExactly_word fun number small => UInt8.toNat_ofNat_of_lt' small
  | word12 => exact readsExactly_number fun part _ => rfl
  | word16 => exact readsExactly_word fun number small => UInt16.toNat_ofNat_of_lt' small
  | word24 => exact readsExactly_word fun number small => UInt32.toNat_ofNat_of_lt' (Nat.lt_trans small (by decide))
  | word32 => exact readsExactly_word fun number small => UInt32.toNat_ofNat_of_lt' small
  | decimal8 => exact readsExactly_decimal8
  | decimal16 => exact readsExactly_decimal16
  | decimal24 => exact readsExactly_decimal24
  | decimal32 => exact readsExactly_decimal32

theorem value_of_decimal {kind : FieldKind} (decimal : kind.isDecimal) : kind.value = decimalValue := by
  cases kind <;> first | rfl | cases decimal

theorem read_digits_iff (kind : FieldKind) {data : Bytes} {offset number : Nat} (decimal : kind.isDecimal) :
    (kind.read data offset = .ok number ∧ ∀ digit ∈ halves ((data.drop offset).take kind.width), digit < 10) ↔
      number < 100 ^ kind.width ∧ data.At offset (packed number kind.width) := by
  rw [kind.readsExactly.eq_ok_iff, value_of_decimal decimal]
  constructor
  · rintro ⟨⟨inside, rfl⟩, digits⟩
    obtain ⟨length, stands⟩ := field_eq_ok_iff.mp (field_of_inside inside)
    have small := decimalValue_lt digits
    have part := packed_decimalValue digits
    rw [length] at small part
    exact ⟨small, part.symm ▸ stands⟩
  · rintro ⟨small, stands⟩
    obtain ⟨inside, part⟩ := field_eq_ok stands.field
    rw [length_packed] at inside part
    rw [← part]
    exact ⟨⟨inside, (decimalValue_packed small).symm⟩, halves_packed number kind.width⟩

end FieldKind

/-! ## Products -/

namespace Bytes

theorem frequency_fits {part : Bytes} (four : part.length = 4) : 10 * part.decimalValue < UInt32.size := by
  have bound := part.decimalValue_le
  rw [four] at bound
  simp only [UInt32.size]
  omega

theorem symbolRate_fits {part : Bytes} (three : part.length = 3) {digit : Nat} (half : digit < 16) :
    100 * (10 * part.decimalValue + digit) < UInt32.size := by
  have bound := part.decimalValue_le
  rw [three] at bound
  simp only [UInt32.size]
  omega

end Bytes

theorem SatelliteDelivery.products_of_read {payload : Bytes} {delivery : SatelliteDelivery}
    (found : SatelliteDelivery.read payload = .ok delivery) :
    delivery.frequency.toNat = 10 * Bytes.decimalValue (payload.take 4) ∧
      delivery.symbolRate.toNat =
        100 * (10 * Bytes.decimalValue ((payload.drop 7).take 3) + (payload.byteAt 10).toNat / 16) := by
  obtain ⟨codes, -, found⟩ := bind_eq_ok.mp found
  obtain ⟨frequency, carrier, found⟩ := bind_eq_ok.mp found
  obtain ⟨orbitalPosition, -, found⟩ := bind_eq_ok.mp found
  obtain ⟨symbols, rate, found⟩ := bind_eq_ok.mp found
  obtain ⟨last, mixed, found⟩ := bind_eq_ok.mp found
  cases found
  obtain ⟨-, rfl⟩ := Bytes.readsExactly_decimal32.eq_ok_iff.mp carrier
  obtain ⟨-, rfl⟩ := Bytes.readsExactly_decimal24.eq_ok_iff.mp rate
  have inside := Bytes.word8_inside mixed
  rw [Bytes.word8_of_inside inside] at mixed
  cases mixed
  have bound := (payload.byteAt 10).toNat_lt
  have digit : bits (payload.byteAt 10) 4 4 = (payload.byteAt 10).toNat / 16 := by
    rw [bits_eq]
    simp only [Nat.reduceShiftLeft]
    omega
  have four : (payload.take 4).length = 4 := List.length_take_of_le (by omega)
  have three : ((payload.drop 7).take 3).length = 3 :=
    Bytes.length_of_field (Bytes.field_of_inside (by omega))
  rw [List.drop_zero, digit]
  exact ⟨UInt32.toNat_ofNat_of_lt' (Bytes.frequency_fits four),
    UInt32.toNat_ofNat_of_lt' (Bytes.symbolRate_fits three (by omega))⟩

/-- A field of every kind is read at exactly the offsets from which its bytes are all there, and is the number that
they say; a machine reads it in the same way, at every offset that it has a word for. A decimal number is read exactly
where it was written, among the bytes that are decimal digits. Whatever the digits are, ten times the frequency and a
hundred times the symbol rate of a satellite are words, and they are what is read. -/
theorem fields_read_exactly (data : Bytes) :
    (∀ (kind : FieldKind) (offset : Nat), kind.read data offset =
      if offset + kind.width ≤ data.length then .ok (kind.value ((data.drop offset).take kind.width))
      else .error (kind.refusal data offset)) ∧
    (data.Fits → ∀ (kind : FieldKind) (offset : UInt64),
      (kind.readChecked data offset.toNat).Gives (kind.read data offset.toNat)) ∧
    (∀ (kind : FieldKind) (offset number : Nat), kind.isDecimal →
      (kind.read data offset = .ok number ∧ (∀ digit ∈ Bytes.halves ((data.drop offset).take kind.width), digit < 10) ↔
        number < 100 ^ kind.width ∧ data.At offset (Bytes.packed number kind.width))) ∧
    (∀ part : Bytes, part.length = 4 → 10 * part.decimalValue < UInt32.size) ∧
    (∀ part : Bytes, part.length = 3 → ∀ digit < 16, 100 * (10 * part.decimalValue + digit) < UInt32.size) ∧
    (∀ delivery, SatelliteDelivery.read data = .ok delivery →
      delivery.frequency.toNat = 10 * Bytes.decimalValue (data.take 4) ∧
      delivery.symbolRate.toNat =
        100 * (10 * Bytes.decimalValue ((data.drop 7).take 3) + (data.byteAt 10).toNat / 16)) ∧
    (data.Fits → (Checked.satelliteDelivery data).Gives (SatelliteDelivery.read data)) := by
  refine ⟨fun kind => kind.readsExactly data,
    fun fits kind offset => Machine.gives_of (kind.readChecked_eq fits offset.toNat),
    fun kind offset number => kind.read_digits_iff,
    fun part => Bytes.frequency_fits, fun part three digit => Bytes.symbolRate_fits three,
    fun delivery => SatelliteDelivery.products_of_read, fun fits => Machine.gives_of (Checked.satelliteDelivery_eq fits)⟩

/-! A transponder on 11023.25 MHz with 23000000 symbols per second. -/

namespace TransponderDigits

def payload : Bytes := [0x01, 0x10, 0x23, 0x25, 0x02, 0x82, 0x8E, 0x02, 0x30, 0x00, 0x03]

/-- The frequency is where its digits are written, and nothing is at the last offset that there is a word for. -/
theorem fields_of_transponder :
    payload.Fits ∧
      (FieldKind.decimal32.readChecked payload 0).Gives (.ok 1102325) ∧
      (FieldKind.word12.readChecked payload 3).Gives (.ok 1282) ∧
      (FieldKind.decimal32.readChecked payload 18446744073709551615).Gives
        (.error (.truncated 18446744073709551615 1 11)) ∧
      payload.At 0 (Bytes.packed 1102325 4) ∧
      (∃ delivery, SatelliteDelivery.read payload = .ok delivery ∧
        delivery.frequency.toNat = 10 * 1102325 ∧ delivery.symbolRate.toNat = 100 * (10 * 23000 + 0)) ∧
      100 * (10 * Bytes.decimalValue [0xFF, 0xFF, 0xFF] + 15) < UInt32.size := by
  obtain ⟨reads, machine, written, -, rates, products, -⟩ := fields_read_exactly payload
  have fits : payload.Fits := by decide
  have first := machine fits .decimal32 0
  have crossing := machine fits .word12 3
  have last := machine fits .decimal32 18446744073709551615
  rw [reads] at first crossing last
  have frequency : FieldKind.decimal32.read payload 0 = .ok 1102325 := by decide
  have digits := (written .decimal32 0 1102325 rfl).mp ⟨frequency, by decide⟩
  obtain ⟨delivery, found⟩ : ∃ delivery, SatelliteDelivery.read payload = .ok delivery := ⟨_, rfl⟩
  obtain ⟨carrier, rate⟩ := products delivery found
  exact ⟨fits, first, crossing, last, digits.2, ⟨delivery, found, carrier, rate⟩,
    rates [0xFF, 0xFF, 0xFF] rfl 15 (by decide)⟩

end TransponderDigits

end DvbScan
