import DvbScan.Proofs.Machine

/-!
# Fields on a machine

The readers of fields with the operations of a machine: every offset is a word, every byte is read by its index,
and the decimal digits are put together in words of 32 bits. A digit may be as large as 15, so that eight of them
make up to 166666665. Byte strings in memory have fewer than 2 to the 63 bytes, and the offsets into one never
leave their word.
-/

namespace DvbScan

/-- The byte string has a place in memory. -/
def Bytes.Fits (data : Bytes) : Prop := data.length < 9223372036854775808

instance (data : Bytes) : Decidable data.Fits :=
  inferInstanceAs (Decidable (data.length < 9223372036854775808))

namespace Bytes

variable {data part : Bytes} {offset length : Nat}

theorem Fits.of_le {larger : Bytes} (fits : larger.Fits) (smaller : data.length ≤ larger.length) :
    data.Fits :=
  Nat.lt_of_le_of_lt smaller fits

theorem Fits.drop (fits : data.Fits) (count : Nat) : Fits (data.drop count) :=
  fits.of_le (by rw [List.length_drop]; omega)

theorem field_eq_ok (read : data.field offset length = .ok part) :
    offset + length ≤ data.length ∧ part = (data.drop offset).take length := by
  unfold field at read
  split at read
  next inside =>
    cases read
    exact ⟨inside, rfl⟩
  next => cases read

theorem length_of_field (read : data.field offset length = .ok part) : part.length = length := by
  obtain ⟨inside, rfl⟩ := field_eq_ok read
  rw [List.length_take, List.length_drop]
  omega

theorem Fits.field (fits : data.Fits) (read : data.field offset length = .ok part) : part.Fits := by
  obtain ⟨inside, -⟩ := field_eq_ok read
  exact fits.of_le (by rw [length_of_field read]; omega)

theorem number_inside {value : Nat} (read : data.number offset length = .ok value) :
    offset + length ≤ data.length := by
  obtain ⟨part, found, -⟩ := map_eq_ok read
  exact (field_eq_ok found).1

theorem word8_inside {value : UInt8} (read : data.word8 offset = .ok value) :
    offset + 1 ≤ data.length := by
  obtain ⟨number, found, -⟩ := map_eq_ok read
  exact number_inside found

theorem word12_spec {value : Nat} (read : data.word12 offset = .ok value) :
    offset + 2 ≤ data.length ∧ value < 4096 := by
  obtain ⟨number, found, rfl⟩ := map_eq_ok read
  exact ⟨number_inside found, Nat.mod_lt _ (by omega)⟩

theorem bits_lt (byte : UInt8) (low count : Nat) : bits byte low count < 1 <<< count := by
  unfold bits
  refine Nat.mod_lt _ ?_
  rw [Nat.one_shiftLeft]
  exact Nat.two_pow_pos count

theorem decimalPair_le (byte : UInt8) : decimalPair byte ≤ 165 := by
  have high := bits_lt byte 4 4
  have low := bits_lt byte 0 4
  unfold decimalPair
  omega

/-- The reader takes so many bytes, and gives a number up to a bound. -/
def ReadsUpTo (read : Bytes → Nat → Except SiError Nat) (size bound : Nat) : Prop :=
  ∀ data offset value, read data offset = .ok value → offset + size ≤ data.length ∧ value ≤ bound

def joined (upper lower : Bytes → Nat → Except SiError Nat) (factor size : Nat) (data : Bytes)
    (offset : Nat) : Except SiError Nat := do
  let high ← upper data offset
  let low ← lower data (offset + size)
  .ok (factor * high + low)

theorem ReadsUpTo.joined {upper lower : Bytes → Nat → Except SiError Nat} {size size' bound bound' : Nat}
    (former : ReadsUpTo upper size bound) (latter : ReadsUpTo lower size' bound') (factor : Nat) :
    ReadsUpTo (joined upper lower factor size) (size + size') (factor * bound + bound') := by
  intro data offset value read
  obtain ⟨high, first, read⟩ := bind_eq_ok.mp read
  obtain ⟨low, second, read⟩ := bind_eq_ok.mp read
  cases read
  have above := former data offset high first
  have below := latter data (offset + size) low second
  have scaled := Nat.mul_le_mul_left factor above.2
  omega

theorem decimal8_upTo : ReadsUpTo decimal8 1 165 := by
  intro data offset value read
  obtain ⟨byte, found, rfl⟩ := map_eq_ok read
  exact ⟨word8_inside found, decimalPair_le byte⟩

theorem decimal16_upTo : ReadsUpTo decimal16 2 16665 := decimal8_upTo.joined decimal8_upTo 100
theorem decimal24_upTo : ReadsUpTo decimal24 3 1666665 := decimal8_upTo.joined decimal16_upTo 10000
theorem decimal32_upTo : ReadsUpTo decimal32 4 166666665 := decimal16_upTo.joined decimal16_upTo 10000

end Bytes

namespace Checked

open Machine

/-- The end of the field is computed without a carry, and looked up. -/
def field (data : Bytes) (offset length : Nat) : Machine Bytes :=
  if offset + length < Width.size.values ∧ offset + length ≤ data.length then
    pure ((data.drop offset).take length)
  else refuse (.truncated offset length data.length)

def word8 (data : Bytes) (offset : Nat) : Machine UInt8 := do
  let part ← field data offset 1
  index part 0

def word16 (data : Bytes) (offset : Nat) : Machine UInt16 := do
  let part ← field data offset 2
  let high ← index part 0
  let low ← index part 1
  pure (UInt16.ofNat (Bytes.bigEndian [high, low]))

/-- Masking cannot fail. -/
def word12 (data : Bytes) (offset : Nat) : Machine Nat := do
  let word ← word16 data offset
  pure (word.toNat &&& 0xFFF)

def word24 (data : Bytes) (offset : Nat) : Machine UInt32 := do
  let part ← field data offset 3
  let first ← index part 0
  let second ← index part 1
  let third ← index part 2
  pure (UInt32.ofNat (Bytes.bigEndian [0, first, second, third]))

def word32 (data : Bytes) (offset : Nat) : Machine UInt32 := do
  let part ← field data offset 4
  let first ← index part 0
  let second ← index part 1
  let third ← index part 2
  let fourth ← index part 3
  pure (UInt32.ofNat (Bytes.bigEndian [first, second, third, fourth]))

def decimalPair (byte : UInt8) : Machine Nat := do
  let tens ← mul .word (bits byte 4 4) 10
  add .word tens (bits byte 0 4)

def decimal8 (data : Bytes) (offset : Nat) : Machine Nat := do
  let byte ← word8 data offset
  decimalPair byte

def joined (upper lower : Bytes → Nat → Machine Nat) (factor size : Nat) (data : Bytes) (offset : Nat) :
    Machine Nat := do
  let high ← upper data offset
  let scaled ← mul .word high factor
  let place ← add .size offset size
  let low ← lower data place
  add .word scaled low

def decimal16 : Bytes → Nat → Machine Nat := joined decimal8 decimal8 100 1
def decimal24 : Bytes → Nat → Machine Nat := joined decimal8 decimal16 10000 1
def decimal32 : Bytes → Nat → Machine Nat := joined decimal16 decimal16 10000 2

variable {data : Bytes} {offset length : Nat}

theorem field_eq (fits : data.Fits) (offset length : Nat) :
    field data offset length = of (data.field offset length) := by
  unfold field Bytes.field
  by_cases inside : offset + length ≤ data.length
  · have small : offset + length < Width.size.values := by
      unfold Bytes.Fits at fits
      simp only [Width.values, Width.bits]
      omega
    rw [if_pos ⟨small, inside⟩, if_pos inside]
    rfl
  · rw [if_neg (fun both => inside both.2), if_neg inside]
    rfl

/-- A sum that stays near the byte string does not leave its word. -/
theorem add_size (fits : data.Fits) {first second : Nat} (near : first + second ≤ data.length + 65536) :
    add .size first second = pure (first + second) := by
  unfold Bytes.Fits at fits
  refine add_eq ?_
  simp only [Width.values, Width.bits]
  omega

theorem number_eq {α : Type} (fits : data.Fits) (offset length : Nat) (make : Nat → α)
    (read : Bytes → Machine α)
    (agree : ∀ part : Bytes, part.length = length → read part = pure (make part.bigEndian)) :
    (do let part ← field data offset length; read part) = of ((data.number offset length).map make) := by
  rw [field_eq fits]
  cases found : data.field offset length with
  | error reason =>
    unfold Bytes.number
    rw [found]
    rfl
  | ok part =>
    have whole := agree part (Bytes.length_of_field found)
    unfold Bytes.number
    rw [found, of_ok, pure_bind, whole]
    rfl

theorem word8_eq (fits : data.Fits) (offset : Nat) : word8 data offset = of (data.word8 offset) := by
  refine number_eq fits offset 1 UInt8.ofNat (index · 0) fun part single => ?_
  obtain ⟨byte, rfl⟩ := List.length_eq_one_iff.mp single
  simp [index, Bytes.bigEndian]

theorem word16_eq (fits : data.Fits) (offset : Nat) : word16 data offset = of (data.word16 offset) := by
  refine number_eq fits offset 2 UInt16.ofNat _ fun part pair => ?_
  match part, pair with
  | [high, low], _ => rfl

theorem word12_eq (fits : data.Fits) (offset : Nat) : word12 data offset = of (data.word12 offset) := by
  unfold word12
  rw [word16_eq fits]
  unfold Bytes.word16 Bytes.word12
  cases found : data.number offset 2 with
  | error reason => rfl
  | ok number =>
    change (pure ((UInt16.ofNat number).toNat &&& 0xFFF) : Machine Nat) = pure (number % 4096)
    rw [UInt16.toNat_ofNat', Nat.and_two_pow_sub_one_eq_mod _ 12]
    congr 1
    omega

theorem word24_eq (fits : data.Fits) (offset : Nat) : word24 data offset = of (data.word24 offset) := by
  refine number_eq fits offset 3 UInt32.ofNat _ fun part three => ?_
  match part, three with
  | [first, second, third], _ => rfl

theorem word32_eq (fits : data.Fits) (offset : Nat) : word32 data offset = of (data.word32 offset) := by
  refine number_eq fits offset 4 UInt32.ofNat _ fun part four => ?_
  match part, four with
  | [first, second, third, fourth], _ => rfl

theorem decimalPair_eq (byte : UInt8) : decimalPair byte = pure (Bytes.decimalPair byte) := by
  have high := Bytes.bits_lt byte 4 4
  have low := Bytes.bits_lt byte 0 4
  unfold decimalPair Bytes.decimalPair
  rw [mul_word (by omega), pure_bind, add_word (by omega), Nat.mul_comm]

theorem decimal8_eq (fits : data.Fits) (offset : Nat) :
    decimal8 data offset = of (data.decimal8 offset) := by
  unfold decimal8 Bytes.decimal8
  rw [word8_eq fits, of_map]
  exact congrArg _ (funext fun byte => decimalPair_eq byte)

theorem joined_eq {upper lower : Bytes → Nat → Machine Nat}
    {upper' lower' : Bytes → Nat → Except SiError Nat} {size size' bound bound' factor : Nat} (fits : data.Fits)
    (agree : ∀ offset, upper data offset = of (upper' data offset))
    (agree' : ∀ offset, lower data offset = of (lower' data offset))
    (former : Bytes.ReadsUpTo upper' size bound) (latter : Bytes.ReadsUpTo lower' size' bound')
    (small : factor * bound + bound' < 4294967296) (offset : Nat) :
    joined upper lower factor size data offset = of (Bytes.joined upper' lower' factor size data offset) := by
  unfold joined Bytes.joined
  rw [agree]
  refine bind_of fun high first => ?_
  have above := former data offset high first
  have scaled := Nat.mul_le_mul_left factor above.2
  rw [mul_word (by rw [Nat.mul_comm]; omega), pure_bind, add_size fits (by omega), pure_bind, agree']
  refine bind_of fun low second => ?_
  have below := latter data (offset + size) low second
  rw [add_word (by rw [Nat.mul_comm]; omega), Nat.mul_comm]
  rfl

theorem decimal16_eq (fits : data.Fits) (offset : Nat) :
    decimal16 data offset = of (data.decimal16 offset) :=
  joined_eq fits (decimal8_eq fits) (decimal8_eq fits) Bytes.decimal8_upTo Bytes.decimal8_upTo
    (by decide) offset

theorem decimal24_eq (fits : data.Fits) (offset : Nat) :
    decimal24 data offset = of (data.decimal24 offset) :=
  joined_eq fits (decimal8_eq fits) (decimal16_eq fits) Bytes.decimal8_upTo Bytes.decimal16_upTo
    (by decide) offset

theorem decimal32_eq (fits : data.Fits) (offset : Nat) :
    decimal32 data offset = of (data.decimal32 offset) :=
  joined_eq fits (decimal16_eq fits) (decimal16_eq fits) Bytes.decimal16_upTo Bytes.decimal16_upTo (by decide)
    offset

end Checked

end DvbScan
