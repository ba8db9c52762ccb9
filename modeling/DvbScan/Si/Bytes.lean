import DvbScan.Si.Error

/-!
# Fields of byte strings

Service information is made of big-endian words and of decimal digits packed two to a byte. A field is
read at an offset and refused if it reaches beyond the end.
-/

namespace DvbScan

abbrev Bytes := List UInt8

/-- The value of the `count` bits of a byte above its lowest `low` bits. -/
def bits (byte : UInt8) (low count : Nat) : Nat :=
  (byte.toNat >>> low) % (1 <<< count)

def flag (byte : UInt8) (low : Nat) : Bool :=
  bits byte low 1 == 1

namespace Bytes

def field (bytes : Bytes) (offset length : Nat) : Except SiError Bytes :=
  if offset + length ≤ bytes.length then .ok ((bytes.drop offset).take length)
  else .error (.truncated offset length bytes.length)

def bigEndian (bytes : Bytes) : Nat :=
  bytes.foldl (fun value byte => 256 * value + byte.toNat) 0

def number (bytes : Bytes) (offset length : Nat) : Except SiError Nat :=
  (bytes.field offset length).map bigEndian

def word8 (bytes : Bytes) (offset : Nat) : Except SiError UInt8 :=
  (bytes.number offset 1).map UInt8.ofNat

def word16 (bytes : Bytes) (offset : Nat) : Except SiError UInt16 :=
  (bytes.number offset 2).map UInt16.ofNat

/-- The low 12 bits of a word, which is how lengths are written. -/
def word12 (bytes : Bytes) (offset : Nat) : Except SiError Nat :=
  (bytes.number offset 2).map (· % 4096)

def word24 (bytes : Bytes) (offset : Nat) : Except SiError UInt32 :=
  (bytes.number offset 3).map UInt32.ofNat

def word32 (bytes : Bytes) (offset : Nat) : Except SiError UInt32 :=
  (bytes.number offset 4).map UInt32.ofNat

/-- The two digits of a byte. A digit above nine counts as it stands. -/
def decimalPair (byte : UInt8) : Nat :=
  10 * bits byte 4 4 + bits byte 0 4

def decimal8 (bytes : Bytes) (offset : Nat) : Except SiError Nat :=
  (bytes.word8 offset).map decimalPair

def decimal16 (bytes : Bytes) (offset : Nat) : Except SiError Nat := do
  let high ← bytes.decimal8 offset
  let low ← bytes.decimal8 (offset + 1)
  .ok (100 * high + low)

def decimal24 (bytes : Bytes) (offset : Nat) : Except SiError Nat := do
  let high ← bytes.decimal8 offset
  let low ← bytes.decimal16 (offset + 1)
  .ok (10000 * high + low)

def decimal32 (bytes : Bytes) (offset : Nat) : Except SiError Nat := do
  let high ← bytes.decimal16 offset
  let low ← bytes.decimal16 (offset + 2)
  .ok (10000 * high + low)

end Bytes

end DvbScan
