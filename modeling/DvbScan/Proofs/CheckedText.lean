import DvbScan.Proofs.CheckedBytes
import DvbScan.Si.Text

/-!
# Broadcast text on a machine

A text is decoded by the byte in front: the rest is a slice from behind the selector, and a byte of the upper half
of the default table is looked up at its distance from the first. The tables of the other encodings are taken as
they are.
-/

namespace DvbScan.Checked

open Machine BroadcastText

def latinChar? (byte : UInt8) : Machine (Option Char) :=
  let code := byte.toNat
  if code < 0x80 then pure (some (Char.ofNat code))
  else if code = 0x8A then pure (some '\n')
  else if code < 0xA0 then pure none
  else do
    let place ← sub code 0xA0
    let char ← index latinTable place
    pure (if char = ' ' then none else some char)

def decodeLatinFrom (waiting : Option Char) : Bytes → Machine (List Char)
  | [] => pure []
  | byte :: rest =>
    match combiningMark? byte with
    | some mark => decodeLatinFrom (some mark) rest
    | none => do
      match ← latinChar? byte with
      | some char => do
        let later ← decodeLatinFrom none rest
        pure (char :: waiting.toList ++ later)
      | none => decodeLatinFrom waiting rest

def decodeLatin (bytes : Bytes) : Machine (List Char) := decodeLatinFrom none bytes

def sliceFrom (bytes : Bytes) (start : Nat) : Machine Bytes := slice bytes start bytes.length

def decodePart (part : Nat) (bytes : Bytes) (start : Nat) : Machine (List Char) := do
  let text ← sliceFrom bytes start
  match Iso8859.part? part with
  | some table => pure (decodeSingleByte table text)
  | none => decodeLatin text

def decodeChars [HanDecoders] (bytes : Bytes) : Machine (List Char) :=
  match bytes.head? with
  | none => pure []
  | some selector => do
    let code := selector.toNat
    if 0x20 ≤ code then decodeLatin bytes
    else if 0x01 ≤ code ∧ code ≤ 0x0B then do
      let part ← add .half code 4
      decodePart part bytes 1
    else if code = 0x10 then
      if bytes.length < 3 then pure []
      else do
        let high ← index bytes 1
        let low ← index bytes 2
        decodePart (Bytes.bigEndian [high, low]) bytes 3
    else if code = 0x11 then do
      let text ← sliceFrom bytes 1
      pure (withoutControlChars (Utf16.decode text))
    else if code = 0x13 then do
      let text ← sliceFrom bytes 1
      pure (withoutControlChars (HanDecoders.gbk text))
    else if code = 0x14 then do
      let text ← sliceFrom bytes 1
      pure (withoutControlChars (HanDecoders.big5 text))
    else if code = 0x15 then do
      let text ← sliceFrom bytes 1
      pure (withoutControlChars (Utf8.decode text))
    else if code = 0x1F then pure (Utf8.decode (bytes.drop 2))
    else do
      let text ← sliceFrom bytes 1
      decodeLatin text

def decode [HanDecoders] (bytes : Bytes) : Machine String := do
  let chars ← decodeChars bytes
  pure (String.ofList chars)

theorem length_latinTable : latinTable.length = 96 := by decide +kernel

theorem latinChar?_eq (byte : UInt8) : latinChar? byte = pure (BroadcastText.latinChar? byte) := by
  have small := byte.toNat_lt
  unfold latinChar? BroadcastText.latinChar?
  simp only
  split
  · rfl
  split
  · rfl
  split
  · rfl
  next upper =>
    have inside : byte.toNat - 0xA0 < latinTable.length := by
      rw [length_latinTable]
      omega
    rw [sub_eq (by omega), pure_bind, index_eq inside, pure_bind, List.getElem?_eq_getElem inside]
    generalize latinTable[byte.toNat - 0xA0] = char
    by_cases blank : char = ' '
    · subst blank
      rfl
    · rw [if_neg blank]
      split
      next same => exact absurd (Option.some.inj same) blank
      next absent => cases absent
      next same => rw [same]

theorem decodeLatinFrom_eq (waiting : Option Char) (bytes : Bytes) :
    decodeLatinFrom waiting bytes = pure (BroadcastText.decodeLatinFrom waiting bytes) := by
  induction bytes generalizing waiting with
  | nil => rfl
  | cons byte rest ih =>
    unfold decodeLatinFrom BroadcastText.decodeLatinFrom
    cases combiningMark? byte with
    | some mark => exact ih (some mark)
    | none =>
      simp only
      rw [latinChar?_eq, pure_bind]
      cases BroadcastText.latinChar? byte with
      | some char =>
        simp only
        rw [ih, pure_bind]
      | none => exact ih waiting

theorem decodeLatin_eq (bytes : Bytes) : decodeLatin bytes = pure (BroadcastText.decodeLatin bytes) :=
  decodeLatinFrom_eq none bytes

theorem sliceFrom_eq {bytes : Bytes} {start : Nat} (inside : start ≤ bytes.length) :
    sliceFrom bytes start = pure (bytes.drop start) := by
  unfold sliceFrom
  rw [slice_eq inside (Nat.le_refl _), ← List.length_drop, List.take_length]

theorem decodePart_eq (part : Nat) {bytes : Bytes} {start : Nat} (inside : start ≤ bytes.length) :
    decodePart part bytes start = pure (BroadcastText.decodePart part (bytes.drop start)) := by
  unfold decodePart BroadcastText.decodePart
  rw [sliceFrom_eq inside, pure_bind]
  cases Iso8859.part? part with
  | some table => rfl
  | none => exact decodeLatin_eq _

theorem decodeChars_eq [HanDecoders] (bytes : Bytes) : decodeChars bytes = pure (BroadcastText.decodeChars bytes) := by
  cases bytes with
  | nil => rfl
  | cons selector rest =>
    have behind : sliceFrom (selector :: rest) 1 = pure rest := sliceFrom_eq (Nat.le_add_left _ _)
    unfold decodeChars BroadcastText.decodeChars
    simp only [List.head?_cons]
    split
    · exact decodeLatin_eq _
    split
    next single =>
      rw [add_eq (by simp only [Width.values, Width.bits]; omega), pure_bind]
      exact decodePart_eq _ (Nat.le_add_left _ _)
    split
    next numbered =>
      rcases rest with _ | ⟨high, _ | ⟨low, text⟩⟩
      · rfl
      · rfl
      · rw [if_neg (by simp)]
        have part : Bytes.bigEndian [high, low] = 256 * high.toNat + low.toNat := by
          simp [Bytes.bigEndian]
        change decodePart (Bytes.bigEndian [high, low]) (selector :: high :: low :: text) 3 = _
        rw [part]
        exact decodePart_eq _ (by simp)
    split
    · rw [behind, pure_bind]
    split
    · rw [behind, pure_bind]
    split
    · rw [behind, pure_bind]
    split
    · rw [behind, pure_bind]
    split
    · rfl
    · rw [behind, pure_bind]
      exact decodeLatin_eq rest

theorem decode_eq [HanDecoders] (bytes : Bytes) : decode bytes = pure (BroadcastText.decode bytes) := by
  unfold decode BroadcastText.decode
  rw [decodeChars_eq, pure_bind]

end DvbScan.Checked
