import DvbScan.Si.Bytes

/-!
# Sections

A table is sent in sections. A section has a header of eight bytes, a payload and a check sum of four
bytes. The check sum has been verified before a section gets here; it is no data.
-/

namespace DvbScan

structure SectionHeader where
  tableId : UInt8
  /-- The number of bytes after the length field. -/
  length : Nat
  /-- The network, bouquet or transport stream that the table is about. -/
  sectionId : UInt16
  version : UInt8
  /-- Whether the section applies now, and not only from the next version on. -/
  isCurrent : Bool
  number : UInt8
  lastNumber : UInt8
  deriving DecidableEq, Repr

structure Section where
  header : SectionHeader
  /-- The whole section, from the table identifier to the check sum. -/
  bytes : Bytes
  deriving DecidableEq, Repr

namespace Section

def headerLength : Nat := 8
def checksumLength : Nat := 4

def payloadEnd (whole : Section) : Nat :=
  whole.bytes.length - checksumLength

/-- Reads the section at the front of the data; what follows it is not looked at. -/
def parse (data : Bytes) : Except SiError Section := do
  let length ← data.word12 1
  if length < headerLength - 3 + checksumLength then
    .error (.sectionLengthTooSmall length)
  else if data.length < 3 + length then
    .error (.incomplete (3 + length) data.length)
  else do
    let bytes : Bytes := data.take (3 + length)
    let tableId ← bytes.word8 0
    let sectionId ← bytes.word16 3
    let versionByte ← bytes.word8 5
    let number ← bytes.word8 6
    let lastNumber ← bytes.word8 7
    .ok {
      header := {
        tableId, length, sectionId, number, lastNumber
        version := UInt8.ofNat (bits versionByte 1 5)
        isCurrent := flag versionByte 0 }
      bytes }

/-- The bytes of the descriptor loop whose length field is at the offset. The loop ends within the
payload. -/
def descriptorsAt (whole : Section) (offset : Nat) : Except SiError Bytes := do
  let length ← whole.bytes.word12 offset
  let start := offset + 2
  if start + length ≤ whole.payloadEnd then .ok ((whole.bytes.drop start).take length)
  else .error (.truncated start length whole.payloadEnd)

end Section

end DvbScan
