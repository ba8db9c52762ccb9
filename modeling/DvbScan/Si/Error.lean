/-!
# Why service information is refused
-/

namespace DvbScan

inductive SiError where
  /-- A field of `needed` bytes at `offset` reaches beyond data of the given length. -/
  | truncated (offset needed length : Nat)
  /-- The length of a section leaves no room for its header and its check sum. -/
  | sectionLengthTooSmall (length : Nat)
  /-- There are fewer bytes than the length of the section announces. -/
  | incomplete (expected actual : Nat)
  /-- A section of a table that its receiver does not handle. -/
  | unexpectedTable (tableId : UInt8)
  deriving DecidableEq, Repr

namespace SiError

def tableIdText (tableId : UInt8) : String :=
  let digit (value : Nat) : Char := (Nat.digitChar value).toUpper
  "0x" ++ String.ofList [digit (tableId.toNat / 16), digit (tableId.toNat % 16)]

def message : SiError → String
  | truncated offset needed length =>
    "Data too short: need " ++ toString needed ++ " bytes at offset " ++ toString offset ++
      ", have " ++ toString length
  | sectionLengthTooSmall length => "Section length too small: " ++ toString length
  | incomplete expected actual =>
    "Incomplete section: expected " ++ toString expected ++ " bytes, got " ++ toString actual
  | unexpectedTable tableId => "Unexpected table id " ++ tableIdText tableId

end SiError

end DvbScan
