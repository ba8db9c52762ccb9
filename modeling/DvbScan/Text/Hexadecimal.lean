/-!
# Hexadecimal numerals

Lowercase with the fewest digits, or capitals with as many digits as asked for. Bytes are written with two
digits each.
-/

namespace DvbScan.Hexadecimal

def write (number : Nat) : String :=
  String.ofList (Nat.toDigits 16 number)

/-- Capital digits, the last `count` of the number. -/
def writeFixed (number : Nat) : Nat → String
  | 0 => ""
  | count + 1 => writeFixed (number / 16) count ++ String.singleton (Nat.digitChar (number % 16)).toUpper

def writeBytes (bytes : List UInt8) : String :=
  String.ofList <| bytes.flatMap fun byte =>
    [Nat.digitChar (byte.toNat / 16), Nat.digitChar (byte.toNat % 16)]

def digit? (c : Char) : Option Nat :=
  if c.isDigit then some (c.toNat - '0'.toNat)
  else if 'a' ≤ c ∧ c ≤ 'f' then some (c.toNat - 'a'.toNat + 10)
  else if 'A' ≤ c ∧ c ≤ 'F' then some (c.toNat - 'A'.toNat + 10)
  else none

def readPairs? : List Char → Option (List UInt8)
  | [] => some []
  | [_] => none
  | first :: second :: rest => do
    return UInt8.ofNat (16 * (← digit? first) + (← digit? second)) :: (← readPairs? rest)

def readBytes? (text : String) : Option (List UInt8) :=
  readPairs? text.toList

def char? (digits : List Char) : Option Char := do
  let values ← digits.mapM digit?
  let number := values.foldl (fun number value => 16 * number + value) 0
  if number.isValidChar then some (Char.ofNat number) else none

end DvbScan.Hexadecimal
