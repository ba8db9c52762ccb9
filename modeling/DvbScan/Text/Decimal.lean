/-!
# Decimal numerals

Numbers are written with the fewest digits. A numeral that is read may carry a plus sign and leading
zeros; a minus sign, a blank, a separator or a digit of another script makes it no numeral.
-/

namespace DvbScan.Decimal

def write (number : Nat) : String :=
  String.ofList (Nat.toDigits 10 number)

def digit? (c : Char) : Option Nat :=
  if '0' ≤ c ∧ c ≤ '9' then some (c.toNat - '0'.toNat) else none

def continueDigits (sofar : Nat) : List Char → Option Nat
  | [] => some sofar
  | c :: rest => do continueDigits (10 * sofar + (← digit? c)) rest

def digits? : List Char → Option Nat
  | [] => none
  | c :: rest => continueDigits 0 (c :: rest)

def readBelow? (limit : Nat) (text : String) : Option Nat := do
  let number ← match text.toList with
    | '+' :: rest => digits? rest
    | all => digits? all
  if number < limit then some number else none

def readWord? (text : String) : Option UInt32 :=
  (readBelow? UInt32.size text).map UInt32.ofNat

end DvbScan.Decimal
