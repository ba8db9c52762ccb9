import DvbScan.Text.Hexadecimal
import DvbScan.Toml.Value

/-!
# Strings, numbers and moments

The reader of a form takes the characters to read and gives what it has read with the rest. A reader
takes as much as its form allows and leaves it to its caller to reject what follows.
-/

namespace DvbScan.Toml

def isSpace (c : Char) : Bool := c == ' ' || c == '\t'

def skipSpaces (chars : List Char) : List Char := chars.dropWhile isSpace

/-- Characters of comments and strings: all but the controls, of which a tab may stand. -/
def isText (c : Char) : Bool := c == '\t' || (' ' ≤ c && c != '\x7f')

def prepend (c : Char) (read : Option (List Char × List Char)) : Option (List Char × List Char) :=
  read.map fun (chars, rest) => (c :: chars, rest)

def shortEscape? : Char → Option Char
  | 'b' => some '\x08'
  | 'f' => some '\x0c'
  | 'n' => some '\n'
  | 'r' => some '\r'
  | 't' => some '\t'
  | '\\' => some '\\'
  | '"' => some '"'
  | _ => none

def basicString? : List Char → Option (List Char × List Char)
  | [] => none
  | '"' :: rest => some ([], rest)
  | '\\' :: 'u' :: a :: b :: c :: d :: rest =>
    (Hexadecimal.char? [a, b, c, d]).bind fun char => prepend char (basicString? rest)
  | '\\' :: 'U' :: a :: b :: c :: d :: e :: f :: g :: h :: rest =>
    (Hexadecimal.char? [a, b, c, d, e, f, g, h]).bind fun char => prepend char (basicString? rest)
  | '\\' :: c :: rest => (shortEscape? c).bind fun char => prepend char (basicString? rest)
  | c :: rest => if isText c && c != '\\' then prepend c (basicString? rest) else none

def endsLine (chars : List Char) : Bool :=
  match skipSpaces chars with
  | '\n' :: _ => true
  | '\r' :: '\n' :: _ => true
  | _ => false

/-- Reads a string of several lines to its three closing marks, before which two more may stand. A
backslash at the end of a line takes away all blanks and line ends that follow, which is what `skipping`
says. -/
def basicLines? (skipping : Bool) : List Char → Option (List Char × List Char)
  | [] => none
  | '"' :: '"' :: '"' :: '"' :: '"' :: rest => some (['"', '"'], rest)
  | '"' :: '"' :: '"' :: '"' :: rest => some (['"'], rest)
  | '"' :: '"' :: '"' :: rest => some ([], rest)
  | '\r' :: '\n' :: rest =>
    if skipping then basicLines? true rest else prepend '\n' (basicLines? false rest)
  | '\n' :: rest =>
    if skipping then basicLines? true rest else prepend '\n' (basicLines? false rest)
  | '\\' :: 'u' :: a :: b :: c :: d :: rest =>
    (Hexadecimal.char? [a, b, c, d]).bind fun char => prepend char (basicLines? false rest)
  | '\\' :: 'U' :: a :: b :: c :: d :: e :: f :: g :: h :: rest =>
    (Hexadecimal.char? [a, b, c, d, e, f, g, h]).bind fun char => prepend char (basicLines? false rest)
  | '\\' :: c :: rest =>
    if endsLine (c :: rest) then
      if isSpace c || c == '\n' then basicLines? true rest
      else basicLines? true (rest.drop 1)
    else (shortEscape? c).bind fun char => prepend char (basicLines? false rest)
  | c :: rest =>
    if skipping && isSpace c then basicLines? true rest
    else if isText c && c != '\\' then prepend c (basicLines? false rest)
    else none
termination_by chars => chars.length

def literalString? : List Char → Option (List Char × List Char)
  | [] => none
  | '\'' :: rest => some ([], rest)
  | c :: rest => if isText c then prepend c (literalString? rest) else none

def literalLines? : List Char → Option (List Char × List Char)
  | [] => none
  | '\'' :: '\'' :: '\'' :: '\'' :: '\'' :: rest => some (['\'', '\''], rest)
  | '\'' :: '\'' :: '\'' :: '\'' :: rest => some (['\''], rest)
  | '\'' :: '\'' :: '\'' :: rest => some ([], rest)
  | '\r' :: '\n' :: rest => prepend '\n' (literalLines? rest)
  | c :: rest => if isText c || c == '\n' then prepend c (literalLines? rest) else none

def dropLineEnd : List Char → List Char
  | '\r' :: '\n' :: rest => rest
  | '\n' :: rest => rest
  | chars => chars

def string? : List Char → Option (List Char × List Char)
  | '"' :: '"' :: '"' :: rest => basicLines? false (dropLineEnd rest)
  | '"' :: rest => basicString? rest
  | '\'' :: '\'' :: '\'' :: rest => literalLines? (dropLineEnd rest)
  | '\'' :: rest => literalString? rest
  | _ => none

/-- The longest run of digits, single underscores between them left out. -/
def moreDigits (isDigit : Char → Bool) : List Char → List Char × List Char
  | [] => ([], [])
  | '_' :: c :: rest =>
    if isDigit c then
      let (digits, after) := moreDigits isDigit rest
      (c :: digits, after)
    else ([], '_' :: c :: rest)
  | c :: rest =>
    if isDigit c then
      let (digits, after) := moreDigits isDigit rest
      (c :: digits, after)
    else ([], c :: rest)

def digits? (isDigit : Char → Bool) : List Char → Option (List Char × List Char)
  | [] => none
  | c :: rest => if isDigit c then some (moreDigits isDigit (c :: rest)) else none

def ofDigits (base : Nat) (digits : List Char) : Nat :=
  digits.foldl (fun number digit => base * number + (Hexadecimal.digit? digit).getD 0) 0

def sign : List Char → Bool × List Char
  | '-' :: rest => (true, rest)
  | '+' :: rest => (false, rest)
  | chars => (false, chars)

/-- The digits of a whole number, which has no zero in front of another digit. -/
def whole? : List Char → Option (List Char × List Char)
  | '0' :: rest => some (['0'], rest)
  | chars => digits? Char.isDigit chars

def word? (number : Int) : Option Value :=
  if Int64.minValue.toInt ≤ number ∧ number ≤ Int64.maxValue.toInt then some (.integer number) else none

def based? (base : Nat) (isDigit : Char → Bool) (chars : List Char) : Option (Value × List Char) := do
  let (digits, rest) ← digits? isDigit chars
  return (← word? (ofDigits base digits), rest)

def integer? : List Char → Option (Value × List Char)
  | '0' :: 'x' :: rest => based? 16 (fun c => (Hexadecimal.digit? c).isSome) rest
  | '0' :: 'o' :: rest => based? 8 (fun c => '0' ≤ c && c ≤ '7') rest
  | '0' :: 'b' :: rest => based? 2 (fun c => c == '0' || c == '1') rest
  | chars => do
    let (negative, unsigned) := sign chars
    let (digits, rest) ← whole? unsigned
    let number : Int := ofDigits 10 digits
    return (← word? (if negative then -number else number), rest)

def exponent? : List Char → Option (Int × List Char)
  | [] => none
  | c :: rest =>
    if c == 'e' || c == 'E' then do
      let (negative, unsigned) := sign rest
      let (digits, after) ← digits? Char.isDigit unsigned
      let number : Int := ofDigits 10 digits
      return (if negative then -number else number, after)
    else none

def fraction? : List Char → Option (List Char × List Char)
  | '.' :: rest => digits? Char.isDigit rest
  | _ => none

/-- Whether a number rounds to one in double precision, and not to infinity. The least number that does
not lies half a step above the greatest of that precision. -/
def fitsDouble (mantissa : Nat) (exponent : Int) : Bool :=
  let limit := Nat.pow 2 1024 - Nat.pow 2 970
  let places : Int := (Nat.toDigits 10 mantissa).length + exponent
  if mantissa = 0 || places < 309 then true
  else if 310 < places then false
  else if 0 ≤ exponent then mantissa * Nat.pow 10 exponent.toNat < limit
  else mantissa < limit * Nat.pow 10 (-exponent).toNat

def textUpTo (chars rest : List Char) : String :=
  String.ofList (chars.take (chars.length - rest.length))

def notFinite? (chars : List Char) : Option (Value × List Char) :=
  match (sign chars).2 with
  | 'i' :: 'n' :: 'f' :: rest | 'n' :: 'a' :: 'n' :: rest => some (.float (textUpTo chars rest), rest)
  | _ => none

def finite? (chars : List Char) : Option (Value × List Char) := do
  let (negative, unsigned) := sign chars
  let (digits, rest) ← whole? unsigned
  let (places, scale, after) ← match exponent? rest with
    | some (scale, after) => some ([], scale, after)
    | none => do
      let (places, after) ← fraction? rest
      match exponent? after with
      | some (scale, last) => some (places, scale, last)
      | none => some (places, 0, after)
  if negative || fitsDouble (ofDigits 10 (digits ++ places)) (scale - places.length) then
    some (.float (textUpTo chars after), after)
  else none

def float? (chars : List Char) : Option (Value × List Char) :=
  (finite? chars).or (notFinite? chars)

def fixedDigits? (count : Nat) (chars : List Char) : Option (Nat × List Char) :=
  let digits := chars.take count
  if digits.length = count ∧ digits.all Char.isDigit then
    some (ofDigits 10 digits, chars.drop count)
  else none

def twoDigits? (least most : Nat) (chars : List Char) : Option (Nat × List Char) := do
  let (number, rest) ← fixedDigits? 2 chars
  if least ≤ number ∧ number ≤ most then some (number, rest) else none

def char? (expected : Char) : List Char → Option (List Char)
  | c :: rest => if c = expected then some rest else none
  | [] => none

def daysIn (year month : Nat) : Nat :=
  if month = 2 then
    if year % 4 = 0 ∧ (year % 100 ≠ 0 ∨ year % 400 = 0) then 29 else 28
  else if month ∈ [4, 6, 9, 11] then 30
  else 31

def date? (chars : List Char) : Option (List Char) := do
  let (year, rest) ← fixedDigits? 4 chars
  let (month, rest) ← twoDigits? 1 12 (← char? '-' rest)
  let (_, rest) ← twoDigits? 1 (daysIn year month) (← char? '-' rest)
  return rest

/-- Reads a time of the day. A minute may have a leap second. -/
def time? (chars : List Char) : Option (List Char) := do
  let (_, rest) ← twoDigits? 0 23 chars
  let (_, rest) ← twoDigits? 0 59 (← char? ':' rest)
  let (_, rest) ← twoDigits? 0 60 (← char? ':' rest)
  match rest with
  | '.' :: more =>
    let after := more.dropWhile Char.isDigit
    if after.length < more.length then some after else none
  | _ => some rest

def offset? : List Char → Option (List Char)
  | [] => none
  | c :: rest =>
    if c == 'Z' || c == 'z' then some rest
    else if c == '+' || c == '-' then do
      let (_, rest) ← twoDigits? 0 23 rest
      let (_, rest) ← twoDigits? 0 59 (← char? ':' rest)
      return rest
    else none

def timeAfterDate (chars : List Char) : List Char :=
  match chars with
  | c :: rest =>
    if c == 'T' || c == 't' || c == ' ' then
      match time? rest with
      | some after => (offset? after).getD after
      | none => chars
    else chars
  | [] => []

def moment? (chars : List Char) : Option (Value × List Char) :=
  (((date? chars).map timeAfterDate).or (time? chars)).map fun rest =>
    (.moment (textUpTo chars rest), rest)

def scalar? (chars : List Char) : Option (Value × List Char) :=
  match chars with
  | '"' :: _ | '\'' :: _ => (string? chars).map fun (text, rest) => (.string (String.ofList text), rest)
  | 't' :: 'r' :: 'u' :: 'e' :: rest => some (.boolean true, rest)
  | 'f' :: 'a' :: 'l' :: 's' :: 'e' :: rest => some (.boolean false, rest)
  | _ => ((moment? chars).or (float? chars)).or (integer? chars)

end DvbScan.Toml
