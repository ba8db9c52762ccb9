/-!
# Decoding Unicode

Malformed input is decoded too: each longest run of bytes that begins a well-formed sequence but does not
complete it, and each byte that begins none, becomes one replacement character.
-/

namespace DvbScan

namespace Utf8

/-- A sequence that has begun: how many bytes are missing, the bits so far, and the range that the next
byte has to lie in. Nothing is missing between two sequences. -/
structure Pending where
  missing : Nat
  value : Nat
  lowest : Nat
  highest : Nat
  deriving DecidableEq, Repr

def Pending.none : Pending := ⟨0, 0, 0, 0⟩

def Pending.next (missing value : Nat) : Pending := ⟨missing, value, 0x80, 0xBF⟩

def begin (byte : Nat) : List Char × Pending :=
  if byte < 0x80 then ([Char.ofNat byte], .none)
  else if 0xC2 ≤ byte ∧ byte ≤ 0xDF then ([], .next 1 (byte - 0xC0))
  else if byte = 0xE0 then ([], ⟨2, 0, 0xA0, 0xBF⟩)
  else if byte = 0xED then ([], ⟨2, 0xD, 0x80, 0x9F⟩)
  else if 0xE1 ≤ byte ∧ byte ≤ 0xEF then ([], .next 2 (byte - 0xE0))
  else if byte = 0xF0 then ([], ⟨3, 0, 0x90, 0xBF⟩)
  else if 0xF1 ≤ byte ∧ byte ≤ 0xF3 then ([], .next 3 (byte - 0xF0))
  else if byte = 0xF4 then ([], ⟨3, 4, 0x80, 0x8F⟩)
  else (['\uFFFD'], .none)

def step (pending : Pending) (byte : Nat) : List Char × Pending :=
  if pending.missing = 0 then begin byte
  else if pending.lowest ≤ byte ∧ byte ≤ pending.highest then
    let value := 64 * pending.value + byte % 64
    if pending.missing = 1 then ([Char.ofNat value], .none)
    else ([], .next (pending.missing - 1) value)
  else
    let (chars, pending) := begin byte
    ('\uFFFD' :: chars, pending)

def decodeFrom (pending : Pending) : List UInt8 → List Char
  | [] => if pending.missing = 0 then [] else ['\uFFFD']
  | byte :: rest =>
    let (chars, pending) := step pending byte.toNat
    chars ++ decodeFrom pending rest

def decode (bytes : List UInt8) : List Char :=
  decodeFrom .none bytes

end Utf8

namespace Utf16

def isHigh (unit : Nat) : Bool := 0xD800 ≤ unit && unit < 0xDC00

def isLow (unit : Nat) : Bool := 0xDC00 ≤ unit && unit < 0xE000

/-- Big-endian units. A byte left over at the end is malformed together with half a pair before it. -/
def decode : List UInt8 → List Char
  | [] => []
  | [_] => ['\uFFFD']
  | high :: low :: [] =>
    let unit := 256 * high.toNat + low.toNat
    if isHigh unit || isLow unit then ['\uFFFD'] else [Char.ofNat unit]
  | high :: low :: [_] =>
    let unit := 256 * high.toNat + low.toNat
    if isHigh unit then ['\uFFFD']
    else if isLow unit then ['\uFFFD', '\uFFFD'] else [Char.ofNat unit, '\uFFFD']
  | high :: low :: high' :: low' :: rest =>
    let unit := 256 * high.toNat + low.toNat
    let following := 256 * high'.toNat + low'.toNat
    if isHigh unit then
      if isLow following then
        Char.ofNat (0x10000 + 1024 * (unit - 0xD800) + (following - 0xDC00)) :: decode rest
      else '\uFFFD' :: decode (high' :: low' :: rest)
    else if isLow unit then '\uFFFD' :: decode (high' :: low' :: rest)
    else Char.ofNat unit :: decode (high' :: low' :: rest)

end Utf16

end DvbScan
