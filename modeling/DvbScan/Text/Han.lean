/-!
# Two-byte Chinese character tables

A lead byte and a trail byte stand for one character; bytes below 0x80 stand for ASCII. A table says
what a lone byte 0x80 is, and which characters its pairs stand for.
What is malformed becomes a replacement character, and an ASCII byte inside it is kept.
-/

namespace DvbScan

structure HanTable where
  /-- What the byte 0x80 stands for on its own. -/
  single80 : Option Char
  /-- Whether a lead byte and a digit begin a form of four bytes. -/
  hasLongForm : Bool
  /-- The characters of the pairs, each under 256 times the lead byte plus the trail byte. -/
  pairs : List (Nat × Char)

namespace HanTable

def char? (table : HanTable) (lead trail : Nat) : Option Char :=
  (table.pairs.find? fun pair => pair.1 == 256 * lead + trail).map (·.2)

inductive Waiting where
  | nothing
  | lead (byte : Nat)
  /-- A lead byte and a digit. -/
  | digit (byte digit : Nat)
  /-- A lead byte, a digit and a second lead byte. -/
  | longer (byte digit next : Nat)
  deriving DecidableEq, Repr

def begin (table : HanTable) (byte : Nat) : List Char × Waiting :=
  if byte < 0x80 then ([Char.ofNat byte], .nothing)
  else if byte = 0x80 then ([table.single80.getD '\uFFFD'], .nothing)
  else if byte = 0xFF then (['\uFFFD'], .nothing)
  else ([], .lead byte)

def pair (table : HanTable) (lead byte : Nat) : List Char × Waiting :=
  if table.hasLongForm && 0x30 ≤ byte && byte ≤ 0x39 then ([], .digit lead byte)
  else match table.char? lead byte with
    | some char => ([char], .nothing)
    | none => if byte < 0x80 then (['\uFFFD', Char.ofNat byte], .nothing) else (['\uFFFD'], .nothing)

/-- The long form stands for characters outside this table, so it is a replacement character; a form
that is broken off gives its digit back. -/
def step (table : HanTable) (waiting : Waiting) (byte : Nat) : List Char × Waiting :=
  match waiting with
  | .nothing => table.begin byte
  | .lead lead => table.pair lead byte
  | .digit lead digit =>
    if 0x81 ≤ byte ∧ byte ≤ 0xFE then ([], .longer lead digit byte)
    else
      let (chars, waiting) := table.begin byte
      ('\uFFFD' :: Char.ofNat digit :: chars, waiting)
  | .longer _ digit next =>
    if 0x30 ≤ byte ∧ byte ≤ 0x39 then (['\uFFFD'], .nothing)
    else
      let (chars, waiting) := table.pair next byte
      ('\uFFFD' :: Char.ofNat digit :: chars, waiting)

def decodeFrom (table : HanTable) (waiting : Waiting) : List UInt8 → List Char
  | [] => if waiting = .nothing then [] else ['\uFFFD']
  | byte :: rest =>
    let (chars, waiting) := table.step waiting byte.toNat
    chars ++ table.decodeFrom waiting rest

def decode (table : HanTable) (bytes : List UInt8) : List Char :=
  table.decodeFrom .nothing bytes

end HanTable

end DvbScan
