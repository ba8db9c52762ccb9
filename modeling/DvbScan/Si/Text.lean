import DvbScan.Text.Iso8859
import DvbScan.Text.Unicode
import DvbScan.Si.Bytes

/-!
# Broadcast text

A name in a descriptor is a byte string that may begin with a selector for a character table. Without one
the default Latin table applies, in which a diacritic comes before the letter that it modifies. Bytes (or,
in the wide tables, characters) of a control range are no text: one of them begins a new line, the others
are dropped.
-/

namespace DvbScan

/-- The decoders of the two-byte Chinese tables, for simplified and for traditional characters. The tables come from
outside, and what is said of texts holds whatever is in them. -/
class HanDecoders where
  gbk : Bytes → List Char
  big5 : Bytes → List Char

namespace HanDecoders

def decodeAscii (bytes : Bytes) : List Char :=
  bytes.map fun byte => if byte < 0x80 then Char.ofNat byte.toNat else '\uFFFD'

scoped instance ascii : HanDecoders := ⟨decodeAscii, decodeAscii⟩

end HanDecoders

namespace BroadcastText

def combiningMark? (byte : UInt8) : Option Char :=
  match byte.toNat with
  | 0xC1 => some '\u0300'
  | 0xC2 => some '\u0301'
  | 0xC3 => some '\u0302'
  | 0xC4 => some '\u0303'
  | 0xC5 => some '\u0304'
  | 0xC6 => some '\u0306'
  | 0xC7 => some '\u0307'
  | 0xC8 => some '\u0308'
  | 0xCA => some '\u030A'
  | 0xCB => some '\u0327'
  | 0xCD => some '\u030B'
  | 0xCE => some '\u0328'
  | 0xCF => some '\u030C'
  | _ => none

/-- The characters for the bytes from 0xA0, sixteen to a line. A blank stands for a byte without a
character, among them the bytes of the diacritics. -/
def latinTable : List Char :=
  ("\u00a0¡¢£$¥#§¤‘“«←↑→↓" ++
   "°±²³×µ¶·÷’”»¼½¾¿" ++
   "                " ++
   "―¹®©™♪¬¦    ⅛⅜⅝⅞" ++
   "ΩÆĐªĦ ĲĿŁØŒºÞŦŊŉ" ++
   "ĸæđðħıĳŀłøœßþŧŋ\u00ad").toList

def latinChar? (byte : UInt8) : Option Char :=
  let code := byte.toNat
  if code < 0x80 then some (Char.ofNat code)
  else if code = 0x8A then some '\n'
  else if code < 0xA0 then none
  else match latinTable[code - 0xA0]? with
    | some ' ' | none => none
    | some char => some char

/-- A diacritic waits for the next character and follows it; of several the last counts, and one that
nothing follows is dropped. -/
def decodeLatinFrom (waiting : Option Char) : Bytes → List Char
  | [] => []
  | byte :: rest =>
    match combiningMark? byte with
    | some mark => decodeLatinFrom (some mark) rest
    | none =>
      match latinChar? byte with
      | some char => char :: waiting.toList ++ decodeLatinFrom none rest
      | none => decodeLatinFrom waiting rest

def decodeLatin (bytes : Bytes) : List Char :=
  decodeLatinFrom none bytes

def withoutControlBytes (bytes : Bytes) : Bytes :=
  bytes.filterMap fun byte =>
    if byte = 0x8A then some 0x0A
    else if 0x80 ≤ byte ∧ byte ≤ 0x9F then none
    else some byte

def decodeSingleByte (table : String) (bytes : Bytes) : List Char :=
  Iso8859.decode table (withoutControlBytes bytes)

def withoutControlChars (chars : List Char) : List Char :=
  chars.filterMap fun char =>
    if char = '\uE08A' then some '\n'
    else if '\uE080' ≤ char ∧ char ≤ '\uE09F' then none
    else some char

/-- The rest of a text after a selector of a part of ISO/IEC 8859; an unknown part means the default
table. -/
def decodePart (part : Nat) (bytes : Bytes) : List Char :=
  match Iso8859.part? part with
  | some table => decodeSingleByte table bytes
  | none => decodeLatin bytes

/-- Selectors 0x01 to 0x0B number the parts from 5 on, and 0x10 is followed by the number of a part.
Text after 0x1F is compressed and given as it stands. -/
def decodeChars [HanDecoders] : Bytes → List Char
  | [] => []
  | selector :: rest =>
    let code := selector.toNat
    if 0x20 ≤ code then decodeLatin (selector :: rest)
    else if 0x01 ≤ code ∧ code ≤ 0x0B then decodePart (code + 4) rest
    else if code = 0x10 then
      match rest with
      | high :: low :: text => decodePart (256 * high.toNat + low.toNat) text
      | _ => []
    else if code = 0x11 then withoutControlChars (Utf16.decode rest)
    else if code = 0x13 then withoutControlChars (HanDecoders.gbk rest)
    else if code = 0x14 then withoutControlChars (HanDecoders.big5 rest)
    else if code = 0x15 then withoutControlChars (Utf8.decode rest)
    else if code = 0x1F then Utf8.decode (rest.drop 1)
    else decodeLatin rest

def decode [HanDecoders] (bytes : Bytes) : String :=
  String.ofList (decodeChars bytes)

end BroadcastText

end DvbScan
