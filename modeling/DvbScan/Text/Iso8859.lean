/-!
# The single-byte character tables

Each table extends ASCII by 96 characters for the bytes from 0xA0 to 0xFF. It is written as the string of
those characters, sixteen to a line, with U+FFFD for a byte that stands for none. The tables are numbered
as the parts of ISO/IEC 8859, some with the characters that were added to them in use.
-/

namespace DvbScan.Iso8859

def replacement : Char := '\uFFFD'

def part1 : String :=
  "\u00a0¡¢£¤¥¦§¨©\u00aa«¬\u00ad®¯" ++
  "°±²³´µ¶·¸¹\u00ba»¼½¾¿" ++
  "ÀÁÂÃÄÅÆÇÈÉÊËÌÍÎÏ" ++
  "ÐÑÒÓÔÕÖ×ØÙÚÛÜÝÞß" ++
  "àáâãäåæçèéêëìíîï" ++
  "ðñòóôõö÷øùúûüýþÿ"

def part2 : String :=
  "\u00a0Ą˘Ł¤ĽŚ§¨ŠŞŤŹ\u00adŽŻ" ++
  "°ą˛ł´ľśˇ¸šşťź˝žż" ++
  "ŔÁÂĂÄĹĆÇČÉĘËĚÍÎĎ" ++
  "ĐŃŇÓÔŐÖ×ŘŮÚŰÜÝŢß" ++
  "ŕáâăäĺćçčéęëěíîď" ++
  "đńňóôőö÷řůúűüýţ˙"

def part3 : String :=
  "\u00a0Ħ˘£¤\ufffdĤ§¨İŞĞĴ\u00ad\ufffdŻ" ++
  "°ħ²³´µĥ·¸ışğĵ½\ufffdż" ++
  "ÀÁÂ\ufffdÄĊĈÇÈÉÊËÌÍÎÏ" ++
  "\ufffdÑÒÓÔĠÖ×ĜÙÚÛÜŬŜß" ++
  "àáâ\ufffdäċĉçèéêëìíîï" ++
  "\ufffdñòóôġö÷ĝùúûüŭŝ˙"

def part4 : String :=
  "\u00a0ĄĸŖ¤ĨĻ§¨ŠĒĢŦ\u00adŽ¯" ++
  "°ą˛ŗ´ĩļˇ¸šēģŧŊžŋ" ++
  "ĀÁÂÃÄÅÆĮČÉĘËĖÍÎĪ" ++
  "ĐŅŌĶÔÕÖ×ØŲÚÛÜŨŪß" ++
  "āáâãäåæįčéęëėíîī" ++
  "đņōķôõö÷øųúûüũū˙"

def part5 : String :=
  "\u00a0ЁЂЃЄЅІЇЈЉЊЋЌ\u00adЎЏ" ++
  "АБВГДЕЖЗИЙКЛМНОП" ++
  "РСТУФХЦЧШЩЪЫЬЭЮЯ" ++
  "абвгдежзийклмноп" ++
  "рстуфхцчшщъыьэюя" ++
  "№ёђѓєѕіїјљњћќ§ўџ"

def part6 : String :=
  "\u00a0\ufffd\ufffd\ufffd¤\ufffd\ufffd\ufffd\ufffd\ufffd\ufffd\ufffd،\u00ad\ufffd\ufffd" ++
  "\ufffd\ufffd\ufffd\ufffd\ufffd\ufffd\ufffd\ufffd\ufffd\ufffd\ufffd\u061b\ufffd\ufffd\ufffd\u061f" ++
  "\ufffd\u0621\u0622\u0623\u0624\u0625\u0626\u0627\u0628\u0629\u062a\u062b\u062c\u062d\u062e\u062f" ++
  "\u0630\u0631\u0632\u0633\u0634\u0635\u0636\u0637\u0638\u0639\u063a\ufffd\ufffd\ufffd\ufffd\ufffd" ++
  "\u0640\u0641\u0642\u0643\u0644\u0645\u0646\u0647\u0648\u0649\u064a\u064b\u064c\u064d\u064e\u064f" ++
  "\u0650\u0651\u0652\ufffd\ufffd\ufffd\ufffd\ufffd\ufffd\ufffd\ufffd\ufffd\ufffd\ufffd\ufffd\ufffd"

def part7 : String :=
  "\u00a0‘’£€₯¦§¨©ͺ«¬\u00ad\ufffd―" ++
  "°±²³΄΅Ά·ΈΉΊ»Ό½ΎΏ" ++
  "ΐΑΒΓΔΕΖΗΘΙΚΛΜΝΞΟ" ++
  "ΠΡ\ufffdΣΤΥΦΧΨΩΪΫάέήί" ++
  "ΰαβγδεζηθικλμνξο" ++
  "πρςστυφχψωϊϋόύώ\ufffd"

def part8 : String :=
  "\u00a0\ufffd¢£¤¥¦§¨©×«¬\u00ad®¯" ++
  "°±²³´µ¶·¸¹÷»¼½¾\ufffd" ++
  "\ufffd\ufffd\ufffd\ufffd\ufffd\ufffd\ufffd\ufffd\ufffd\ufffd\ufffd\ufffd\ufffd\ufffd\ufffd\ufffd" ++
  "\ufffd\ufffd\ufffd\ufffd\ufffd\ufffd\ufffd\ufffd\ufffd\ufffd\ufffd\ufffd\ufffd\ufffd\ufffd‗" ++
  "\u05d0\u05d1\u05d2\u05d3\u05d4\u05d5\u05d6\u05d7\u05d8\u05d9\u05da\u05db\u05dc\u05dd\u05de\u05df" ++
  "\u05e0\u05e1\u05e2\u05e3\u05e4\u05e5\u05e6\u05e7\u05e8\u05e9\u05ea\ufffd\ufffd\u200e\u200f\ufffd"

def part9 : String :=
  "\u00a0¡¢£¤¥¦§¨©\u00aa«¬\u00ad®¯" ++
  "°±²³´µ¶·¸¹\u00ba»¼½¾¿" ++
  "ÀÁÂÃÄÅÆÇÈÉÊËÌÍÎÏ" ++
  "ĞÑÒÓÔÕÖ×ØÙÚÛÜİŞß" ++
  "àáâãäåæçèéêëìíîï" ++
  "ğñòóôõö÷øùúûüışÿ"

def part10 : String :=
  "\u00a0ĄĒĢĪĨĶ§ĻĐŠŦŽ\u00adŪŊ" ++
  "°ąēģīĩķ·ļđšŧž―ūŋ" ++
  "ĀÁÂÃÄÅÆĮČÉĘËĖÍÎÏ" ++
  "ÐŅŌÓÔÕÖŨØŲÚÛÜÝÞß" ++
  "āáâãäåæįčéęëėíîï" ++
  "ðņōóôõöũøųúûüýþĸ"

def part11 : String :=
  "\u00a0\u0e01\u0e02\u0e03\u0e04\u0e05\u0e06\u0e07\u0e08\u0e09\u0e0a\u0e0b\u0e0c\u0e0d\u0e0e\u0e0f" ++
  "\u0e10\u0e11\u0e12\u0e13\u0e14\u0e15\u0e16\u0e17\u0e18\u0e19\u0e1a\u0e1b\u0e1c\u0e1d\u0e1e\u0e1f" ++
  "\u0e20\u0e21\u0e22\u0e23\u0e24\u0e25\u0e26\u0e27\u0e28\u0e29\u0e2a\u0e2b\u0e2c\u0e2d\u0e2e\u0e2f" ++
  "\u0e30\u0e31\u0e32\u0e33\u0e34\u0e35\u0e36\u0e37\u0e38\u0e39\u0e3a\ufffd\ufffd\ufffd\ufffd฿" ++
  "\u0e40\u0e41\u0e42\u0e43\u0e44\u0e45ๆ\u0e47\u0e48\u0e49\u0e4a\u0e4b\u0e4c\u0e4d\u0e4e๏" ++
  "๐๑๒๓๔๕๖๗๘๙๚๛\ufffd\ufffd\ufffd\ufffd"

def part13 : String :=
  "\u00a0”¢£¤„¦§Ø©Ŗ«¬\u00ad®Æ" ++
  "°±²³“µ¶·ø¹ŗ»¼½¾æ" ++
  "ĄĮĀĆÄÅĘĒČÉŹĖĢĶĪĻ" ++
  "ŠŃŅÓŌÕÖ×ŲŁŚŪÜŻŽß" ++
  "ąįāćäåęēčéźėģķīļ" ++
  "šńņóōõö÷ųłśūüżž’"

def part14 : String :=
  "\u00a0Ḃḃ£ĊċḊ§Ẁ©ẂḋỲ\u00ad®Ÿ" ++
  "ḞḟĠġṀṁ¶ṖẁṗẃṠỳẄẅṡ" ++
  "ÀÁÂÃÄÅÆÇÈÉÊËÌÍÎÏ" ++
  "ŴÑÒÓÔÕÖṪØÙÚÛÜÝŶß" ++
  "àáâãäåæçèéêëìíîï" ++
  "ŵñòóôõöṫøùúûüýŷÿ"

def part15 : String :=
  "\u00a0¡¢£€¥Š§š©\u00aa«¬\u00ad®¯" ++
  "°±²³Žµ¶·ž¹\u00ba»ŒœŸ¿" ++
  "ÀÁÂÃÄÅÆÇÈÉÊËÌÍÎÏ" ++
  "ÐÑÒÓÔÕÖ×ØÙÚÛÜÝÞß" ++
  "àáâãäåæçèéêëìíîï" ++
  "ðñòóôõö÷øùúûüýþÿ"

def part16 : String :=
  "\u00a0ĄąŁ€„Š§š©Ș«Ź\u00adźŻ" ++
  "°±ČłŽ”¶·žčș»ŒœŸż" ++
  "ÀÁÂĂÄĆÆÇÈÉÊËÌÍÎÏ" ++
  "ĐŃÒÓÔŐÖŚŰÙÚÛÜĘȚß" ++
  "àáâăäćæçèéêëìíîï" ++
  "đńòóôőöśűùúûüęțÿ"

/-- The characters for the bytes from 0xA0 of a part; some numbers stand for no part. -/
def part? : Nat → Option String
  | 1 => some part1
  | 2 => some part2
  | 3 => some part3
  | 4 => some part4
  | 5 => some part5
  | 6 => some part6
  | 7 => some part7
  | 8 => some part8
  | 9 => some part9
  | 10 => some part10
  | 11 => some part11
  | 13 => some part13
  | 14 => some part14
  | 15 => some part15
  | 16 => some part16
  | _ => none

/-- The character of a byte. Control bytes are taken out before a table is used and have none. -/
def charOf (table : List Char) (byte : UInt8) : Char :=
  if byte.toNat < 0x80 then Char.ofNat byte.toNat
  else if byte.toNat < 0xA0 then replacement
  else table.getD (byte.toNat - 0xA0) replacement

def decode (table : String) (bytes : List UInt8) : List Char :=
  bytes.map (charOf table.toList)

end DvbScan.Iso8859
