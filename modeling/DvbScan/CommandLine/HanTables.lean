import DvbScan.Si.Text
import DvbScan.Text.Han

/-!
# The Chinese tables of the program

What the library says of texts holds for any decoders of the two-byte tables. The program brings these, with the
characters that are spelled out here; what else a table has comes out as a replacement character.
-/

namespace DvbScan

/-- Simplified characters, and two codes of the private use area that carry control characters. -/
def HanTable.gbk : HanTable where
  single80 := some '€'
  hasLongForm := true
  pairs := [(0xD6D0, '中'), (0xB9FA, '国'), (0xB5E7, '电'), (0xCAD3, '视'), (0xCCA8, '台'),
    (0xABCD, '\uE08A'), (0xABC3, '\uE080')]

def HanTable.big5 : HanTable where
  single80 := none
  hasLongForm := false
  pairs := [(0xA4A4, '中'), (0xB0EA, '國'), (0xB971, '電'), (0xB5F8, '視'), (0xA578, '台')]

instance (priority := low) : HanDecoders where
  gbk := HanTable.gbk.decode
  big5 := HanTable.big5.decode

end DvbScan
