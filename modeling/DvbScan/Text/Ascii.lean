/-!
# ASCII letter case

Keywords of the tuning language, and of nothing else, are compared without regard to the case of the
letters A to Z. Letters outside ASCII keep their case and never match.
-/

namespace DvbScan.Ascii

def upper (text : String) : String :=
  String.ofList (text.toList.map Char.toUpper)

def equalIgnoringCase (first second : String) : Bool :=
  upper first == upper second

end DvbScan.Ascii
