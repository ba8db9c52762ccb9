/-!
# Words between blanks

A blank is a character with the property White_Space. Words are the maximal runs of other characters.
-/

namespace DvbScan

def isBlank (c : Char) : Bool :=
  let code := c.toNat
  (9 ≤ code && code ≤ 13) || code == 0x20 || code == 0x85 || code == 0xA0 || code == 0x1680 ||
    (0x2000 ≤ code && code ≤ 0x200A) || code == 0x2028 || code == 0x2029 || code == 0x202F ||
    code == 0x205F || code == 0x3000

/-- The pieces between single blanks, empty ones included; there is always a first piece. -/
def blankPieces : List Char → List Char × List (List Char)
  | [] => ([], [])
  | c :: rest =>
    let (piece, pieces) := blankPieces rest
    if isBlank c then ([], piece :: pieces) else (c :: piece, pieces)

def words (text : String) : List String :=
  let (piece, pieces) := blankPieces text.toList
  ((piece :: pieces).filter (!·.isEmpty)).map String.ofList

end DvbScan
