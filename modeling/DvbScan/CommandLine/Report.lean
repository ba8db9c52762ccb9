import DvbScan.Scan.Candidates
import DvbScan.Store.Row
import DvbScan.Text.Hexadecimal
import DvbScan.Tuning.Equivalence
import DvbScan.Tuning.Printer

/-!
# Reports

What the commands print.
-/

namespace DvbScan.Report

def pad (width : Nat) (text : String) : String :=
  text ++ String.ofList (List.replicate (width - text.length) ' ')

def dashes (count : Nat) : String := String.ofList (List.replicate count '-')

def lines (texts : List String) : String :=
  String.join (texts.map (· ++ "\n"))

def number (value : UInt16) : String := Decimal.write value.toNat

def describe (tuning : Tuning) : String :=
  lines <|
    ["Tuning:",
      "  Description:  " ++ tuning.describe,
      "  Linux DVB:    " ++ tuning.print,
      "  Equivalence:  " ++ tuning.equivalence.text,
      "  Properties:"] ++
    tuning.entries.map fun (key, value) =>
      "    " ++ pad 18 (Coded.token key) ++ " " ++ Decimal.write value.toNat

def presetLine (place : Nat) (tuning : Tuning) : String :=
  pad 4 (Decimal.write place) ++ " " ++ pad 20 tuning.describe ++ " " ++ tuning.print

def presets (platform : PlatformKind) (tunings : List Tuning) : String :=
  if tunings.isEmpty then lines ["No tuning candidates."]
  else
    lines <|
      [pad 4 "#" ++ " " ++ pad 20 "Description" ++ " Tuning", dashes 70] ++
      (tunings.zipIdx 1).map (fun (tuning, place) => presetLine place tuning) ++
      ["", "Total: " ++ Decimal.write tunings.length ++ " candidates (" ++ platform.name ++ ")"]

def sources (names : List String) : String :=
  if names.isEmpty then lines ["No sources found."] else lines names

def identifier (value : UInt16) : String :=
  "0x" ++ Hexadecimal.writeFixed value.toNat 4

def tableLine (row : ClientLcn) : String :=
  pad 6 (number row.number) ++ " " ++ identifier row.onid ++ "   " ++ identifier row.serviceId ++
    "   " ++ pad 8 (number row.region) ++ " " ++ number row.freesatId

def lcnTable (rows : List ClientLcn) : String :=
  if rows.isEmpty then lines ["No channel numbers resolved."]
  else
    lines <|
      [pad 6 "LCN" ++ " " ++ pad 8 "ONID" ++ " " ++ pad 8 "SID" ++ " " ++ pad 8 "Region" ++
        " Freesat ID", dashes 44] ++
      rows.map tableLine ++
      ["", "Total: " ++ Decimal.write rows.length ++ " channels"]

def columns (row : ClientLcn) : List (String × String) :=
  [("lcn", number row.number), ("onid", number row.onid), ("service_id", number row.serviceId),
    ("region_code", number row.region), ("freesat_id", number row.freesatId)]

def jsonObject (row : ClientLcn) : String :=
  let members := (columns row).map fun (name, value) => "    \"" ++ name ++ "\": " ++ value
  "  \x7b\n" ++ String.intercalate ",\n" members ++ "\n  \x7d"

def lcnJson (rows : List ClientLcn) : String :=
  if rows.isEmpty then lines ["[]"]
  else lines ["[\n" ++ String.intercalate ",\n" (rows.map jsonObject) ++ "\n]"]

def lcnCsv (rows : List ClientLcn) : String :=
  lines <|
    "lcn,onid,service_id,region_code,freesat_id" ::
    rows.map fun row => String.intercalate "," ((columns row).map (·.2))

end DvbScan.Report
