import DvbScan.CommandLine.Run
import DvbScan.Store.Text

/-!
# The program

Shows a run the files that it asks for, and then puts what the run leaves in the place of those files. There
is no clock and no list of old logs, so a run finds none to remove.
-/

namespace DvbScan.Program

/-- What the bytes of a file are. A store is known by its text. -/
def contentOf (bytes : ByteArray) : FileContent :=
  match (String.fromUTF8? bytes).bind Store.ofText? with
  | some store => .store store
  | none => .bytes bytes.toList

/-- The file at a path, if there is one. What is there and cannot be read counts as a directory. -/
def entryAt (path : String) : IO (Option DiskEntry) := do
  try
    return some (.file (contentOf (← IO.FS.readBinFile path)) 0)
  catch
    | .noFileOrDirectory .. => return none
    | _ => return some .directory

/-- A disk that also shows what a written path leads to, and the directories on the way. -/
def withPath (disk : Disk) (text : String) : IO Disk :=
  (text :: Path.ancestors text).foldrM (fun text disk => do
    match ← entryAt text with
    | none => return disk
    | some entry => return disk.put (.ofText text) entry) disk

def keepDirectory (before after : Disk) (text : String) : IO Unit := do
  let place := Path.ofText text
  if text ≠ "" && (before.entry? place).isNone && (after.entry? place).isSome then
    IO.FS.createDirAll text

def keepStore (before after : Disk) (text : String) : IO Unit := do
  let place := Path.ofText text
  match after.entry? place with
  | some (.file (.store store) _) =>
    if before.entry? place ≠ after.entry? place then IO.FS.writeFile text store.toText
  | _ => return

def environment : IO Environment := do
  let found ← ["HOME", "XDG_DATA_HOME", "RUST_LOG"].filterMapM fun name =>
    return (← IO.getEnv name).map fun value => (name, value)
  return ⟨found, 0⟩

def run (arguments : List String) : IO UInt32 := do
  let environment ← environment
  let configured ← (CommandLine.configurationPath? arguments).toList.foldlM withPath []
  let address := CommandLine.storeAddress? environment configured arguments
  let named := (address.bind StoreAddress.ofText?).filter (!·.isFileless)
  let file := named.map fun address => (Path.ofText address.path).toText
  let logs := CommandLine.logPath? configured arguments
  let texts := logs.toList ++ address.toList ++ file.toList
  let disk ← texts.foldlM withPath configured
  let outcome := CommandLine.run environment disk arguments
  try
    logs.forM (keepDirectory disk outcome.disk)
    address.forM fun text => keepDirectory disk outcome.disk (Path.parent text)
    file.forM (keepStore disk outcome.disk)
  catch _ => return .ofNat CommandLine.failed
  IO.print outcome.output
  return .ofNat outcome.status

end DvbScan.Program

def main (arguments : List String) : IO UInt32 := DvbScan.Program.run arguments
