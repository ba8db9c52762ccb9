import DvbScan.CommandLine.HanTables
import DvbScan.CommandLine.Invocation
import DvbScan.CommandLine.Report
import DvbScan.Configuration
import DvbScan.LogFilter
import DvbScan.LogRetention
import DvbScan.Store.File
import DvbScan.Store.Query

/-!
# Running a command

A run takes the arguments, the environment and a disk, and gives what is printed, the exit status and the
disk as it is left. Nothing is printed of what goes wrong; the exit status tells.
-/

namespace DvbScan

structure Environment where
  /-- The values of the variables by name. -/
  bindings : List (String × String)
  /-- Nanoseconds since 1970. -/
  now : Int
  deriving DecidableEq, Repr

structure Outcome where
  status : Nat
  output : String
  disk : Disk
  deriving DecidableEq, Repr

namespace CommandLine

def programVersion : String := "siscan 0.1.0"

/-- Nothing was found, or a file or a name could not be used. -/
def failed : Nat := 1

/-- The arguments or the configuration are wrong. -/
def misused : Nat := 2

def broken : Nat := 101

def configurationFile : String := "siscan.toml"

def retentionDays : Nat := 7

/-- The configuration named by the arguments. The usual file need not be there. -/
def configuration (disk : Disk) (named : Option String) : Except ConfigurationError Configuration :=
  match named with
  | some path => Configuration.read disk path
  | none =>
    if disk.contains configurationFile then Configuration.read disk configurationFile
    else .ok .empty

def below (directory rest : String) : String :=
  if directory.isEmpty || directory.endsWith "/" then directory ++ rest else directory ++ "/" ++ rest

def usualStorePath (environment : Environment) : String :=
  match environment.bindings.lookup "XDG_DATA_HOME", environment.bindings.lookup "HOME" with
  | some data, _ => below data "siscan/topology.db"
  | none, some home => below home ".local/share/siscan/topology.db"
  | none, none => "topology.db"

def storeAddress (environment : Environment) (invocation : Invocation)
    (configuration : Configuration) : String :=
  (invocation.storeAddress.or configuration.storeAddress).getD (usualStorePath environment)

def logEntries (disk : Disk) (directory : Path) : List (Path × LogEntry) :=
  disk.filterMap fun (path, entry) =>
    if path.up = directory ∧ path.names ≠ [] then
      let name := path.names.getLastD ""
      match entry with
      | .directory => some (path, ⟨name, false, 0⟩)
      | .file _ modified => some (path, ⟨name, true, modified⟩)
    else none

/-- Makes the log directory and clears it of old files; gives the exit status if that fails. An empty path
names no directory. -/
def prepareLogs (environment : Environment) (directory : String) (days : Nat) (disk : Disk) :
    Except Nat Disk :=
  match disk.makeDirectories? directory with
  | none => .error misused
  | some disk =>
    match disk.locate directory with
    | .error _ => .ok disk
    | .ok place =>
      let entries := logEntries disk place
      match LogRetention.clean environment.now days (some (entries.map Prod.snd)) with
      | .error _ => .error broken
      | .ok (old, _) =>
        .ok (disk.filter fun (path, _) => !entries.any fun (beside, entry) => beside == path && old.contains entry)

def startLogging (environment : Environment) (invocation : Invocation) (configuration : Configuration)
    (disk : Disk) : Except Nat Disk :=
  let filter := LogFilter.inForce (environment.bindings.lookup "RUST_LOG") configuration.logLevel
    invocation.verbose
  match LogFilter.check filter with
  | .error .malformed => .error misused
  | .error .insideCharacter => .error broken
  | .ok () =>
    match invocation.logDirectory.or configuration.logDirectory with
    | none => .ok disk
    | some directory =>
      prepareLogs environment directory (configuration.retentionDays.getD retentionDays) disk

def describe (disk : Disk) (text : String) : Outcome :=
  match Tuning.parse text with
  | .ok tuning => ⟨0, Report.describe tuning, disk⟩
  | .error (.rejected _) => ⟨failed, "", disk⟩
  | .error (.broken _) => ⟨broken, "", disk⟩

/-- All candidates are made before any is printed. -/
def presets (disk : Disk) (platform : PlatformKind) (channels : Option (Nat × Nat)) : Outcome :=
  if channels.any fun (first, last) => last < first then ⟨failed, "", disk⟩
  else
    let candidates := (Platform.ofKind platform).candidates channels
    if candidates.ending.isSome then ⟨broken, "", disk⟩
    else ⟨0, Report.presets platform candidates.all, disk⟩

def lcns (environment : Environment) (disk : Disk) (address source network : String)
    (region : Option String) (lookup : OnidLookup) (fallbacks : FallbackRegions)
    (format : ListingFormat) : Outcome :=
  match OpenStore.ofText disk address environment.now with
  | (disk, none) => ⟨failed, "", disk⟩
  | (disk, some opened) =>
    match Lineup.resolveAndStore opened.store source network region lookup fallbacks with
    | .error _ => ⟨failed, "", disk⟩
    | .ok (store, rows) =>
      let output := match format with
        | .table => Report.lcnTable rows
        | .json => Report.lcnJson rows
        | .csv => Report.lcnCsv rows
      match opened.keep? disk store environment.now with
      | none => ⟨failed, "", disk⟩
      | some kept => ⟨0, output, kept⟩

def sources (environment : Environment) (disk : Disk) (address : String) : Outcome :=
  match OpenStore.ofText disk address environment.now with
  | (disk, none) => ⟨failed, "", disk⟩
  | (disk, some opened) => ⟨0, Report.sources opened.store.sourceNames, disk⟩

def perform (environment : Environment) (invocation : Invocation) (configuration : Configuration)
    (disk : Disk) : Outcome :=
  let usualPlatform := configuration.platform.getD .standard
  let address := storeAddress environment invocation configuration
  match invocation.command with
  | .describe tuning => describe disk tuning
  | .presets platform first last =>
    presets disk (platform.getD usualPlatform)
      ((Configuration.channelRange first last).or configuration.channels)
  | .lcns source network region platform format =>
    let kind := platform.getD usualPlatform
    lcns environment disk address ((source.or configuration.source).getD kind.name) network region
      (Platform.ofKind kind).lcnLookup configuration.fallbacks format
  | .sources => sources environment disk address

def run (environment : Environment) (disk : Disk) (arguments : List String) : Outcome :=
  match Invocation.ofArguments arguments with
  | .error .usage => ⟨misused, "", disk⟩
  | .error .help => ⟨0, "", disk⟩
  | .error .version => ⟨0, Report.lines [programVersion], disk⟩
  | .ok invocation =>
    match configuration disk invocation.configuration with
    | .error _ => ⟨misused, "", disk⟩
    | .ok configuration =>
      match startLogging environment invocation configuration disk with
      | .error status => ⟨status, "", disk⟩
      | .ok disk => perform environment invocation configuration disk

def configurationPath? (arguments : List String) : Option String :=
  (Invocation.ofArguments arguments).toOption.map fun invocation =>
    invocation.configuration.getD configurationFile

def storeAddress? (environment : Environment) (disk : Disk) (arguments : List String) : Option String := do
  let invocation ← (Invocation.ofArguments arguments).toOption
  let configuration ← (configuration disk invocation.configuration).toOption
  return storeAddress environment invocation configuration

def logPath? (disk : Disk) (arguments : List String) : Option String := do
  let invocation ← (Invocation.ofArguments arguments).toOption
  let configuration ← (configuration disk invocation.configuration).toOption
  invocation.logDirectory.or configuration.logDirectory

end CommandLine

end DvbScan
