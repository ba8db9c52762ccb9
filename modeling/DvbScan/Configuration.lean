import DvbScan.Scan.Sweep
import DvbScan.Store.Lineup
import DvbScan.Store.Record
import DvbScan.Disk
import DvbScan.Toml.Parser

/-!
# Configuration files

A configuration file is a TOML file with four tables, in which every setting may be absent. What has
another name is ignored. In place of a table may stand an array of all its settings in order, or a moment,
which has none.
-/

namespace DvbScan

structure Configuration where
  platform : Option PlatformKind
  /-- The source that is written to and read from. -/
  source : Option String
  /-- Timeouts in milliseconds. -/
  tuneTimeout : Option Nat
  filterTimeout : Option Nat
  firstChannel : Option Nat
  lastChannel : Option Nat
  storeAddress : Option String
  logDirectory : Option String
  retentionDays : Option Nat
  logLevel : Option String
  universalRegion : Option UInt16
  defaultRegion : Option UInt16
  deriving DecidableEq, Repr

inductive ConfigurationError where
  | unreadable (fault : FileFault)
  /-- It is not well-formed, or a setting has a wrong value. -/
  | malformed
  deriving DecidableEq, Repr

def FileFault.configurationMessage (fault : FileFault) : String :=
  "Failed to read config file: " ++ fault.message

namespace Configuration

open Toml

def empty : Configuration :=
  ⟨none, none, none, none, none, none, none, none, none, none, none, none⟩

def timeouts (configuration : Configuration) : Timeouts :=
  { tune := configuration.tuneTimeout.getD Timeouts.default.tune
    filter := configuration.filterTimeout.getD Timeouts.default.filter }

/-- Bounds of the raster, of which at least one is given. -/
def channelRange (first last : Option Nat) : Option (Nat × Nat) :=
  if first.isNone ∧ last.isNone then none
  else some (first.getD Candidates.defaultChannels.1, last.getD Candidates.defaultChannels.2)

def channels (configuration : Configuration) : Option (Nat × Nat) :=
  channelRange configuration.firstChannel configuration.lastChannel

def fallbacks (configuration : Configuration) : FallbackRegions :=
  { universal := configuration.universalRegion.getD FallbackRegions.standard.universal
    default := configuration.defaultRegion.getD FallbackRegions.standard.default }

def settings (configuration : Configuration) : List (String × Cell) :=
  [("platform", toCell (configuration.platform.map (·.name))), ("source", toCell configuration.source),
    ("tune_timeout_ms", toCell configuration.tuneTimeout),
    ("filter_timeout_ms", toCell configuration.filterTimeout),
    ("first_channel", toCell configuration.firstChannel),
    ("last_channel", toCell configuration.lastChannel),
    ("database_path", toCell configuration.storeAddress),
    ("log_dir", toCell configuration.logDirectory),
    ("retention_days", toCell configuration.retentionDays), ("level", toCell configuration.logLevel),
    ("universal_region", toCell configuration.universalRegion),
    ("default_region", toCell configuration.defaultRegion)]

def text? : Value → Option String
  | .string text => some text
  | _ => none

def numberBelow? (limit : Nat) : Value → Option Nat
  | .integer value => if 0 ≤ value ∧ value < limit then some value.toNat else none
  | _ => none

def word? (value : Value) : Option UInt16 :=
  (numberBelow? UInt16.size value).map UInt16.ofNat

/-- A platform by its name, which may also be the only key of a table and have nothing as its value. -/
def platform? : Value → Option PlatformKind
  | .string name => PlatformKind.ofName? name
  | .table _ [(name, .table _ [])] | .table _ [(name, .array [])] => PlatformKind.ofName? name
  | _ => none

def settings? (names : List String) : Option Value → Option Entries
  | none | some (.moment _) => some []
  | some (.table _ entries) => some entries
  | some (.array values) =>
    if names.length ≤ values.length then some (names.zip values) else none
  | some _ => none

def setting? {α : Type} (read? : Value → Option α) (settings : Entries) (name : String) :
    Option (Option α) :=
  match settings.lookup name with
  | none => some none
  | some value => (read? value).map some

def ofEntries? (root : Entries) : Option Configuration := do
  let scan ← settings?
    ["platform", "source", "tune_timeout_ms", "filter_timeout_ms", "first_channel", "last_channel"]
    (root.lookup "scan")
  let database ← settings? ["path"] (root.lookup "database")
  let logging ← settings? ["log_dir", "retention_days", "level"] (root.lookup "logging")
  let lcn ← settings? ["universal_region", "default_region"] (root.lookup "lcn")
  return {
    platform := ← setting? platform? scan "platform"
    source := ← setting? text? scan "source"
    tuneTimeout := ← setting? (numberBelow? UInt64.size) scan "tune_timeout_ms"
    filterTimeout := ← setting? (numberBelow? UInt64.size) scan "filter_timeout_ms"
    firstChannel := ← setting? (numberBelow? UInt32.size) scan "first_channel"
    lastChannel := ← setting? (numberBelow? UInt32.size) scan "last_channel"
    storeAddress := ← setting? text? database "path"
    logDirectory := ← setting? text? logging "log_dir"
    retentionDays := ← setting? (numberBelow? UInt64.size) logging "retention_days"
    logLevel := ← setting? text? logging "level"
    universalRegion := ← setting? word? lcn "universal_region"
    defaultRegion := ← setting? word? lcn "default_region" }

def read (disk : Disk) (path : String) : Except ConfigurationError Configuration := do
  let text ← (disk.readText path).mapError .unreadable
  match (parse? text).bind ofEntries? with
  | some configuration => .ok configuration
  | none => .error .malformed

end Configuration

end DvbScan
