import DvbScan.CommandLine.Arguments
import DvbScan.Scan.Platform
import DvbScan.Text.Decimal

/-!
# Invocations

What the arguments of the program ask for. Options for all commands may stand before the command and after
it; where both stand, the one after it counts.
-/

namespace DvbScan

inductive ListingFormat where
  | table | json | csv
  deriving DecidableEq, Repr

def ListingFormat.name : ListingFormat → String
  | table => "table"
  | json => "json"
  | csv => "csv"

def ListingFormat.ofName? (name : String) : Option ListingFormat :=
  [table, json, csv].find? fun format => format.name == name

inductive Command where
  /-- To read a tuning string and tell all about it. -/
  | describe (tuning : String)
  /-- To list the candidates of a platform. -/
  | presets (platform : Option PlatformKind) (first last : Option Nat)
  /-- To resolve the channel numbers of a network, store them and list them. -/
  | lcns (source : Option String) (network : String) (region : Option String)
      (platform : Option PlatformKind) (format : ListingFormat)
  /-- To list the sources in the store. -/
  | sources
  deriving DecidableEq, Repr

structure Invocation where
  configuration : Option String
  storeAddress : Option String
  verbose : Bool
  logDirectory : Option String
  command : Command
  deriving DecidableEq, Repr

namespace Invocation

/-- The number of a channel, which may have a sign if it is zero. -/
def channel? (text : String) : Option Nat :=
  match text.toList with
  | '-' :: zeros => if !zeros.isEmpty && zeros.all (· == '0') then some 0 else none
  | _ => Decimal.readBelow? UInt32.size text

def path (name : String) (letter : Option Char) : OptionSpec :=
  ⟨name, letter, .value fun text => !text.isEmpty⟩

def text (name : String) (letter : Char) : OptionSpec :=
  ⟨name, some letter, .value fun _ => true⟩

def platform : OptionSpec :=
  ⟨"platform", some 'p', .value fun text => (PlatformKind.ofName? text).isSome⟩

def channel (name : String) : OptionSpec :=
  ⟨name, none, .value fun text => (channel? text).isSome⟩

def generalOptions : List OptionSpec :=
  [path "config" (some 'f'), path "database" (some 'd'), ⟨"verbose", some 'v', .flag⟩,
    path "log-dir" none, ⟨"help", some 'h', .stop .help⟩]

def topGrammar : ArgumentGrammar where
  options := ⟨"version", some 'V', .stop .version⟩ :: generalOptions
  operands := 0
  subcommands := ["describe", "presets", "lcns", "sources", "help"]

def grammar (options : List OptionSpec) (operands : Nat) : ArgumentGrammar where
  options := options ++ generalOptions
  operands := operands
  subcommands := []

def readLevel (options : List OptionSpec) (operands : Nat) (arguments : List String) :
    Except ArgumentStop ArgumentReading := do
  let (reading, _) ← ArgumentReading.start.readAll (grammar options operands) arguments
  return reading

def format : OptionSpec :=
  ⟨"format", none, .value fun text => (ListingFormat.ofName? text).isSome⟩

def readCommand (name : String) (arguments : List String) :
    Except ArgumentStop (ArgumentReading × Command) := do
  match name with
  | "describe" =>
    let reading ← readLevel [] 1 arguments
    match reading.operands with
    | [tuning] => return (reading, .describe tuning)
    | _ => .error .usage
  | "presets" =>
    let reading ← readLevel [platform, channel "first-channel", channel "last-channel"] 0 arguments
    return (reading, .presets ((reading.value? "platform").bind PlatformKind.ofName?)
      ((reading.value? "first-channel").bind channel?)
      ((reading.value? "last-channel").bind channel?))
  | "lcns" =>
    let reading ← readLevel
      [text "source" 's', text "network" 'n', text "region" 'r', platform, format] 0 arguments
    match reading.value? "network" with
    | none => .error .usage
    | some network =>
      return (reading, .lcns (reading.value? "source") network (reading.value? "region")
        ((reading.value? "platform").bind PlatformKind.ofName?)
        (((reading.value? "format").bind ListingFormat.ofName?).getD .table))
  | "sources" =>
    let reading ← readLevel [] 0 arguments
    return (reading, .sources)
  | _ =>
    match arguments with
    | [] => .error .help
    | [word] => if topGrammar.subcommands.contains word then .error .help else .error .usage
    | _ => .error .usage

def ofArguments (arguments : List String) : Except ArgumentStop Invocation := do
  match ← ArgumentReading.start.readAll topGrammar arguments with
  | (_, none) => .error .usage
  | (top, some (name, rest)) =>
    let (reading, command) ← readCommand name rest
    let value? (name : String) := (reading.value? name).or (top.value? name)
    return {
      configuration := value? "config"
      storeAddress := value? "database"
      verbose := (value? "verbose").isSome
      logDirectory := value? "log-dir"
      command }

end Invocation

end DvbScan
