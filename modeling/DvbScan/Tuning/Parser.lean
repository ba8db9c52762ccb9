import DvbScan.Breakdown
import DvbScan.Text.Blank
import DvbScan.Text.Decimal
import DvbScan.Tuning.Channel
import DvbScan.Tuning.ParseError

/-!
# Reading tuning strings

A tuning string is a line of blank-separated tokens: the delivery system, then the fields of that system
in a fixed order. A token that starts with a number sign begins a comment. Fields are read in order and
the first that cannot be read is reported, except that the shape of a second generation satellite carrier
is read before the rest, and the system identifier of a second generation multiplex before its pipe.
-/

namespace DvbScan

namespace Tuning

/-- Fields are read to a value or a fault; the conversion of a bandwidth to Hz may break down. -/
abbrev Reading (α : Type) := Except (Failure ParseFault) α

namespace Reading

def reject {α : Type} (fault : ParseFault) : Reading α :=
  .error (.rejected fault)

def field {α : Type} (field : TuningField) (read? : String → Option α) (token : String) : Reading α :=
  match read? token with
  | some value => .ok value
  | none => reject (.invalidToken field token)

def word (field : TuningField) (token : String) : Reading UInt32 :=
  Reading.field field Decimal.readWord? token

def named (α : Type) [Coded α] (field : TuningField) (token : String) : Reading α :=
  Reading.field field Coded.ofToken? token

def withoutUnit (token : String) : String :=
  let reversed := token.toList.reverse
  if ['Z', 'H', 'M'].isPrefixOf reversed then String.ofList (reversed.drop 3).reverse else token

/-- A bandwidth in Hz: `AUTO` or a number of MHz, with or without the unit. One bandwidth has a
fraction. -/
def bandwidth (token : String) : Reading UInt32 :=
  let upper := Ascii.upper token
  let number := withoutUnit upper
  if upper = "AUTO" then .ok 0
  else if number = "1.712" then .ok 1712000
  else do
    let megahertz ← Reading.field .bandwidth (fun _ => Decimal.readWord? number) token
    if megahertz.toNat * 1000000 < UInt32.size then .ok (megahertz * 1000000)
    else .error (.broken .product)

end Reading

def significantTokens (text : String) : List String :=
  (words text).takeWhile fun token => token.toList.head? != some '#'

/-- Roll-off and modulation. The first generation takes no notice of them; the second has both or
neither. -/
def readShape (system : DeliverySystem) (extension : List String) :
    Reading (Option Rolloff × Option Modulation) :=
  match system, extension with
  | .dvbS2, [_] => Reading.reject (.tooFewParameters 7 6)
  | .dvbS2, rolloff :: modulation :: _ => do
    let rolloff ← Reading.named Rolloff .rolloff rolloff
    let modulation ← Reading.named Modulation .modulation modulation
    .ok (some rolloff, some modulation)
  | _, _ => .ok (none, none)

/-- The fields after the system token. A system that is not given is the second generation exactly if
there are more fields than the first has. -/
def readTransponder (system? : Option DeliverySystem) : List String → Reading Transponder
  | frequency :: polarization :: symbolRate :: codeRate :: extension => do
    let system := system?.getD (if extension.isEmpty then .dvbS else .dvbS2)
    let (rolloff, modulation) ← readShape system extension
    let frequency ← Reading.word .frequency frequency
    let polarization ← Reading.named Polarization .polarization polarization
    let symbolRate ← Reading.word .symbolRate symbolRate
    let codeRate ← Reading.named CodeRate .codeRate codeRate
    .ok { system, frequency, polarization, symbolRate, codeRate, rolloff, modulation }
  | fields => Reading.reject (.tooFewParameters 5 (fields.length + 1))

def readMultiplex (system : DeliverySystem) (pipe : Option UInt32) (fewer : ParseFault) :
    List String → Reading Multiplex
  | frequency :: bandwidth :: codeRateHp :: codeRateLp :: modulation :: transmissionMode ::
      guardInterval :: hierarchy :: _ => do
    let frequency ← Reading.word .frequency frequency
    let bandwidth ← Reading.bandwidth bandwidth
    let codeRateHp ← Reading.named CodeRate .codeRate codeRateHp
    let codeRateLp ← Reading.named CodeRate .codeRate codeRateLp
    let modulation ← Reading.named Modulation .modulation modulation
    let transmissionMode ← Reading.named TransmissionMode .transmissionMode transmissionMode
    let guardInterval ← Reading.named GuardInterval .guardInterval guardInterval
    let hierarchy ← Reading.named Hierarchy .hierarchy hierarchy
    .ok { system, frequency, bandwidth, codeRateHp, codeRateLp, modulation, transmissionMode,
          guardInterval, hierarchy, pipe }
  | _ => Reading.reject fewer

def readFirstGeneration (fields : List String) : Reading Multiplex :=
  readMultiplex .dvbT none (.tooFewParameters 9 (fields.length + 1)) fields

/-- The pipe and the system identifier come first; the identifier is checked and dropped. -/
def readSecondGeneration (fields : List String) : Reading Multiplex :=
  let fewer := ParseFault.tooFewParameters 11 (fields.length + 1)
  if fields.length < 10 then Reading.reject fewer
  else match fields with
    | pipe :: systemId :: rest => do
      let _ ← Reading.word .systemId systemId
      let pipe ← Reading.word .pipe pipe
      readMultiplex .dvbT2 (some pipe) fewer rest
    | _ => Reading.reject fewer

def readTokens : List String → Reading Tuning
  | [] => Reading.reject .empty
  | kind :: fields =>
    match Ascii.upper kind with
    | "S" => (readTransponder none fields).map Transponder.toTuning
    | "S1" => (readTransponder (some .dvbS) fields).map Transponder.toTuning
    | "S2" => (readTransponder (some .dvbS2) fields).map Transponder.toTuning
    | "T" | "T1" => (readFirstGeneration fields).map Multiplex.toTuning
    | "T2" => (readSecondGeneration fields).map Multiplex.toTuning
    | _ => Reading.reject (.invalidType kind)

def parse (text : String) : Except (Failure ParseError) Tuning :=
  (readTokens (significantTokens text)).mapError fun failure =>
    failure.map fun fault => { input := text, fault }

end Tuning

end DvbScan
