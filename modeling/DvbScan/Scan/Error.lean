import DvbScan.Si.Error
import DvbScan.Store.Error
import DvbScan.Text.Hexadecimal
import DvbScan.Tuning.ParseError

/-!
# Why a scan stops or passes on

Only an unusable device and a failing store end a scan. Any other error belongs to one candidate or to one
filter.
-/

namespace DvbScan

inductive DeviceFaultKind where
  | timedOut | notFound | wouldBlock | other
  deriving DecidableEq, Repr

structure DeviceFault where
  kind : DeviceFaultKind
  text : String
  deriving DecidableEq, Repr

structure FilterError where
  pid : UInt16
  tableId : UInt8
  fault : DeviceFault
  deriving DecidableEq, Repr

namespace FilterError

def message (error : FilterError) : String :=
  "Section filter pid 0x" ++ Hexadecimal.writeFixed error.pid.toNat 4 ++ " table 0x" ++
    Hexadecimal.writeFixed error.tableId.toNat 2 ++ " failed: " ++ error.fault.text

def isTimeout (error : FilterError) : Bool :=
  error.fault.kind == .timedOut

end FilterError

inductive ScanError where
  | deviceUnavailable (text : String)
  /-- The device refuses this candidate. -/
  | tune (text : String)
  | parse (error : ParseError)
  | filter (error : FilterError)
  | si (error : SiError)
  | storage (error : StoreError)
  deriving DecidableEq, Repr

namespace ScanError

def message : ScanError → String
  | deviceUnavailable text => "Tuning device unavailable: " ++ text
  | tune text => "Failed to tune: " ++ text
  | parse error => error.message
  | filter error => error.message
  | si error => "Malformed section: " ++ error.message
  | storage error => "Storage error: " ++ error.message

/-- Whether the scan has to stop. -/
def isFatal : ScanError → Bool
  | deviceUnavailable _ | storage _ => true
  | tune _ | parse _ | filter _ | si _ => false

end ScanError

end DvbScan
