import DvbScan.Si.Descriptor.Table

/-!
# Platforms

A platform says which tables a scan listens to on every channel, which private descriptors they hold, when
a scan has heard enough, and how a channel number is tied to its service.
-/

namespace DvbScan

inductive PlatformKind where
  | standard | freeview | freesat
  deriving DecidableEq, Repr

def PlatformKind.name : PlatformKind → String
  | standard => "standard"
  | freeview => "freeview"
  | freesat => "freesat"

def PlatformKind.ofName? (name : String) : Option PlatformKind :=
  [standard, freeview, freesat].find? fun kind => kind.name == name

inductive TableRole where
  | network | servicesActual | servicesOther | bouquet
  deriving DecidableEq, Repr

/-- A stream of sections: those on `pid` whose table identifier agrees with `tableId` in the bits of
`mask`. -/
structure FilterSpec where
  role : TableRole
  pid : UInt16
  tableId : UInt8
  mask : UInt8
  deriving DecidableEq, Repr

def FilterSpec.exact (role : TableRole) (pid : UInt16) (tableId : UInt8) : FilterSpec :=
  { role, pid, tableId, mask := 0xFF }

structure HarvestPolicy where
  /-- Two channels have been heard, and on one of them a table was complete. -/
  atLeastTwo : Bool
  /-- No transport that is known waits to be tried. -/
  allDiscovered : Bool
  /-- Every service that is referred to has been seen in a service table. -/
  allServices : Bool
  deriving DecidableEq, Repr

namespace HarvestPolicy

def none : HarvestPolicy := ⟨false, false, false⟩

/-- Without a condition a scan ends with its candidates. -/
def isEmpty (policy : HarvestPolicy) : Bool :=
  !(policy.atLeastTwo || policy.allDiscovered || policy.allServices)

end HarvestPolicy

inductive OnidLookup where
  /-- By the service alone, where no two services share an identifier. -/
  | byServiceId
  /-- Through the service lists of the network that numbers the channel. -/
  | byNetworkAndService
  deriving DecidableEq, Repr

structure Platform where
  kind : PlatformKind
  filters : List FilterSpec
  policy : HarvestPolicy
  lcnLookup : OnidLookup
  table : DescriptorTable

namespace Platform

def networkPid : UInt16 := 0x0010
def servicePid : UInt16 := 0x0011
def freesatNetworkPid : UInt16 := 3840
def freesatServicePid : UInt16 := 3841

def standardFilters : List FilterSpec :=
  [.exact .network networkPid 0x40, .exact .servicesActual servicePid 0x42,
    .exact .servicesOther servicePid 0x46]

def standard [HanDecoders] : Platform where
  kind := .standard
  filters := standardFilters
  policy := { HarvestPolicy.none with allDiscovered := true }
  lcnLookup := .byNetworkAndService
  table := .standard

/-- The network table leaves out the second generation multiplexes, so that every service has to be
seen as well. -/
def freeview [HanDecoders] : Platform where
  kind := .freeview
  filters := standardFilters
  policy := { HarvestPolicy.none with allDiscovered := true, allServices := true }
  lcnLookup := .byNetworkAndService
  table := DescriptorTable.standard.withLogicalChannels

/-- Each transport describes the others and never itself. -/
def freesat [HanDecoders] : Platform where
  kind := .freesat
  filters := [.exact .network freesatNetworkPid 0x41, .exact .servicesOther freesatServicePid 0x46,
    .exact .bouquet freesatServicePid 0x4A]
  policy := { HarvestPolicy.none with atLeastTwo := true }
  lcnLookup := .byServiceId
  table := DescriptorTable.standard.withFreesatChannels.withFreesatRegions

def ofKind [HanDecoders] : PlatformKind → Platform
  | .standard => standard
  | .freeview => freeview
  | .freesat => freesat

def filter? (platform : Platform) (role : TableRole) : Option FilterSpec :=
  platform.filters.find? (·.role == role)

end Platform

end DvbScan
