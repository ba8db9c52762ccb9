import DvbScan.Si.Descriptor.Basic
import DvbScan.Si.Descriptor.Delivery

/-!
# Which descriptors are understood

Tags below 0x80 mean the same everywhere; the others belong to the platform. A table of readers says what
the tags mean, and a platform adds readers for its private tags to the standard table.
-/

namespace DvbScan

inductive Descriptor where
  | networkName (name : String)
  | bouquetName (name : String)
  | serviceList (services : List ServiceListEntry)
  | satelliteDelivery (delivery : SatelliteDelivery)
  | terrestrialDelivery (delivery : TerrestrialDelivery)
  | t2Delivery (delivery : T2Delivery)
  | service (service : ServiceDescriptor)
  | logicalChannels (channels : List LogicalChannel)
  | freesatChannels (channels : List FreesatChannel)
  | freesatRegions (regions : List FreesatRegion)
  deriving DecidableEq, Repr

/-- Reads a payload; none means that it is of no interest. -/
abbrev DescriptorReader := Bytes → Except SiError (Option Descriptor)

namespace DescriptorReader

def of {α : Type} (make : α → Descriptor) (read : Bytes → Except SiError α) : DescriptorReader :=
  fun payload => (read payload).map fun value => some (make value)

def networkName [HanDecoders] : DescriptorReader := fun payload =>
  .ok (some (.networkName (BroadcastText.decode payload)))

def bouquetName [HanDecoders] : DescriptorReader := fun payload =>
  .ok (some (.bouquetName (BroadcastText.decode payload)))

/-- An extension is named by its first byte; only the second generation delivery is of interest. -/
def extension : DescriptorReader := fun payload => do
  let kind ← payload.word8 0
  if kind = 0x04 then of .t2Delivery T2Delivery.read payload else .ok none

end DescriptorReader

structure DescriptorTable where
  /-- The readers by tag; the first of a tag counts. -/
  readers : List (UInt8 × DescriptorReader)

namespace DescriptorTable

def reader? (table : DescriptorTable) (tag : UInt8) : Option DescriptorReader :=
  (table.readers.find? fun entry => entry.1 == tag).map (·.2)

def handles (table : DescriptorTable) (tag : UInt8) : Bool :=
  (table.reader? tag).isSome

def adding (table : DescriptorTable) (tag : UInt8) (reader : DescriptorReader) : DescriptorTable :=
  ⟨(tag, reader) :: table.readers⟩

def standard [HanDecoders] : DescriptorTable where
  readers := [
    (0x40, DescriptorReader.networkName),
    (0x41, .of .serviceList ServiceListEntry.readList),
    (0x43, .of .satelliteDelivery SatelliteDelivery.read),
    (0x47, DescriptorReader.bouquetName),
    (0x48, .of .service ServiceDescriptor.read),
    (0x5A, .of .terrestrialDelivery TerrestrialDelivery.read),
    (0x7F, DescriptorReader.extension)]

def withLogicalChannels (table : DescriptorTable) : DescriptorTable :=
  table.adding 0x83 (.of .logicalChannels LogicalChannel.readList)

def withFreesatChannels (table : DescriptorTable) : DescriptorTable :=
  table.adding 0xD3 (.of .freesatChannels FreesatChannel.readList)

def withFreesatRegions [HanDecoders] (table : DescriptorTable) : DescriptorTable :=
  table.adding 0xD4 (.of .freesatRegions FreesatRegion.readList)

def read (table : DescriptorTable) (raw : RawDescriptor) : Except SiError (Option Descriptor) :=
  match table.reader? raw.tag with
  | some reader => reader raw.payload
  | none => .ok none

/-- The descriptors of interest in a loop, in order. A malformed one is dropped alone. -/
def readLoop (table : DescriptorTable) (loop : Bytes) : List Descriptor :=
  (RawDescriptor.ofLoop loop).filterMap fun entry =>
    match entry >>= table.read with
    | .ok found => found
    | .error _ => none

end DescriptorTable

end DvbScan
