import DvbScan.Si.Text
import DvbScan.Si.Descriptor.Loop

/-!
# Descriptors

What a section says about a network, a transport or a service is in its descriptors. Each kind that a scan
uses has a reader from the payload, which refuses a payload that breaks off.
-/

namespace DvbScan

structure ServiceListEntry where
  serviceId : UInt16
  serviceType : UInt8
  deriving DecidableEq, Repr

structure ServiceDescriptor where
  serviceType : UInt8
  provider : String
  name : String
  deriving DecidableEq, Repr

structure LogicalChannel where
  serviceId : UInt16
  number : UInt16
  visible : Bool
  deriving DecidableEq, Repr

structure RegionalNumber where
  number : UInt16
  region : UInt16
  deriving DecidableEq, Repr

structure FreesatChannel where
  serviceId : UInt16
  freesatId : UInt16
  numbers : List RegionalNumber
  deriving DecidableEq, Repr

structure FreesatRegion where
  region : UInt16
  language : String
  name : String
  deriving DecidableEq, Repr

/-- The successive groups of `size` bytes; the last may be shorter. -/
def Bytes.groups (size : Nat) (positive : 0 < size) (bytes : Bytes) : List Bytes :=
  match bytes with
  | [] => []
  | byte :: rest => (byte :: rest).take size :: Bytes.groups size positive ((byte :: rest).drop size)
termination_by bytes.length
decreasing_by simp only [List.length_drop, List.length_cons]; omega

namespace ServiceListEntry

def ofGroup (group : Bytes) : Except SiError ServiceListEntry := do
  let serviceId ← group.word16 0
  let serviceType ← group.word8 2
  .ok { serviceId, serviceType }

def readList (payload : Bytes) : Except SiError (List ServiceListEntry) :=
  (payload.groups 3 (by decide)).mapM ofGroup

end ServiceListEntry

/-- A type, the provider and the name, both of these after their length. What follows is not read. -/
def ServiceDescriptor.read [HanDecoders] (payload : Bytes) : Except SiError ServiceDescriptor := do
  let serviceType ← payload.word8 0
  let providerLength ← payload.word8 1
  let provider ← payload.field 2 providerLength.toNat
  let nameOffset := 2 + providerLength.toNat
  let nameLength ← payload.word8 nameOffset
  let name ← payload.field (nameOffset + 1) nameLength.toNat
  .ok { serviceType, provider := BroadcastText.decode provider, name := BroadcastText.decode name }

namespace LogicalChannel

/-- A visibility bit, five reserved bits and ten bits of number follow the service. -/
def ofGroup (group : Bytes) : Except SiError LogicalChannel := do
  let word ← group.word16 2
  let serviceId ← group.word16 0
  .ok { serviceId, number := UInt16.ofNat (word.toNat % 1024), visible := 32768 ≤ word.toNat }

def readList (payload : Bytes) : Except SiError (List LogicalChannel) :=
  (payload.groups 4 (by decide)).mapM ofGroup

end LogicalChannel

/-- Twelve bits of number, under four reserved bits, and a region. -/
def RegionalNumber.ofGroup (group : Bytes) : Except SiError RegionalNumber := do
  let number ← group.word12 0
  let region ← group.word16 2
  .ok { number := UInt16.ofNat number, region }

namespace FreesatChannel

def readAt (payload : Bytes) (offset : Nat) : Except SiError (FreesatChannel × Nat) := do
  let serviceId ← payload.word16 offset
  let freesatId ← payload.word16 (offset + 2)
  let length ← payload.word8 (offset + 4)
  let pairs ← payload.field (offset + 5) length.toNat
  let numbers ← (pairs.groups 4 (by decide)).mapM RegionalNumber.ofGroup
  .ok ({ serviceId, freesatId := UInt16.ofNat (freesatId.toNat % 32768), numbers },
    length.toNat + 5)

end FreesatChannel

namespace FreesatRegion

def readAt [HanDecoders] (payload : Bytes) (offset : Nat) : Except SiError (FreesatRegion × Nat) := do
  let region ← payload.word16 offset
  let language ← payload.field (offset + 2) 3
  let length ← payload.word8 (offset + 5)
  let name ← payload.field (offset + 6) length.toNat
  .ok ({ region, language := String.ofList (Utf8.decode language),
         name := BroadcastText.decode name }, length.toNat + 6)

end FreesatRegion

def Bytes.readEntries {α : Type} (readAt : Bytes → Nat → Except SiError (α × Nat)) (payload : Bytes)
    (offset : Nat) : Except SiError (List α) :=
  if offset < payload.length then do
    let (entry, length) ← readAt payload offset
    if 0 < length then do
      let rest ← payload.readEntries readAt (offset + length)
      .ok (entry :: rest)
    else .ok [entry]
  else .ok []
termination_by payload.length - offset

def FreesatChannel.readList (payload : Bytes) : Except SiError (List FreesatChannel) :=
  payload.readEntries FreesatChannel.readAt 0

def FreesatRegion.readList [HanDecoders] (payload : Bytes) : Except SiError (List FreesatRegion) :=
  payload.readEntries FreesatRegion.readAt 0

end DvbScan
