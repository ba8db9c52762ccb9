import DvbScan.Si.Descriptor.Table

/-!
# What the tables tell

The sections of a table are reduced to findings: statements about networks, transports and services, each
of which stands for itself. A scan collects them in the order in which they are found.
-/

namespace DvbScan

/-- The two tables with the layout of a network table. Their identifiers are separate. -/
inductive NetworkKind where
  | network | bouquet
  deriving DecidableEq, Repr

structure ServiceInfo where
  serviceType : Option UInt8
  name : Option String
  provider : Option String
  freeCa : Bool
  runningStatus : Nat
  deriving DecidableEq, Repr

inductive Finding where
  | networkName (kind : NetworkKind) (id : UInt16) (name : String)
  | transportTuning (networkId onid tsid : UInt16) (tuning : Tuning)
  | transportServices (networkId onid tsid : UInt16) (services : List ServiceListEntry)
  | service (onid tsid serviceId : UInt16) (info : ServiceInfo)
  | logicalChannel (networkId serviceId region number freesatId : UInt16)
  | region (bouquetId region : UInt16) (name : String)
  /-- The transport that is being received. -/
  | currentTransport (onid tsid : UInt16)
  deriving DecidableEq, Repr

end DvbScan
