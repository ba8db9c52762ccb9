import DvbScan.Scan.Platform
import DvbScan.Store.Error
import DvbScan.Store.Query

/-!
# Channel lineups

Channel numbers are broadcast for a network, a service and a region, and several services may have one
number. A client wants one service for each number in its own region: the row of that region, or else of
the region that stands for all, or else of the one that stands for none.
-/

namespace DvbScan

structure FallbackRegions where
  /-- Stands for every region. -/
  universal : UInt16
  /-- Stands for assignments that have no region. -/
  default : UInt16
  deriving DecidableEq, Repr

def FallbackRegions.standard : FallbackRegions := ⟨0xFFFF, 0⟩

namespace Lineup

def onid? (store : Store) (source : String) (networkId : UInt16) (lookup : OnidLookup)
    (serviceId : UInt16) : Option UInt16 :=
  match lookup with
  | .byServiceId => store.onidByServiceId? source serviceId
  | .byNetworkAndService => store.onidByNetworkAndService? source networkId serviceId

/-- Of the rows of one number, the first row of the first region that has one. -/
def preferredRow? (regions : List UInt16) (rows : List NetworkLcnRow) : Option NetworkLcnRow :=
  regions.findSome? fun region => rows.find? (·.region == region)

def numbers : List NetworkLcnRow → List UInt16
  | [] => []
  | [row] => [row.number]
  | row :: next :: rest =>
    if row.number = next.number then numbers (next :: rest) else row.number :: numbers (next :: rest)

/-- The client channels of a network in a region, by number. A number without a row for the region, and
one whose service has no known network of origin, is left out. -/
def resolve (store : Store) (source : String) (networkId region : UInt16) (lookup : OnidLookup)
    (fallbacks : FallbackRegions) : List ClientLcn :=
  let rows := (store.networkLcnsOf source).filter (·.networkId == networkId)
  (numbers rows).filterMap fun number => do
    let row ← preferredRow? [region, fallbacks.universal, fallbacks.default]
      (rows.filter (·.number == number))
    let onid ← onid? store source networkId lookup row.serviceId
    some { number, onid, serviceId := row.serviceId, region, freesatId := row.freesatId }

/-- The region with a name in a network; the default one if it is absent or unknown. -/
def regionOf (store : Store) (source : String) (networkId : UInt16) (region : Option String)
    (fallbacks : FallbackRegions) : UInt16 :=
  (region.bind (store.regionByName? source networkId)).getD fallbacks.default

def resolveAndStore (store : Store) (source network : String) (region : Option String)
    (lookup : OnidLookup) (fallbacks : FallbackRegions) : Except StoreError (Store × List ClientLcn) :=
  match store.networkIdByName? source network with
  | none => .error (.notFound ("network '" ++ network ++ "' in " ++ source))
  | some networkId =>
    let regionCode := regionOf store source networkId region fallbacks
    let rows := resolve store source networkId regionCode lookup fallbacks
    .ok (store.replaceClientLcns source rows, rows)

end Lineup

end DvbScan
