import DvbScan.Store.Basic
import DvbScan.Tuning.Basic

/-!
# Asking the store

Every question but the one for the sources is put to one source. Where several rows answer, the least
number does.
-/

namespace DvbScan

namespace Store

def least? (numbers : List UInt16) : Option UInt16 :=
  numbers.foldl (fun found number =>
    match found with
    | some best => some (if number < best then number else best)
    | none => some number) none

def networkIdByName? (store : Store) (source name : String) : Option UInt16 :=
  least? <| ((store.networkNames.ofSource source).filter (·.name == name)).map (·.networkId)

def regionByName? (store : Store) (source : String) (bouquetId : UInt16) (name : String) :
    Option UInt16 :=
  least? <| ((store.regions.ofSource source).filter fun row =>
    row.bouquetId == bouquetId && row.name == name).map (·.region)

def onidByServiceId? (store : Store) (source : String) (serviceId : UInt16) : Option UInt16 :=
  least? <| ((store.services.ofSource source).filter (·.serviceId == serviceId)).map (·.onid)

def onidByNetworkAndService? (store : Store) (source : String) (networkId serviceId : UInt16) :
    Option UInt16 :=
  least? <| ((store.transportServices.ofSource source).filter fun row =>
    row.networkId == networkId && row.serviceId == serviceId).map (·.onid)

/-- Whether the first list comes before the second, or is it, comparing number by number. -/
def atMost : List Nat → List Nat → Bool
  | [], _ => true
  | _ :: _, [] => false
  | first :: rest, first' :: rest' => first < first' || (first == first' && atMost rest rest')

/-- All broadcast channel numbers, by network, number, region and service. -/
def networkLcnsOf (store : Store) (source : String) : List NetworkLcnRow :=
  let order (row : NetworkLcnRow) : List Nat :=
    [row.networkId.toNat, row.number.toNat, row.region.toNat, row.serviceId.toNat]
  (store.networkLcns.ofSource source).mergeSort fun first second =>
    atMost (order first) (order second)

def networkIds (store : Store) (source : String) : List UInt16 :=
  ((store.networkNames.ofSource source).map (·.networkId)).mergeSort fun first second =>
    first ≤ second

def sourceNames (store : Store) : List String :=
  store.sources.mergeSort fun first second => !(decide (second < first))

/-- The tuning of a transport, read back in the order of its positions. -/
def tuning? (store : Store) (source : String) (onid tsid : UInt16) : Option Tuning :=
  let rows := (store.tunings.ofSource source).filter fun row => row.onid == onid && row.tsid == tsid
  let ordered := rows.mergeSort fun first second => first.position ≤ second.position
  if ordered.isEmpty then none
  else some (Tuning.ofCodes (ordered.map fun row => (row.key, row.value)))

def clientLcnsOf (store : Store) (source : String) : List ClientLcn :=
  (store.clientLcns.ofSource source).mergeSort fun first second => first.number ≤ second.number

end Store

end DvbScan
