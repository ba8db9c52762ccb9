import DvbScan.Store.Lineup
import DvbScan.Store.Listing

/-!
# What a store answers

Every question but the one for the sources is put to one source. Two stores may differ and yet answer all of them
alike: the number that is drawn next is no part of an answer.
-/

namespace DvbScan.Store

/-- The provider that a service of a source is linked to. Its number is looked up among those of all sources. -/
def providerOf? (store : Store) (source : String) (onid serviceId : UInt16) : Option String := do
  let link ← (store.providerLinks.ofSource source).find? (·.storeKey == (onid, serviceId))
  let provider ← store.providerNames.find? (·.row.id == link.providerId)
  some provider.row.name

/-- Every question to a source has the same answer. -/
structure AnswersAlike (source : String) (first second : Store) : Prop where
  networkIdByName? : ∀ name, first.networkIdByName? source name = second.networkIdByName? source name
  regionByName? : ∀ bouquetId name,
    first.regionByName? source bouquetId name = second.regionByName? source bouquetId name
  onidByServiceId? : ∀ serviceId, first.onidByServiceId? source serviceId = second.onidByServiceId? source serviceId
  onidByNetworkAndService? : ∀ networkId serviceId,
    first.onidByNetworkAndService? source networkId serviceId =
      second.onidByNetworkAndService? source networkId serviceId
  networkLcnsOf : first.networkLcnsOf source = second.networkLcnsOf source
  networkIds : first.networkIds source = second.networkIds source
  tuning? : ∀ onid tsid, first.tuning? source onid tsid = second.tuning? source onid tsid
  clientLcnsOf : first.clientLcnsOf source = second.clientLcnsOf source
  resolve : ∀ networkId region lookup fallbacks,
    Lineup.resolve first source networkId region lookup fallbacks =
      Lineup.resolve second source networkId region lookup fallbacks
  serviceNames : first.serviceNames.ofSource source = second.serviceNames.ofSource source
  providerCell : ∀ id, first.providerCell source id = second.providerCell source id

theorem answersAlike_nextProvider (store : Store) (next : Nat) (source : String) :
    AnswersAlike source { store with nextProvider := next } store := by
  constructor <;> intros <;> rfl

end DvbScan.Store
