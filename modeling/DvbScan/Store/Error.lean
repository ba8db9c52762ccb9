/-!
# Why the store refuses
-/

namespace DvbScan

inductive StoreError where
  /-- A name that the store does not know. -/
  | notFound (what : String)
  /-- The worker that holds the store is gone. -/
  | workerStopped
  deriving DecidableEq, Repr

def StoreError.message : StoreError → String
  | notFound what => "Not found: " ++ what
  | workerStopped => "Storage worker has stopped"

end DvbScan
