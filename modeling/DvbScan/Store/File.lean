import DvbScan.Disk
import DvbScan.Store.Address

/-!
# Files of stores

A store is opened by its address. The directory that the written address names is made first, and a file
with nothing in it becomes an empty store, if it may be written. What is done to an open store has to be
written back.
-/

namespace DvbScan

structure OpenStore where
  store : Store
  /-- Where its file is. A store without one is gone when it is closed. -/
  place : Option Path
  isWritable : Bool
  deriving DecidableEq, Repr

namespace OpenStore

/-- Whether a name leaves room for the name of the file that is kept beside a store while it is written. -/
def hasRoom (place : Path) : Bool :=
  (place.names.getLastD "").utf8ByteSize + Disk.storePathMargin ≤ Disk.greatestName

/-- Opens the store at a place. One that may not be written has to be there with its tables; a file is made
for it nevertheless, if that is allowed. -/
def atPlace (disk : Disk) (address : StoreAddress) (place : Path) (now : Int) :
    Disk × Option OpenStore :=
  let isWritable := address.isWritable && hasRoom place
  let fresh : Disk × Option OpenStore :=
    if isWritable then
      (disk.put place (.file (.store .empty) now), some ⟨.empty, some place, true⟩)
    else (disk.put place (.file (.bytes []) now), none)
  match disk.entry? place with
  | some .directory => (disk, none)
  | some (.file (.store store) _) => (disk, some ⟨store, some place, isWritable⟩)
  | some (.file content _) => if content.store?.isSome && isWritable then fresh else (disk, none)
  | none =>
    if address.access = .creating ∧ disk.entry? place.up = some .directory then fresh else (disk, none)

def ofAddress (disk : Disk) (address : StoreAddress) (now : Int) : Disk × Option OpenStore :=
  if address.isFileless then
    (disk, if address.isWritable then some ⟨.empty, none, true⟩ else none)
  else
    match disk.storePlace? address.path with
    | none => (disk, none)
    | some place => atPlace disk address place now

def furnish? (disk : Disk) (text : String) : Option Disk :=
  let directory := Path.parent text
  if disk.contains directory then some disk else disk.makeDirectories? directory

def ofText (disk : Disk) (text : String) (now : Int) : Disk × Option OpenStore :=
  match furnish? disk text with
  | none => (disk, none)
  | some disk =>
    match StoreAddress.ofText? text with
    | none => (disk, none)
    | some address => ofAddress disk address now

def keep? (opened : OpenStore) (disk : Disk) (store : Store) (now : Int) : Option Disk :=
  if !opened.isWritable then none
  else
    match opened.place with
    | none => some disk
    | some place => some (disk.put place (.file (.store store) now))

end OpenStore

end DvbScan
