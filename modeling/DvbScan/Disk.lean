import DvbScan.Path
import DvbScan.Si.Bytes
import DvbScan.Store.Basic

/-!
# Disks

The part of a file system that a command can see. Every directory on the way to an entry is an entry itself.
A written path is followed through directories that have to be there; a store alone is looked for by the
names of its path. A store is a file whose content is only known as a store.
-/

namespace DvbScan

inductive FileFault where
  | notFound | notDirectory | isDirectory | occupied | nameTooLong | notText
  deriving DecidableEq, Repr

def FileFault.message : FileFault → String
  | notFound => "No such file or directory (os error 2)"
  | notDirectory => "Not a directory (os error 20)"
  | isDirectory => "Is a directory (os error 21)"
  | occupied => "File exists (os error 17)"
  | nameTooLong => "File name too long (os error 36)"
  | notText => "stream did not contain valid UTF-8"

inductive FileContent where
  | bytes (bytes : Bytes)
  | store (store : Store)
  deriving DecidableEq, Repr

/-- The store in a file. A file of at most one byte holds an empty store; anything else is none. -/
def FileContent.store? : FileContent → Option Store
  | .store content => some content
  | .bytes [] | .bytes [_] => some .empty
  | .bytes _ => none

inductive DiskEntry where
  | directory
  /-- A file and when it was last changed, in nanoseconds since 1970. -/
  | file (content : FileContent) (modified : Int)
  deriving DecidableEq, Repr

abbrev Disk := List (Path × DiskEntry)

namespace Disk

def greatestName : Nat := 255

/-- What is at a path. Where paths begin is a directory. -/
def entry? (disk : Disk) (path : Path) : Option DiskEntry :=
  if path.names = [] then some .directory else disk.lookup path

def put (disk : Disk) (path : Path) (entry : DiskEntry) : Disk :=
  (path, entry) :: disk.filter (·.1 ≠ path)

def write (disk : Disk) (path : Path) (content : FileContent) (now : Int) : Disk :=
  let furnished := path.stations.foldl (fun disk station =>
    if (disk.entry? station).isSome then disk else disk.put station .directory) disk
  furnished.put path (.file content now)

def step (disk : Disk) (place : Path) (name : String) : Except FileFault Path :=
  match disk.entry? place with
  | none => .error .notFound
  | some (.file _ _) => .error .notDirectory
  | some .directory =>
    if greatestName < name.utf8ByteSize then .error .nameTooLong else .ok (place.enter name)

/-- The place that a written path leads to. It need not be there, but the directories on the way do. -/
def locate (disk : Disk) (text : String) : Except FileFault Path :=
  if text = "" then .error .notFound
  else (text.splitOn "/").foldlM disk.step (.origin text)

def find (disk : Disk) (text : String) : Except FileFault DiskEntry := do
  match disk.entry? (← disk.locate text) with
  | none => .error .notFound
  | some entry => .ok entry

def contains (disk : Disk) (text : String) : Bool :=
  (disk.find text).toBool

def hasDirectory (disk : Disk) (text : String) : Bool :=
  match disk.find text with
  | .ok .directory => true
  | _ => false

def readText (disk : Disk) (text : String) : Except FileFault String := do
  match ← disk.find text with
  | .directory => .error .isDirectory
  | .file (.store _) _ => .error .notText
  | .file (.bytes bytes) _ =>
    match String.fromUTF8? ⟨bytes.toArray⟩ with
    | some content => .ok content
    | none => .error .notText

def makeDirectory (disk : Disk) (text : String) : Except FileFault Disk := do
  match ((text.splitOn "/").reverse.dropWhile (· = "")) with
  | [] => .error (if text = "" then .notFound else .occupied)
  | last :: before =>
    let place ← before.reverse.foldlM disk.step (.origin text)
    let made ← disk.step place last
    if !Path.isProper last || (disk.entry? made).isSome then .error .occupied
    else .ok (disk.put made .directory)

/-- Makes the first of some directories, each of which has to lie in the next, and of the others as many as
it takes. -/
def makeFirst? (disk : Disk) : List String → Option Disk
  | [] => some disk
  | text :: above =>
    match disk.makeDirectory text with
    | .ok made => some made
    | .error .notFound => do
      let below ← disk.makeFirst? above
      match below.makeDirectory text with
      | .ok made => some made
      | .error _ => if below.hasDirectory text then some below else none
    | .error _ => if disk.hasDirectory text then some disk else none

def makeDirectories? (disk : Disk) (text : String) : Option Disk :=
  if text = "" then some disk else disk.makeFirst? (text :: Path.ancestors text)

/-- The greatest length of the path of a store, and what is to remain of it for the files beside the store. -/
def greatestStorePath : Nat := 512

def storePathMargin : Nat := 8

/-- The place of a store. Two points go back by the names alone; only a file may not be on the way. -/
def storePlace? (disk : Disk) (text : String) : Option Path := do
  let place ← (text.splitOn "/").foldlM (fun place name =>
    let blocked := match disk.entry? place with
      | some (.file _ _) => true
      | _ => false
    if Path.isProper name && (blocked || greatestName < name.utf8ByteSize) then none
    else some (place.enter name)) (Path.origin text)
  let length := place.names.foldl (fun total name => total + name.utf8ByteSize + 1) 0
  if length + storePathMargin ≤ greatestStorePath then some place else none

def store? (disk : Disk) (path : Path) : Option Store :=
  match disk.entry? path with
  | some (.file content _) => content.store?
  | _ => none

end Disk

end DvbScan
