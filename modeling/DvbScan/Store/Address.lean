import DvbScan.Text.Decimal
import DvbScan.Text.Hexadecimal
import DvbScan.Text.Unicode

/-!
# Addresses of stores

A store is named by the path of its file, or by an address in the form of a URI: `file:`, a path, and options
behind a question mark. The options restrict what may be done with the file. A store without a file is gone
when it is closed.
-/

namespace DvbScan

inductive StoreAccess where
  | readOnly
  /-- Reading and writing, if the file is there. -/
  | existing
  /-- Reading and writing; a file that is not there is made. -/
  | creating
  /-- No file is used. -/
  | fileless
  deriving DecidableEq, Repr

structure StoreAddress where
  /-- The path of the file, empty if there is none. -/
  path : String
  access : StoreAccess
  /-- Whether the file is taken for one that nobody writes to, whatever the access. -/
  isFrozen : Bool
  deriving DecidableEq, Repr

namespace StoreAccess

def rank : StoreAccess → Nat
  | readOnly => 1
  | existing => 2
  | creating => 3
  | fileless => 4

def ofName? : String → Option StoreAccess
  | "ro" => some readOnly
  | "rw" => some existing
  | "rwc" => some creating
  | "memory" => some fileless
  | _ => none

/-- Takes the name of an access, which may not exceed the one before. To use no file is always allowed. -/
def restrict? (access : StoreAccess) (name : String) : Option StoreAccess := do
  let wanted ← ofName? name
  if wanted = fileless ∨ wanted.rank ≤ access.rank then some wanted else none

end StoreAccess

namespace StoreAddress

def filelessPath : String := ":memory:"

def ofPath (path : String) : StoreAddress :=
  ⟨path, .creating, false⟩

def isFileless (address : StoreAddress) : Bool :=
  address.access = .fileless || address.path = "" || address.path = filelessPath

def isWritable (address : StoreAddress) : Bool :=
  address.access ≠ .readOnly && (address.isFileless || !address.isFrozen)

/-- The bytes that a part of an address stands for: a percent sign with two hexadecimal digits is a byte,
and one for zero ends the part. -/
def bytes : List Char → List UInt8
  | [] => []
  | '%' :: high :: low :: rest =>
    match Hexadecimal.digit? high, Hexadecimal.digit? low with
    | some high, some low =>
      if high = 0 ∧ low = 0 then [] else UInt8.ofNat (16 * high + low) :: bytes rest
    | _, _ => 0x25 :: bytes (high :: low :: rest)
  | c :: rest => String.utf8EncodeChar c ++ bytes rest

def decode (chars : List Char) : String :=
  String.ofList (Utf8.decode (bytes chars))

def splitAt (mark : Char) (chars : List Char) : List Char × List Char :=
  (chars.takeWhile (· ≠ mark), (chars.dropWhile (· ≠ mark)).drop 1)

def option (text : String) : String × String :=
  let (name, value) := splitAt '=' text.toList
  (decode name, decode value)

def options (chars : List Char) : List (String × String) :=
  (((String.ofList chars).splitOn "&").map option).filter fun (name, _) => name ≠ ""

/-- What follows the name of a machine, which may only be this one. -/
def dropMachine? : List Char → Option (List Char)
  | '/' :: '/' :: rest =>
    let machine := String.ofList (rest.takeWhile (· ≠ '/'))
    if machine = "" ∨ machine = "localhost" then some (rest.dropWhile (· ≠ '/')) else none
  | chars => some chars

/-- Whether a text affirms: a number that eight bits do not take for zero, or a word. -/
def affirms (text : String) : Bool :=
  match text.toList.takeWhile Char.isDigit with
  | [] => ["on", "yes", "true"].contains text.toLower
  | digits =>
    let number := (Decimal.digits? digits).getD 0
    number ≤ Int32.maxValue.toInt && number % UInt8.size ≠ 0

def lockings : List String := ["unix", "unix-none", "unix-dotfile", "unix-excl"]

def take? (address : StoreAddress) : String × String → Option StoreAddress
  | ("mode", name) => (address.access.restrict? name).map fun access => { address with access }
  | ("cache", name) => if name = "shared" ∨ name = "private" then some address else none
  | _ => some address

def hold? (address : StoreAddress) (way : String) : Option StoreAddress :=
  if lockings.contains way then some address
  else if way = "memdb" then some { address with path := "" }
  else none

def ofText? (text : String) : Option StoreAddress :=
  match text.toList with
  | 'f' :: 'i' :: 'l' :: 'e' :: ':' :: rest => do
    let located ← dropMachine? rest
    let (path, query) := splitAt '?' (located.takeWhile (· ≠ '#'))
    let options := options query
    let address ← options.foldlM take? (ofPath (decode path))
    let frozen := { address with isFrozen := (options.lookup "immutable").any affirms }
    match (options.reverse.lookup "vfs") with
    | some way => frozen.hold? way
    | none => some frozen
  | _ => some (ofPath text)

end StoreAddress

end DvbScan
