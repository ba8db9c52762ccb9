/-!
# Paths

A written path is a list of names between slashes, where a point stays and two points go back. A path in this
library is what is left of it when every step is taken by the names alone.
-/

namespace DvbScan

inductive PathStart where
  | root
  /-- So many levels above the directory that a command works in. -/
  | above (levels : Nat)
  deriving DecidableEq, Repr

structure Path where
  start : PathStart
  names : List String
  deriving DecidableEq, Repr

namespace Path

def here : Path := ⟨.above 0, []⟩

/-- The path one level up. Nothing is above the root. -/
def up (path : Path) : Path :=
  match path.start, path.names with
  | .above levels, [] => ⟨.above (levels + 1), []⟩
  | start, names => ⟨start, names.dropLast⟩

def enter (path : Path) (name : String) : Path :=
  if name = "" ∨ name = "." then path
  else if name = ".." then path.up
  else ⟨path.start, path.names ++ [name]⟩

def isProper (name : String) : Bool :=
  name ≠ "" && name ≠ "." && name ≠ ".."

def origin (text : String) : Path :=
  if text.startsWith "/" then ⟨.root, []⟩ else here

def ofText (text : String) : Path :=
  (text.splitOn "/").foldl enter (origin text)

/-- A written path that leads to a path without going back below its start. -/
def toText (path : Path) : String :=
  let names := "/".intercalate path.names
  match path.start with
  | .root => "/" ++ names
  | .above levels => String.join (List.replicate levels "../") ++ (if names = "" then "." else names)

def stations (path : Path) : List Path :=
  (List.range path.names.length).map fun count => ⟨path.start, path.names.take count⟩

/-- The names of a written path that count: no empty ones, and a point only in front. The root is a name of
its own. -/
def parts (text : String) : List String :=
  match text.splitOn "/" with
  | [] => []
  | first :: rest =>
    let start := if text.startsWith "/" then ["/"] else if first = "" then [] else [first]
    start ++ rest.filter fun name => name ≠ "" && name ≠ "."

def join : List String → String
  | "/" :: rest => "/" ++ "/".intercalate rest
  | parts => "/".intercalate parts

/-- The written paths of the directories above one, the nearest first. -/
def ancestors (text : String) : List String :=
  let parts := parts text
  ((List.range parts.length).drop 1).reverse.map fun count => join (parts.take count)

def parent (text : String) : String :=
  (ancestors text).headD ""

end Path

end DvbScan
