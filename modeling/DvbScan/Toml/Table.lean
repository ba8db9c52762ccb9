import DvbScan.Toml.Value

/-!
# Building tables

A file builds its table line by line. A key or a header leads through tables, and it makes those that are
not there yet; nothing is ever written twice.
-/

namespace DvbScan.Toml

namespace Entries

def replace (key : String) (value : Value) (entries : Entries) : Entries :=
  entries.map fun entry => if entry.1 = key then (key, value) else entry

def add? (key : String) (value : Value) (entries : Entries) : Option Entries :=
  if (entries.lookup key).isSome then none else some (entries ++ [(key, value)])

def changeLast? (change : Entries → Option Entries) : List Entries → Option (List Entries)
  | [] => none
  | [last] => (change last).map ([·])
  | first :: rest => (changeLast? change rest).map (first :: ·)

/-- Changes the table that a path leads to. Tables on the way that are not there are made, of the kind
given. A dotted key does not lead through a table with a header; where a name stands for several tables,
the path leads through the last. -/
def changeAt? (making : TableKind) : List String → (Entries → Option Entries) → Entries → Option Entries
  | [], change, entries => change entries
  | key :: path, change, entries =>
    match entries.lookup key with
    | none => do
      let inner ← changeAt? making path change []
      return entries ++ [(key, .table making inner)]
    | some (.table kind inner) =>
      if kind = .inlined ∨ (making = .dotted ∧ kind = .headed) then none
      else do return replace key (.table kind (← changeAt? making path change inner)) entries
    | some (.tables elements) => do
      return replace key (.tables (← changeLast? (changeAt? making path change) elements)) entries
    | some _ => none

/-- Adds a value to the table under a key, which only dotted keys have made. -/
def addUnder? (key last : String) (value : Value) (entries : Entries) : Option Entries :=
  match entries.lookup key with
  | none => some (entries ++ [(key, .table .dotted [(last, value)])])
  | some (.table .dotted inner) => do
    return replace key (.table .dotted (← add? last value inner)) entries
  | some _ => none

def assign? (key : List String) (value : Value) (entries : Entries) : Option Entries :=
  match key.reverse with
  | [] => none
  | [last] => add? last value entries
  | last :: above :: path =>
    changeAt? .dotted path.reverse (addUnder? above last value) entries

/-- Opens the table of a header. One that is there must not have been written itself. -/
def openTable? (key : String) (entries : Entries) : Option Entries :=
  match entries.lookup key with
  | none => some (entries ++ [(key, .table .headed [])])
  | some (.table .implied inner) => some (replace key (.table .headed inner) entries)
  | some _ => none

def openElement? (key : String) (entries : Entries) : Option Entries :=
  match entries.lookup key with
  | none => some (entries ++ [(key, .tables [[]])])
  | some (.tables elements) => some (replace key (.tables (elements ++ [[]])) entries)
  | some _ => none

end Entries

structure Draft where
  root : Entries
  header : List String

namespace Draft

def empty : Draft := ⟨[], []⟩

def under? (opening : String → Entries → Option Entries) (header : List String) (draft : Draft) :
    Option Draft := do
  let last ← header.getLast?
  return ⟨← draft.root.changeAt? .implied header.dropLast (opening last), header⟩

def assign? (key : List String) (value : Value) (draft : Draft) : Option Draft := do
  let root ← draft.root.changeAt? .implied draft.header fun entries => entries.assign? key value
  return { draft with root }

end Draft

end DvbScan.Toml
