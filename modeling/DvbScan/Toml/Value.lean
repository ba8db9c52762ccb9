/-!
# Values of a TOML file

A file is a table. Tables remember how they came about, for that decides whether later lines may add to
them: a table under its own header is closed to dotted keys, one that only dotted keys made is closed to
headers, and one between braces is closed to both.
-/

namespace DvbScan.Toml

inductive TableKind where
  /-- Written between braces. -/
  | inlined
  /-- Under its own header. -/
  | headed
  /-- On the way to a header. -/
  | implied
  /-- On the way to a value, by a dotted key. -/
  | dotted
  deriving DecidableEq, Repr

inductive Value where
  | string (text : String)
  | integer (value : Int)
  /-- A number with a fraction or an exponent, or none at all, as it is written. -/
  | float (text : String)
  | boolean (value : Bool)
  /-- A date, a time or both, as it is written. -/
  | moment (text : String)
  | array (items : List Value)
  | table (kind : TableKind) (entries : List (String × Value))
  /-- Tables under repeated headers of one name. -/
  | tables (elements : List (List (String × Value)))

abbrev Entries := List (String × Value)

end DvbScan.Toml
