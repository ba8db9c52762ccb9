import DvbScan.LogFilter.Pattern
import DvbScan.Text.Ascii
import DvbScan.Text.Decimal

/-!
# Log filters

A log filter is a list of directives between commas: a level, a target, or a target, a span with fields and
a level, as in `net[request{id=7}]=debug`. Only whether a filter is well-formed matters here. A directive is
read without the blanks around it, and its parts are taken from the same places of the directive with its
blanks, where a part may begin or end inside a character.
-/

namespace DvbScan.LogFilter

inductive Fault where
  | malformed
  /-- A part of a directive begins or ends inside a character. -/
  | insideCharacter
  deriving DecidableEq, Repr

/-- The text behind a number of bytes, unless a character goes on there. -/
def dropBytes? : Nat → List Char → Option (List Char)
  | 0, chars => some chars
  | _ + 1, [] => none
  | count + 1, c :: rest =>
    if c.utf8Size ≤ count + 1 then dropBytes? (count + 1 - c.utf8Size) rest else none
termination_by structural _ chars => chars

def takeBytes? : Nat → List Char → Option (List Char)
  | 0, _ => some []
  | _ + 1, [] => none
  | count + 1, c :: rest =>
    if c.utf8Size ≤ count + 1 then (takeBytes? (count + 1 - c.utf8Size) rest).map (c :: ·) else none
termination_by structural _ chars => chars

def part (text : List Char) (first last : Nat) : Except Fault (List Char) :=
  match (dropBytes? first text).bind (takeBytes? (last - first)) with
  | some chars => .ok chars
  | none => .error .insideCharacter

def levelNames : List String := ["ERROR", "WARN", "INFO", "DEBUG", "TRACE", "OFF"]

def isLevel (text : String) : Bool :=
  (Decimal.readBelow? 6 text).isSome || levelNames.contains (Ascii.upper text)

/-- Digits with a point among them or around them, or without one. -/
def isMantissa (chars : List Char) : Bool :=
  let digits := chars.filter (· ≠ '.')
  !digits.isEmpty && digits.all Char.isDigit && chars.length ≤ digits.length + 1

def isExponent : List Char → Bool
  | '+' :: digits | '-' :: digits => !digits.isEmpty && digits.all Char.isDigit
  | digits => !digits.isEmpty && digits.all Char.isDigit

def isUnsigned (chars : List Char) : Bool :=
  let isMark (c : Char) : Bool := c = 'e' || c = 'E'
  ["INF", "INFINITY", "NAN"].contains (Ascii.upper (String.ofList chars)) ||
    isMantissa (chars.takeWhile (!isMark ·)) &&
      match chars.dropWhile (!isMark ·) with
      | [] => true
      | _ :: exponent => isExponent exponent

def isNumeral : List Char → Bool
  | '+' :: rest | '-' :: rest => isUnsigned rest
  | chars => isUnsigned chars

/-- A field is a name, or a name and a value behind an equals sign. What is behind a second sign does not
count. The value is a numeral or else a pattern. -/
def isField (chars : List Char) : Bool :=
  match chars.dropWhile (· ≠ '=') with
  | [] => true
  | _ :: rest =>
    let value := rest.takeWhile (· ≠ '=')
    isNumeral value || Pattern.isWellFormed value

/-- Where the reading of a directive is. Positions count the bytes of the directive read so far. -/
inductive State where
  | start
  /-- In a level or a target. -/
  | name
  | span (first : Nat)
  | field (first : Nat)
  /-- After the fields of a span. -/
  | fields
  /-- After a span. -/
  | target
  | level (first : Nat)
  deriving DecidableEq, Repr

def State.step (directive : List Char) (position : Nat) (c : Char) : State → Except Fault State
  | start =>
    if c = '[' then .ok (span (position + 1))
    else if c = '-' ∨ c = ':' ∨ c = '_' ∨ isLetterOrDigit c then .ok name
    else .error .malformed
  | name =>
    if c = '=' then (part directive 0 position).map fun _ => level (position + 1)
    else if c = '[' then (part directive 0 position).map fun _ => span (position + 1)
    else .ok name
  | span first =>
    if c = ']' then (part directive first position).map fun _ => target
    else if c = '\x7b' then (part directive first position).map fun _ => field (position + 1)
    else .ok (span first)
  | field first =>
    if c = '\x7d' then do
      let chars ← part directive first position
      if chars.isEmpty || !isField chars then .error .malformed else .ok fields
    else .ok (field first)
  | fields => if c = ']' then .ok target else .error .malformed
  | target => if c = '=' then .ok (level (position + 1)) else .error .malformed
  | level first => .ok (level first)

def State.finish (directive : List Char) : State → Except Fault Unit
  | name | target => .ok ()
  | level first =>
    match dropBytes? first directive with
    | none => .error .insideCharacter
    | some chars =>
      if chars.isEmpty || isLevel (String.ofList chars) then .ok () else .error .malformed
  | start | span _ | field _ | fields => .error .malformed

def trim (chars : List Char) : List Char :=
  ((chars.dropWhile isBlank).reverse.dropWhile isBlank).reverse

def State.run (directive : List Char) (position : Nat) (state : State) : List Char → Except Fault State
  | [] => .ok state
  | c :: rest => do (← state.step directive position c).run directive (position + c.utf8Size) rest

def checkDirective (text : String) : Except Fault Unit := do
  let directive := text.toList
  (← State.start.run directive 0 (trim directive)).finish directive

/-- Why a text is no filter, if it is none. Nothing between two commas is no directive. -/
def check (text : String) : Except Fault Unit :=
  ((text.splitOn ",").filter (· ≠ "")).forM checkDirective

/-- The filter in force: that of the environment, unless it is blank, or the configured one, or else one
that goes by whether much is to be told. -/
def inForce (environment level : Option String) (verbose : Bool) : String :=
  match environment.filter fun text => !(trim text.toList).isEmpty with
  | some text => text
  | none => level.getD (if verbose then "debug" else "info")

end DvbScan.LogFilter
