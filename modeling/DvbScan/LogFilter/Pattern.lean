import DvbScan.Text.Blank
import DvbScan.Text.Hexadecimal
import DvbScan.Text.Letter

/-!
# Patterns

A pattern is a regular expression for the value of a field. Only whether it is well-formed matters here. A
pattern is part of a directive, which holds no comma and ends a field at a closing brace, so whatever is
written in braces is never complete. There are no tables of Unicode properties behind patterns: without
them no letter case can be ignored outside ASCII mode, and neither classes such as `\d` nor word boundaries
are to be had there. In ASCII mode a pattern may not match half a character.
-/

namespace DvbScan.LogFilter.Pattern

structure Mode where
  isUnicode : Bool
  ignoresCase : Bool
  /-- Whether blanks and comments stand for nothing. -/
  ignoresBlanks : Bool
  deriving DecidableEq, Repr

def Mode.initial : Mode := ⟨true, false, false⟩

/-- Leaves out blanks, and comments to the end of their lines, where they stand for nothing. -/
def Mode.skip (mode : Mode) (chars : List Char) : List Char :=
  if !mode.ignoresBlanks then chars
  else
    match chars with
    | [] => []
    | c :: rest =>
      if isBlank c then mode.skip rest
      else if c = '#' then mode.skip ((rest.dropWhile (· ≠ '\n')).drop 1)
      else c :: rest
termination_by chars.length
decreasing_by
  · exact Nat.lt_add_one _
  · have behind := (List.dropWhile_sublist (l := rest) (· ≠ '\n')).length_le
    simp only [List.length_drop, List.length_cons]
    omega

theorem Mode.length_skip_le (mode : Mode) (chars : List Char) :
    (mode.skip chars).length ≤ chars.length := by
  fun_induction Mode.skip mode chars with
  | case1 => exact Nat.le_refl _
  | case2 => exact Nat.le_refl _
  | case3 => simp only [List.length_cons]; omega
  | case4 _ rest _ ih =>
    have behind := (List.dropWhile_sublist (l := rest) (· ≠ '\n')).length_le
    simp only [List.length_drop, List.length_cons] at ih ⊢
    omega
  | case5 => exact Nat.le_refl _

inductive Escape where
  | char (c : Char)
  /-- A number in two hexadecimal digits. -/
  | byte (value : Nat)
  /-- A class, and whether it stands for all characters but its own. -/
  | category (letter : Char)
  /-- A condition on a place, which may be one between words and others. -/
  | place (isBoundary : Bool)
  deriving DecidableEq, Repr

def controls : List (Char × Char) :=
  [('a', '\x07'), ('f', '\x0c'), ('t', '\t'), ('n', '\n'), ('r', '\r'), ('v', '\x0b')]

def hexadecimal? (mode : Mode) : Nat → List Char → Option (List Char × List Char)
  | 0, chars => some ([], chars)
  | count + 1, chars =>
    match mode.skip chars with
    | [] => none
    | c :: rest => do
      let _ ← Hexadecimal.digit? c
      let (digits, rest) ← hexadecimal? mode count rest
      return (c :: digits, rest)

/-- What is behind a backslash. Any other ASCII character but letters, digits and angles stands for itself. -/
def escape? (mode : Mode) : List Char → Option (Escape × List Char)
  | [] => none
  | 'x' :: rest => do
    let (digits, rest) ← hexadecimal? mode 2 rest
    return (.byte (← Hexadecimal.char? digits).toNat, rest)
  | 'u' :: rest => do
    let (digits, rest) ← hexadecimal? mode 4 rest
    return (.char (← Hexadecimal.char? digits), rest)
  | 'U' :: rest => do
    let (digits, rest) ← hexadecimal? mode 8 rest
    return (.char (← Hexadecimal.char? digits), rest)
  | c :: rest =>
    if "dswDSW".toList.contains c then some (.category c, rest)
    else if "Az".toList.contains c then some (.place false, rest)
    else if "bB<>".toList.contains c then some (.place true, rest)
    else if c.toNat < 128 && !c.isAlphanum then some (.char c, rest)
    else (controls.lookup c).map fun control => (.char control, rest)

def Mode.allowsChar (mode : Mode) (c : Char) : Bool :=
  !mode.ignoresCase || (!mode.isUnicode && c.toNat < 128)

def Mode.allows (mode : Mode) : Escape → Bool
  | .char c => mode.allowsChar c
  | .byte value => if mode.isUnicode then !mode.ignoresCase else value < 128
  | .category letter => !mode.isUnicode && letter.isLower
  | .place isBoundary => !isBoundary || !mode.isUnicode

abbrev NumberSet := Nat → Bool

namespace NumberSet

def none : NumberSet := fun _ => false

def union (first second : NumberSet) : NumberSet := fun number => first number || second number

def except (set : NumberSet) (isNegated : Bool) : NumberSet := fun number => set number != isNegated

def between (first last : Nat) : NumberSet := fun number => first ≤ number && number ≤ last

def ofText (text : String) : NumberSet := fun number => text.toList.any (·.toNat == number)

def digit : NumberSet := between 0x30 0x39

def upper : NumberSet := between 0x41 0x5A

def lower : NumberSet := between 0x61 0x7A

def alpha : NumberSet := union upper lower

def alnum : NumberSet := union alpha digit

def word : NumberSet := union alnum (ofText "_")

def space : NumberSet := union (between 9 13) (ofText " ")

def named : List (String × NumberSet) :=
  [("alnum", alnum), ("alpha", alpha), ("ascii", between 0 0x7F), ("blank", ofText "\t "),
    ("cntrl", union (between 0 0x1F) (between 0x7F 0x7F)), ("digit", digit), ("graph", between 0x21 0x7E),
    ("lower", lower), ("print", between 0x20 0x7E),
    ("punct", fun number => between 0x21 0x7E number && !alnum number), ("space", space),
    ("upper", upper), ("word", word), ("xdigit", ofText "0123456789abcdefABCDEF")]

def ofLetter (letter : Char) : NumberSet :=
  let set := if letter.toLower = 'd' then digit else if letter.toLower = 's' then space else word
  set.except letter.isUpper

def isAscii (set : NumberSet) : Bool :=
  (List.range' 128 128).all fun number => !set number

end NumberSet

inductive SetOperator where
  | intersection | difference | symmetricDifference
  deriving DecidableEq, Repr

def SetOperator.apply (first second : NumberSet) : SetOperator → NumberSet
  | intersection => fun number => first number && second number
  | difference => fun number => first number && !second number
  | symmetricDifference => fun number => first number != second number

structure SetDraft where
  isNegated : Bool
  /-- What stands before the last operator, and the operator. -/
  before : Option (NumberSet × SetOperator)
  items : NumberSet

namespace SetDraft

def add (draft : SetDraft) (set : NumberSet) : SetDraft :=
  { draft with items := draft.items.union set }

/-- The set without the negation: operators are applied from the left to the right. -/
def joined (draft : SetDraft) : NumberSet :=
  match draft.before with
  | some (first, operator) => operator.apply first draft.items
  | none => draft.items

def operate (draft : SetDraft) (operator : SetOperator) : SetDraft :=
  { draft with before := some (draft.joined, operator), items := .none }

def close (draft : SetDraft) : NumberSet :=
  draft.joined.except draft.isNegated

end SetDraft

/-- The hyphens at the start of a set, which stand for themselves, and a bracket right at the start. -/
def leading (mode : Mode) (draft : SetDraft) (isFirst : Bool) : List Char → SetDraft × List Char
  | '-' :: rest => leading mode (draft.add (.ofText "-")) false (mode.skip rest)
  | ']' :: rest => if isFirst then (draft.add (.ofText "]"), mode.skip rest) else (draft, ']' :: rest)
  | chars => (draft, chars)
termination_by chars => chars.length
decreasing_by exact Nat.lt_of_le_of_lt (mode.length_skip_le rest) (Nat.lt_add_one _)

def openSet (mode : Mode) (chars : List Char) : SetDraft × List Char :=
  match mode.skip chars with
  | '^' :: rest => leading mode ⟨true, none, .none⟩ true (mode.skip rest)
  | start => leading mode ⟨false, none, .none⟩ true start

def namedSet? : List Char → Option (NumberSet × List Char)
  | '[' :: ':' :: rest =>
    let (isNegated, rest) := match rest with
      | '^' :: rest => (true, rest)
      | rest => (false, rest)
    match rest.dropWhile (· ≠ ':') with
    | ':' :: ']' :: behind => do
      let set ← NumberSet.named.lookup (String.ofList (rest.takeWhile (· ≠ ':')))
      return (set.except isNegated, behind)
    | _ => none
  | _ => none

inductive SetItem where
  | char (number : Nat)
  | category (letter : Char)
  deriving DecidableEq, Repr

def SetItem.toSet : SetItem → NumberSet
  | char number => .between number number
  | category letter => .ofLetter letter

/-- In ASCII mode a character beyond ASCII is only allowed as a number in two digits. -/
def setItem? (mode : Mode) : List Char → Option (SetItem × List Char)
  | [] => none
  | '\\' :: rest => do
    match ← escape? mode rest with
    | (.char c, rest) => if mode.isUnicode || c.toNat < 128 then some (.char c.toNat, rest) else none
    | (.byte value, rest) => some (.char value, rest)
    | (.category letter, rest) => if mode.isUnicode then none else some (.category letter, rest)
    | (.place _, _) => none
  | c :: rest => if mode.isUnicode || c.toNat < 128 then some (.char c.toNat, rest) else none

/-- A member of a set or a range of members. A hyphen in front of another one or of the closing bracket makes
no range. -/
def setRange? (mode : Mode) (chars : List Char) : Option (NumberSet × List Char) := do
  let (first, rest) ← setItem? mode chars
  match mode.skip rest with
  | [] => none
  | '-' :: behind =>
    match mode.skip behind, first with
    | ']' :: _, _ | '-' :: _, _ => some (first.toSet, mode.skip rest)
    | start, .char low =>
      match ← setItem? mode start with
      | (.char high, rest) => if low ≤ high then some (.between low high, rest) else none
      | (.category _, _) => none
    | _, .category _ => none
  | rest => some (first.toSet, rest)

def setStep? (mode : Mode) (draft : SetDraft) (outer : List SetDraft) :
    List Char → Option (SetDraft × List SetDraft × List Char)
  | '[' :: rest =>
    match namedSet? ('[' :: rest) with
    | some (set, rest) => some (draft.add set, outer, rest)
    | none =>
      let (inner, rest) := openSet mode rest
      some (inner, draft :: outer, rest)
  | '&' :: '&' :: rest => some (draft.operate .intersection, outer, rest)
  | '-' :: '-' :: rest => some (draft.operate .difference, outer, rest)
  | '~' :: '~' :: rest => some (draft.operate .symmetricDifference, outer, rest)
  | chars => do
    let (set, rest) ← setRange? mode chars
    return (draft.add set, outer, rest)

def setRest? (mode : Mode) (draft : SetDraft) (outer : List SetDraft) (chars : List Char) :
    Option (NumberSet × List Char) :=
  match mode.skip chars, outer with
  | ']' :: rest, [] => some (draft.close, rest)
  | ']' :: rest, parent :: outer =>
    if _shorter : rest.length < chars.length then
      setRest? mode (parent.add draft.close) outer rest
    else none
  | start, _ =>
    match setStep? mode draft outer start with
    | none => none
    | some (draft, outer, rest) =>
      if _shorter : rest.length < chars.length then setRest? mode draft outer rest else none
termination_by chars.length

def set? (mode : Mode) (chars : List Char) : Option (List Char) := do
  let (draft, rest) := openSet mode chars
  let (set, rest) ← setRest? mode draft [] rest
  if (if mode.isUnicode then !mode.ignoresCase else set.isAscii) then some rest else none

def groupName? (chars : List Char) : Option (List Char × List Char) :=
  let name := chars.takeWhile (· ≠ '>')
  match name, chars.dropWhile (· ≠ '>') with
  | first :: more, _ :: rest =>
    if (first = '_' || isLetter first) &&
        more.all fun c => "_.[]".toList.contains c || isLetterOrDigit c then
      some (name, rest)
    else none
  | _, _ => none

def flagLetters : List Char := "imsUuRx".toList

/-- Flags to a colon or a closing parenthesis, and which of the two. No flag stands twice, and a single
hyphen sets off those that are cleared. -/
def flags? (seen : List Char) (sets : Bool) (mode : Mode) : List Char → Option (Mode × Char × List Char)
  | [] => none
  | '-' :: rest =>
    match rest with
    | ':' :: _ | ')' :: _ => none
    | _ => if sets then flags? seen false mode rest else none
  | c :: rest =>
    if c = ':' || c = ')' then some (mode, c, rest)
    else if seen.contains c || !flagLetters.contains c then none
    else
      let mode := if c = 'i' then { mode with ignoresCase := sets }
        else if c = 'u' then { mode with isUnicode := sets }
        else if c = 'x' then { mode with ignoresBlanks := sets }
        else mode
      flags? (c :: seen) sets mode rest

structure State where
  mode : Mode
  /-- The modes outside the groups that are open, the innermost first. -/
  outer : List Mode
  /-- The names of groups so far. -/
  names : List (List Char)
  /-- Whether something stands before that can be repeated. -/
  isRepeatable : Bool
  deriving DecidableEq, Repr

namespace State

def initial : State := ⟨.initial, [], [], false⟩

def openGroup (state : State) (inner : Mode) : State :=
  { state with mode := inner, outer := state.mode :: state.outer, isRepeatable := false }

/-- What is behind an opening parenthesis: a look around, which there is not, a name, flags, or the content
of the group. -/
def group? (state : State) (chars : List Char) : Option (State × List Char) :=
  let named (rest : List Char) : Option (State × List Char) := do
    let (name, rest) ← groupName? rest
    if state.names.contains name then none
    else some ({ state with names := name :: state.names }.openGroup state.mode, rest)
  match state.mode.skip chars with
  | '?' :: '=' :: _ | '?' :: '!' :: _ | '?' :: '<' :: '=' :: _ | '?' :: '<' :: '!' :: _ => none
  | '?' :: 'P' :: '<' :: rest | '?' :: '<' :: rest => named rest
  | '?' :: ')' :: _ => none
  | '?' :: rest => do
    match ← flags? [] true state.mode rest with
    | (mode, ':', rest) => some (state.openGroup mode, rest)
    | (mode, _, rest) => some ({ state with mode, isRepeatable := false }, rest)
  | rest => some (state.openGroup state.mode, rest)

def repeated? (state : State) (chars : List Char) : Option (State × List Char) :=
  if state.isRepeatable then
    match chars with
    | '?' :: rest => some (state, rest)
    | rest => some (state, rest)
  else none

def placed (state : State) (chars : List Char) : State × List Char :=
  ({ state with isRepeatable := true }, chars)

def step? (state : State) : List Char → Option (State × List Char)
  | '(' :: rest => state.group? rest
  | ')' :: rest =>
    match state.outer with
    | [] => none
    | mode :: outer => some ({ state with mode, outer, isRepeatable := true }, rest)
  | '|' :: rest => some ({ state with isRepeatable := false }, rest)
  | '[' :: rest => (set? state.mode rest).map state.placed
  | '{' :: _ => none
  | '\\' :: rest => do
    let (escape, rest) ← escape? state.mode rest
    if state.mode.allows escape then some (state.placed rest) else none
  | '.' :: rest => if state.mode.isUnicode then some (state.placed rest) else none
  | c :: rest =>
    if c = '?' || c = '*' || c = '+' then state.repeated? rest
    else if c = '^' || c = '$' || state.mode.allowsChar c then some (state.placed rest)
    else none
  | [] => none

def run (state : State) (chars : List Char) : Bool :=
  match state.mode.skip chars with
  | [] => state.outer.isEmpty
  | start =>
    match state.step? start with
    | none => false
    | some (next, rest) => if _shorter : rest.length < chars.length then next.run rest else false
termination_by chars.length

end State

def isWellFormed (pattern : List Char) : Bool :=
  State.initial.run pattern

end DvbScan.LogFilter.Pattern
