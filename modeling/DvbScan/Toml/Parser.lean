import DvbScan.Toml.Lexical
import DvbScan.Toml.Table

/-!
# Reading a TOML file

A file is read line by line into a draft. Values may hold values to a fixed depth. Every loop goes on only
where something has been read, which bounds it by the length of the text.
-/

namespace DvbScan.Toml

/-- How deep values may hold values, and how many parts a key may have. -/
def depthLimit : Nat := 79

def isBare (c : Char) : Bool := c.isAlphanum || c == '_' || c == '-'

def keyPart? : List Char → Option (String × List Char)
  | '"' :: rest => (basicString? rest).map fun (text, after) => (String.ofList text, after)
  | '\'' :: rest => (literalString? rest).map fun (text, after) => (String.ofList text, after)
  | chars =>
    match chars.takeWhile isBare with
    | [] => none
    | part => some (String.ofList part, chars.dropWhile isBare)

def keyParts? (chars : List Char) : Option (List String × List Char) :=
  match keyPart? (skipSpaces chars) with
  | none => none
  | some (part, rest) =>
    match skipSpaces rest with
    | '.' :: more =>
      if _shorter : more.length < chars.length then
        (keyParts? more).map fun (parts, after) => (part :: parts, after)
      else none
    | after => some ([part], after)
termination_by chars.length

def key? (chars : List Char) : Option (List String × List Char) := do
  let (parts, rest) ← keyParts? chars
  if parts.length ≤ depthLimit then some (parts, rest) else none

def lineEnd? (chars : List Char) : Option (List Char) :=
  let rest := match skipSpaces chars with
    | '#' :: comment => comment.dropWhile isText
    | rest => rest
  match rest with
  | [] => some []
  | '\n' :: after => some after
  | '\r' :: '\n' :: after => some after
  | _ => none

def skipLines? (chars : List Char) : Option (List Char) :=
  match skipSpaces chars with
  | [] => some []
  | c :: rest =>
    if c == '#' || c == '\n' || c == '\r' then
      match lineEnd? (c :: rest) with
      | none => none
      | some after =>
        if _shorter : after.length < chars.length then skipLines? after else none
    else some (c :: rest)
termination_by chars.length

def items? (item? : List Char → Option (Value × List Char)) (chars : List Char) :
    Option (List Value × List Char) :=
  match skipLines? chars with
  | none => none
  | some (']' :: rest) => some ([], rest)
  | some start =>
    match item? start with
    | none => none
    | some (item, rest) =>
      match skipLines? rest with
      | some (']' :: after) => some ([item], after)
      | some (',' :: after) =>
        if _shorter : after.length < chars.length then
          (items? item? after).map fun (items, last) => (item :: items, last)
        else none
      | _ => none
termination_by chars.length

def pair? (item? : List Char → Option (Value × List Char)) (chars : List Char) :
    Option (List String × Value × List Char) := do
  let (key, rest) ← key? chars
  let (value, after) ← item? (skipSpaces (← char? '=' rest))
  return (key, value, after)

def pairs? (item? : List Char → Option (Value × List Char)) (entries : Entries) (chars : List Char) :
    Option (Entries × List Char) :=
  match pair? item? chars with
  | none => none
  | some (key, value, rest) =>
    match entries.assign? key value with
    | none => none
    | some entries =>
      match skipSpaces rest with
      | '}' :: after => some (entries, after)
      | ',' :: after =>
        if _shorter : after.length < chars.length then pairs? item? entries after else none
      | _ => none
termination_by chars.length

def value? : Nat → List Char → Option (Value × List Char)
  | 0, chars => scalar? chars
  | depth + 1, '[' :: rest =>
    (items? (value? depth) rest).map fun (items, after) => (.array items, after)
  | depth + 1, '{' :: rest =>
    match skipSpaces rest with
    | '}' :: after => some (.table .inlined [], after)
    | start =>
      (pairs? (value? depth) [] start).map fun (entries, after) => (.table .inlined entries, after)
  | _ + 1, chars => scalar? chars

def line? (draft : Draft) (chars : List Char) : Option (Draft × List Char) :=
  match chars with
  | '[' :: '[' :: rest => do
    let (header, rest) ← key? rest
    let after ← lineEnd? (← char? ']' (← char? ']' rest))
    return (← draft.under? Entries.openElement? header, after)
  | '[' :: rest => do
    let (header, rest) ← key? rest
    let after ← lineEnd? (← char? ']' rest)
    return (← draft.under? Entries.openTable? header, after)
  | '#' :: _ | '\n' :: _ | '\r' :: _ => do return (draft, ← lineEnd? chars)
  | _ => do
    let (key, value, rest) ← pair? (value? depthLimit) chars
    let after ← lineEnd? rest
    return (← draft.assign? key value, after)

def lines? (draft : Draft) (chars : List Char) : Option Draft :=
  match skipSpaces chars with
  | [] => some draft
  | start =>
    match line? draft start with
    | none => none
    | some (next, rest) =>
      if _shorter : rest.length < chars.length then lines? next rest else none
termination_by chars.length

/-- The table of a file; none if it is not well-formed. A byte order mark in front does not count. -/
def parse? (text : String) : Option Entries :=
  let chars := match text.toList with
    | '\uFEFF' :: rest => rest
    | chars => chars
  (lines? .empty chars).map (·.root)

end DvbScan.Toml
