/-!
# Arguments of a command

Arguments are read in order against a grammar of options. An option has a long name and may have a letter;
its value follows it, or is attached to it. No option of a level is given twice. After two hyphens every
argument stands for itself.
-/

namespace DvbScan

inductive ArgumentStop where
  /-- They do not follow the grammar. -/
  | usage
  | version
  | help
  deriving DecidableEq, Repr

inductive OptionKind where
  | flag
  /-- Takes a value that passes a test. -/
  | value (accepts : String → Bool)
  /-- Ends the reading. -/
  | stop (reason : ArgumentStop)

structure OptionSpec where
  name : String
  letter : Option Char
  kind : OptionKind

structure ArgumentGrammar where
  options : List OptionSpec
  /-- How many arguments stand for themselves. -/
  operands : Nat
  /-- The words that begin a level of their own. -/
  subcommands : List String

structure ArgumentReading where
  /-- Options with their values; that of a flag is empty. -/
  given : List (String × String)
  operands : List String
  /-- An option whose value is to follow. -/
  awaiting : Option OptionSpec
  /-- Whether two hyphens were read. -/
  literal : Bool

namespace ArgumentReading

def start : ArgumentReading := ⟨[], [], none, false⟩

def value? (reading : ArgumentReading) (name : String) : Option String :=
  reading.given.lookup name

def give (reading : ArgumentReading) (name value : String) : Except ArgumentStop ArgumentReading :=
  if (reading.value? name).isSome then .error .usage
  else .ok { reading with given := (name, value) :: reading.given, awaiting := none }

def giveValue (reading : ArgumentReading) (option : OptionSpec) (value : String) :
    Except ArgumentStop ArgumentReading :=
  match option.kind with
  | .value accepts => if accepts value then reading.give option.name value else .error .usage
  | .flag | .stop _ => .error .usage

/-- Takes an option without an attached value. -/
def giveAlone (reading : ArgumentReading) (option : OptionSpec) : Except ArgumentStop ArgumentReading :=
  match option.kind with
  | .flag => reading.give option.name ""
  | .value _ => .ok { reading with awaiting := some option }
  | .stop reason => .error reason

def takeOperand (grammar : ArgumentGrammar) (reading : ArgumentReading) (argument : String) :
    Except ArgumentStop ArgumentReading :=
  if reading.operands.length < grammar.operands then
    .ok { reading with operands := reading.operands ++ [argument] }
  else .error .usage

def takeLong (grammar : ArgumentGrammar) (reading : ArgumentReading) (text : List Char) :
    Except ArgumentStop ArgumentReading :=
  let name := String.ofList (text.takeWhile (· ≠ '='))
  match grammar.options.find? (·.name == name), text.dropWhile (· ≠ '=') with
  | some option, [] => reading.giveAlone option
  | some option, _ :: value => reading.giveValue option (String.ofList value)
  | none, _ => .error .usage

/-- Takes what follows a hyphen: letters of flags, and at the end one with a value. -/
def takeLetters (grammar : ArgumentGrammar) (reading : ArgumentReading) :
    List Char → Except ArgumentStop ArgumentReading
  | [] => .ok reading
  | letter :: rest =>
    match grammar.options.find? (·.letter == some letter) with
    | none => .error .usage
    | some option =>
      match option.kind, rest with
      | .value _, '=' :: value => reading.giveValue option (String.ofList value)
      | .value _, first :: value => reading.giveValue option (String.ofList (first :: value))
      | _, _ => do (← reading.giveAlone option).takeLetters grammar rest

def take (grammar : ArgumentGrammar) (reading : ArgumentReading) (argument : String) :
    Except ArgumentStop ArgumentReading :=
  if reading.literal then reading.takeOperand grammar argument
  else
    match reading.awaiting, argument.toList with
    | none, ['-', '-'] => .ok { reading with literal := true }
    | none, '-' :: '-' :: text => reading.takeLong grammar text
    | none, '-' :: letter :: rest => reading.takeLetters grammar (letter :: rest)
    | none, _ => reading.takeOperand grammar argument
    | some _, '-' :: _ :: _ => .error .usage
    | some option, _ => reading.giveValue option argument

/-- Reads a level; gives the word for another level and what follows it, if there is one. -/
def readAll (grammar : ArgumentGrammar) (reading : ArgumentReading) :
    List String → Except ArgumentStop (ArgumentReading × Option (String × List String))
  | [] => if reading.awaiting.isSome then .error .usage else .ok (reading, none)
  | argument :: rest =>
    if !reading.literal && reading.awaiting.isNone && grammar.subcommands.contains argument then
      .ok (reading, some (argument, rest))
    else do (← reading.take grammar argument).readAll grammar rest

end ArgumentReading

end DvbScan
