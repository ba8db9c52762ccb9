/-!
# Why a tuning string is refused
-/

namespace DvbScan

inductive TuningField where
  | frequency | polarization | symbolRate | codeRate | rolloff | modulation | bandwidth
  | transmissionMode | guardInterval | hierarchy | pipe | systemId
  deriving DecidableEq, Repr

def TuningField.label : TuningField → String
  | frequency => "frequency"
  | polarization => "polarization"
  | symbolRate => "symbol rate"
  | codeRate => "code rate"
  | rolloff => "roll-off"
  | modulation => "modulation"
  | bandwidth => "bandwidth"
  | transmissionMode => "transmission mode"
  | guardInterval => "guard interval"
  | hierarchy => "hierarchy"
  | pipe => "plp id"
  | systemId => "T2 system id"

inductive ParseFault where
  /-- There is no token before the comment. -/
  | empty
  /-- The first token names no delivery system. -/
  | invalidType (token : String)
  | tooFewParameters (needed got : Nat)
  | invalidToken (field : TuningField) (token : String)
  deriving DecidableEq, Repr

structure ParseError where
  /-- The whole tuning string. -/
  input : String
  fault : ParseFault
  deriving DecidableEq, Repr

namespace ParseError

def token? (error : ParseError) : Option String :=
  match error.fault with
  | .invalidType token | .invalidToken _ token => some token
  | .empty | .tooFewParameters _ _ => none

def message (error : ParseError) : String :=
  "Error parsing tuning string '" ++ error.input ++ "': " ++
    match error.fault with
    | .empty => "empty"
    | .invalidType token => "invalid type '" ++ token ++ "'"
    | .tooFewParameters needed got =>
      "too few parameters (need " ++ toString needed ++ ", got " ++ toString got ++ ")"
    | .invalidToken field token => "invalid " ++ field.label ++ " '" ++ token ++ "'"

end ParseError

end DvbScan
