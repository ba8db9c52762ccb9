import DvbScan.Text.Ascii

/-!
# Vocabularies with codes

The frontend takes every property as a number, and a tuning string spells it as a token. A vocabulary is
a finite list of members with one code and one token each.
-/

namespace DvbScan

class Coded (α : Type) where
  /-- Every member once, in the order in which they are looked up. -/
  all : List α
  /-- The code and the token of a member. -/
  entry : α → UInt32 × String

namespace Coded

variable {α : Type} [Coded α]

def code (value : α) : UInt32 := (entry value).1

def token (value : α) : String := (entry value).2

def ofCode? (code : UInt32) : Option α :=
  all.find? fun value => Coded.code value == code

/-- The member with this token, in capital or small letters. -/
def ofToken? (token : String) : Option α :=
  all.find? fun value => Ascii.equalIgnoringCase (Coded.token value) token

end Coded

end DvbScan
