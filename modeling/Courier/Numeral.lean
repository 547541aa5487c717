/-! Unsigned decimal numerals: an optional plus sign and one or more ASCII digits, whose value may
not pass a bound. -/
namespace Courier.Numeral

inductive Flaw where
  | empty
  | stray
  | tooLarge
  deriving DecidableEq, Repr

def Flaw.message : Flaw → String
  | .empty => "cannot parse integer from empty string"
  | .stray => "invalid digit found in string"
  | .tooLarge => "number too large to fit in target type"

def digit? (char : Char) : Option Nat :=
  if char.isDigit then some (char.toNat - '0'.toNat) else none

/-- Append digits to `value`. Of a stray character and an overflow the earlier one is reported. -/
def extend (bound value : Nat) : List Char → Except Flaw Nat
  | [] => .ok value
  | char :: rest =>
    match digit? char with
    | none => .error .stray
    | some digit =>
      if bound < value * 10 + digit then .error .tooLarge
      else extend bound (value * 10 + digit) rest

def parse (bound : Nat) (text : String) : Except Flaw Nat :=
  match text.toList with
  | [] => .error .empty
  | ['+'] => .error .stray
  | '+' :: digits => extend bound 0 digits
  | digits => extend bound 0 digits

end Courier.Numeral
