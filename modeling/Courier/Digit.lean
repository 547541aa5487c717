namespace Courier.Digit

def hex? (char : Char) : Option Nat :=
  if char.isDigit then some (char.toNat - '0'.toNat)
  else if 'a' ≤ char ∧ char ≤ 'f' then some (char.toNat - 'a'.toNat + 10)
  else if 'A' ≤ char ∧ char ≤ 'F' then some (char.toNat - 'A'.toNat + 10)
  else none

def value? (radix : Nat) (char : Char) : Option Nat :=
  (hex? char).filter (· < radix)

end Courier.Digit
