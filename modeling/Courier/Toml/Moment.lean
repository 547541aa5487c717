import Courier.Toml.Number

namespace Courier.Toml

/-- Exactly `count` decimal digits whose value lies between the bounds. -/
def fixed? (count low high : Nat) (text : List Char) : Option (Nat × List Char) :=
  let digits := text.take count
  let value := valueOf 10 digits
  if digits.length = count ∧ digits.all Char.isDigit ∧ low ≤ value ∧ value ≤ high then
    some (value, text.drop count)
  else
    none

def given? (char : Char) : List Char → Option (List Char)
  | head :: rest => if head = char then some rest else none
  | [] => none

def isLeap (year : Nat) : Bool :=
  year % 4 == 0 && (year % 100 != 0 || year % 400 == 0)

def daysIn (year month : Nat) : Nat :=
  if month = 2 then (if isLeap year then 29 else 28)
  else if month = 4 ∨ month = 6 ∨ month = 9 ∨ month = 11 then 30
  else 31

def date? (text : List Char) : Option (List Char) := do
  let (year, text) ← fixed? 4 0 9999 text
  let (month, text) ← fixed? 2 1 12 (← given? '-' text)
  let (_, text) ← fixed? 2 1 (daysIn year month) (← given? '-' text)
  return text

/-- Fractions of a second have one or more digits. -/
def secondFraction (text : List Char) : List Char :=
  match text with
  | '.' :: char :: rest => if char.isDigit then rest.dropWhile Char.isDigit else text
  | _ => text

def time? (text : List Char) : Option (List Char) := do
  let (_, text) ← fixed? 2 0 23 text
  let (_, text) ← fixed? 2 0 59 (← given? ':' text)
  let (_, text) ← fixed? 2 0 60 (← given? ':' text)
  return secondFraction text

def offset? : List Char → Option (List Char)
  | 'Z' :: rest | 'z' :: rest => some rest
  | '+' :: rest | '-' :: rest => do
    let (_, rest) ← fixed? 2 0 23 rest
    let (_, rest) ← fixed? 2 0 59 (← given? ':' rest)
    return rest
  | _ => none

/-- A time behind a date, with or without an offset. -/
def timeOfDay? : List Char → Option (List Char)
  | 'T' :: rest | 't' :: rest | ' ' :: rest => do
    let rest ← time? rest
    return (offset? rest).getD rest
  | _ => none

def dateTime? (text : List Char) : Option (List Char) := do
  let rest ← date? text
  return (timeOfDay? rest).getD rest

def moment? (text : List Char) : Option (Value × List Char) := do
  let rest ← dateTime? text <|> time? text
  return (.moment (written text rest), rest)

end Courier.Toml
