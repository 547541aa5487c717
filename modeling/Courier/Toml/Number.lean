import Courier.Digit
import Courier.Toml.Character
import Courier.Toml.Value

/-! Reading integers and reals. Underscores may stand between digits, decimal integers have no
leading zeros, and an integer has to fit 64 bits with a sign. -/
namespace Courier.Toml

/-- More digits, each of which an underscore may separate from the one before. -/
def grouped (isDigit : Char → Bool) : List Char → List Char × List Char
  | '_' :: char :: rest =>
    if isDigit char then
      let (digits, rest) := grouped isDigit rest
      (char :: digits, rest)
    else
      ([], '_' :: char :: rest)
  | char :: rest =>
    if isDigit char then
      let (digits, rest) := grouped isDigit rest
      (char :: digits, rest)
    else
      ([], char :: rest)
  | [] => ([], [])

def digits? (isDigit : Char → Bool) : List Char → Option (List Char × List Char)
  | char :: rest =>
    if isDigit char then
      let (digits, rest) := grouped isDigit rest
      some (char :: digits, rest)
    else
      none
  | [] => none

/-- One or more decimal digits, of which only a single one may be led by a zero. -/
def whole? : List Char → Option (List Char × List Char)
  | '0' :: rest => some (['0'], rest)
  | text => digits? Char.isDigit text

def sign : List Char → Bool × List Char
  | '-' :: rest => (true, rest)
  | '+' :: rest => (false, rest)
  | text => (false, text)

def valueOf (radix : Nat) (digits : List Char) : Nat :=
  digits.foldl (fun value char => value * radix + (Digit.hex? char).getD 0) 0

def isDigitOf (radix : Nat) (char : Char) : Bool :=
  (Digit.value? radix char).isSome

/-- The largest integer of 64 bits with a sign. -/
def largest : Nat := 9223372036854775807

/-- An integer in another radix, behind the letter that names it. -/
def radixInteger? (radix : Nat) (text : List Char) : Option (Value × List Char) := do
  let (digits, rest) ← digits? (isDigitOf radix) text
  let value := valueOf radix digits
  if value ≤ largest then some (.integer value, rest) else none

def decimalInteger? (text : List Char) : Option (Value × List Char) := do
  let (negative, start) := sign text
  let (digits, rest) ← whole? start
  let value := valueOf 10 digits
  if negative then
    if value ≤ largest + 1 then some (.integer (-value), rest) else none
  else
    if value ≤ largest then some (.integer value, rest) else none

def integer? : List Char → Option (Value × List Char)
  | '0' :: 'x' :: rest => radixInteger? 16 rest
  | '0' :: 'o' :: rest => radixInteger? 8 rest
  | '0' :: 'b' :: rest => radixInteger? 2 rest
  | text => decimalInteger? text

/-- Whether `digits` times ten to `power` rounds past the largest binary real of 64 bits, which
happens from halfway to the next power of two. -/
def overflows (digits : List Char) (power : Int) : Bool :=
  let value := valueOf 10 digits
  let size : Int := (digits.dropWhile (· == '0')).length + power
  let bound := Nat.pow 2 1024 - Nat.pow 2 970
  if value = 0 then false
  else if size < 308 then false
  else if 310 < size then true
  else if 0 ≤ power then decide (bound ≤ value * Nat.pow 10 power.toNat)
  else decide (bound * Nat.pow 10 (-power).toNat ≤ value)

def fraction? : List Char → Option (List Char × List Char)
  | '.' :: rest => digits? Char.isDigit rest
  | _ => none

def exponent? : List Char → Option (Int × List Char)
  | 'e' :: rest | 'E' :: rest => do
    let (negative, start) := sign rest
    let (digits, rest) ← digits? Char.isDigit start
    let value : Int := valueOf 10 digits
    some (if negative then -value else value, rest)
  | _ => none

def written (text rest : List Char) : String :=
  String.ofList (text.take (text.length - rest.length))

/-- A real has a fraction, an exponent or both. One that is too large is refused, though not its
negative. -/
def finiteReal? (text : List Char) : Option (Value × List Char) := do
  let (negative, start) := sign text
  let (digits, afterWhole) ← whole? start
  let (fraction, afterFraction) := (fraction? afterWhole).getD ([], afterWhole)
  let (power, rest) := (exponent? afterFraction).getD (0, afterFraction)
  if rest.length = afterWhole.length then none
  else if !negative && overflows (digits ++ fraction) (power - fraction.length) then none
  else some (.real (written text rest), rest)

def special? (text : List Char) : Option (Value × List Char) :=
  match (sign text).2 with
  | 'i' :: 'n' :: 'f' :: rest | 'n' :: 'a' :: 'n' :: rest => some (.real (written text rest), rest)
  | _ => none

def real? (text : List Char) : Option (Value × List Char) :=
  finiteReal? text <|> special? text

end Courier.Toml
