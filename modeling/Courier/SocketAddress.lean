import Courier.Digit

/-! Socket addresses in text: an IPv4 address, or an IPv6 address in brackets with an optional
numeric scope, and a port. Octets have no leading zeros, an IPv6 address may end in an IPv4
address, and one run of zero groups may be written as two colons. -/
namespace Courier

inductive IpAddress where
  | v4 (octets : List Nat)
  | v6 (groups : List Nat) (scope : Nat)
  deriving DecidableEq, Repr

structure SocketAddress where
  ip : IpAddress
  port : Nat
  deriving DecidableEq, Repr

namespace SocketAddress

def digits (radix : Nat) : List Char → List Nat × List Char
  | [] => ([], [])
  | char :: rest =>
    match Digit.value? radix char with
    | none => ([], char :: rest)
    | some digit =>
      let (more, rest) := digits radix rest
      (digit :: more, rest)

def valueOf (radix : Nat) (digits : List Nat) : Nat :=
  digits.foldl (fun value digit => value * radix + digit) 0

/-- A number of any length up to a bound. -/
def number? (bound : Nat) (text : List Char) : Option (Nat × List Char) :=
  match digits 10 text with
  | ([], _) => none
  | (found, rest) =>
    let value := valueOf 10 found
    if value ≤ bound then some (value, rest) else none

/-- One to three digits without a leading zero, at most 255. -/
def octet? (text : List Char) : Option (Nat × List Char) :=
  match digits 10 text with
  | ([], _) => none
  | (0 :: _ :: _, _) => none
  | (found, rest) =>
    let value := valueOf 10 found
    if found.length ≤ 3 ∧ value ≤ 255 then some (value, rest) else none

/-- One to four hexadecimal digits. -/
def group? (text : List Char) : Option (Nat × List Char) :=
  match digits 16 text with
  | ([], _) => none
  | (found, rest) => if found.length ≤ 4 then some (valueOf 16 found, rest) else none

def given? (char : Char) : List Char → Option (List Char)
  | head :: rest => if head = char then some rest else none
  | [] => none

def v4? (text : List Char) : Option (List Nat × List Char) := do
  let (a, text) ← octet? text
  let (b, text) ← octet? (← given? '.' text)
  let (c, text) ← octet? (← given? '.' text)
  let (d, text) ← octet? (← given? '.' text)
  return ([a, b, c, d], text)

/-- Up to `limit` groups separated by colons, of which the last two may be written as an IPv4
address. The flag says whether they are. -/
def groups (first : Bool) : Nat → List Char → List Nat × Bool × List Char
  | 0, text => ([], false, text)
  | limit + 1, text =>
    let separated := if first then some text else given? ':' text
    match separated with
    | none => ([], false, text)
    | some start =>
      match (if limit = 0 then none else v4? start) with
      | some ([a, b, c, d], rest) => ([a * 256 + b, c * 256 + d], true, rest)
      | _ =>
        match group? start with
        | none => ([], false, text)
        | some (group, rest) =>
          let (more, embedded, rest) := groups false limit rest
          (group :: more, embedded, rest)

def v6? (text : List Char) : Option (List Nat × List Char) :=
  let (head, embedded, rest) := groups true 8 text
  if head.length = 8 then
    some (head, rest)
  else if embedded then
    none
  else do
    let rest ← given? ':' (← given? ':' rest)
    let (tail, _, rest) := groups true (8 - (head.length + 1)) rest
    return (head ++ List.replicate (8 - head.length - tail.length) 0 ++ tail, rest)

def port? (text : List Char) : Option (Nat × List Char) := do
  number? 65535 (← given? ':' text)

/-- A scope is a percent sign and a number of 32 bits; without one the scope is zero. -/
def scope (text : List Char) : Nat × List Char :=
  (do number? 4294967295 (← given? '%' text)).getD (0, text)

def parseV4? (text : List Char) : Option (SocketAddress × List Char) := do
  let (octets, text) ← v4? text
  let (port, text) ← port? text
  return (⟨.v4 octets, port⟩, text)

def parseV6? (text : List Char) : Option (SocketAddress × List Char) := do
  let (groups, text) ← v6? (← given? '[' text)
  let (scope, text) := scope text
  let (port, text) ← port? (← given? ']' text)
  return (⟨.v6 groups scope, port⟩, text)

/-- The address that the whole text spells. -/
def parse? (text : String) : Option SocketAddress :=
  match parseV4? text.toList <|> parseV6? text.toList with
  | some (address, []) => some address
  | _ => none

end SocketAddress
end Courier
