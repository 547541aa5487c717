import Courier.Digit
import Courier.Pattern.Mode

namespace Courier.Pattern

inductive Atom where
  /-- A character that matches itself; `byte` when it was written as the two digits of a byte. -/
  | literal (char : Char) (byte : Bool)
  | dot
  | anchor
  | boundary
  | shorthand (negated : Bool)
  deriving DecidableEq, Repr

def isMeta (char : Char) : Bool :=
  "\\.+*?()|[]\x7b\x7d^$#&-~".toList.contains char

def isEscapable (char : Char) : Bool :=
  isMeta char ||
    (char.toNat < 128 && !char.isAlphanum && char != '<' && char != '>')

def hexNumber? (mode : Mode) (value : Nat) : Nat → List Char → Option (Nat × List Char)
  | 0, text => some (value, text)
  | _ + 1, [] => none
  | count + 1, char :: rest => do
    hexNumber? mode (value * 16 + (← Digit.hex? char)) count (skip mode rest)

def hexLiteral? (mode : Mode) (count : Nat) (text : List Char) : Option (Atom × List Char) := do
  let (value, rest) ← hexNumber? mode 0 count (skip mode text)
  if value.isValidChar then return (.literal (Char.ofNat value) (count == 2), rest) else none

/-- What an escape stands for; the backslash has been read. References to groups and properties of
characters are not supported. -/
def escape? (mode : Mode) : List Char → Option (Atom × List Char)
  | [] => none
  | 'x' :: rest => hexLiteral? mode 2 rest
  | 'u' :: rest => hexLiteral? mode 4 rest
  | 'U' :: rest => hexLiteral? mode 8 rest
  | char :: rest =>
    if "dsw".toList.contains char then some (.shorthand false, rest)
    else if "DSW".toList.contains char then some (.shorthand true, rest)
    else if "Az".toList.contains char then some (.anchor, rest)
    else if "bB<>".toList.contains char then some (.boundary, rest)
    else if "aftnrv".toList.contains char || isEscapable char then
      some (.literal char false, rest)
    else none

/-- Whether an atom can be matched. Without tables of cases, shorthands and word characters these
are matched by bytes only, and bytes only as far as they are text. -/
def Atom.isSupported (mode : Mode) : Atom → Bool
  | .literal char byte => if mode.unicode then !mode.ignoreCase else !byte || char.toNat < 128
  | .dot => mode.unicode
  | .anchor => true
  | .boundary => !mode.unicode
  | .shorthand negated => !mode.unicode && !negated

def Atom.isMember (mode : Mode) : Atom → Bool
  | .literal char _ => if mode.unicode then !mode.ignoreCase else char.toNat < 128
  | .shorthand negated => !mode.unicode && !negated
  | _ => false

end Courier.Pattern
