import Courier.Pattern.Escape

namespace Courier.Pattern

/-- How deep a class nests so far: the operands that are complete, and the number and the greatest
depth of the members of the operand being read. -/
structure Members where
  before : Option Nat := none
  count : Nat := 0
  deepest : Nat := 0
  deriving DecidableEq, Repr

namespace Members

def add (members : Members) (depth : Nat) : Members :=
  { members with count := members.count + 1, deepest := max members.deepest depth }

/-- Several members are one level deeper than each of them, and so are two operands. -/
def depth (members : Members) : Nat :=
  let operand := if 2 ≤ members.count then members.deepest + 1 else members.deepest
  match members.before with
  | none => operand
  | some before => max before operand + 1

def operate (members : Members) : Members :=
  { before := some members.depth }

end Members

def classNames : List String :=
  ["alnum", "alpha", "ascii", "blank", "cntrl", "digit", "graph", "lower", "print", "punct",
    "space", "upper", "word", "xdigit"]

def named? (text : List Char) : Option (Bool × List Char) :=
  match text with
  | ':' :: rest =>
    let negated := rest.head? == some '^'
    let rest := if negated then rest.tail else rest
    match rest.dropWhile (· != ':') with
    | ':' :: ']' :: after =>
      if classNames.contains (String.ofList (rest.takeWhile (· != ':'))) then some (negated, after)
      else none
    | _ => none
  | _ => none

def isNamedSupported (mode : Mode) (negated : Bool) : Bool :=
  if mode.unicode then !mode.ignoreCase else !negated

def member? (mode : Mode) : List Char → Option (Atom × List Char)
  | [] => none
  | '\\' :: rest => escape? mode rest
  | char :: rest => some (.literal char false, rest)

/-- A single member or a range. A minus sign in front of a closing bracket or of another minus sign
makes no range. -/
def range? (mode : Mode) (text : List Char) : Option (List Char) := do
  let (first, rest) ← member? mode text
  if !first.isMember mode then none
  let single := skip mode rest
  match single with
  | '-' :: rest =>
    match skip mode rest with
    | [] => none
    | ']' :: _ | '-' :: _ => return single
    | start =>
      let (last, rest) ← member? mode start
      match first, last with
      | .literal low _, .literal high _ =>
        if last.isMember mode ∧ low ≤ high then return rest else none
      | _, _ => none
  | _ => return single

/-- What a class excludes can be matched by characters only; the opening bracket has been read. -/
def opened? (mode : Mode) (text : List Char) : Option (List Char) :=
  match skip mode text with
  | '^' :: rest => if mode.unicode then some rest else none
  | rest => some rest

/-- Read up to the bracket that closes the outermost class, with the depth of that class. `outer`
are the classes around the current one. While a class is opening, minus signs are members, and so
is a closing bracket in front of all others. Reads as many parts as `fuel` allows. -/
def closed? (mode : Mode) : Nat → List Members → Members → Bool → List Char →
    Option (Nat × List Char)
  | 0, _, _, _, _ => none
  | fuel + 1, outer, members, opening, text =>
    match skip mode text with
    | [] => none
    | char :: rest =>
      if opening && char == '-' then
        closed? mode fuel outer (members.add 0) true rest
      else if opening && char == ']' && members.count == 0 then
        closed? mode fuel outer (members.add 0) false rest
      else if char == ']' then
        match outer with
        | [] => some (members.depth + 1, rest)
        | around :: outer => closed? mode fuel outer (around.add (members.depth + 1)) false rest
      else if char == '[' then
        match named? rest with
        | some (negated, rest) =>
          if isNamedSupported mode negated then
            closed? mode fuel outer (members.add 0) false rest
          else none
        | none => do closed? mode fuel (members :: outer) {} true (← opened? mode rest)
      else if "&-~".toList.contains char && rest.head? == some char then
        closed? mode fuel outer members.operate false rest.tail
      else do
        closed? mode fuel outer (members.add 0) false (← range? mode (char :: rest))

def bracket? (mode : Mode) (text : List Char) : Option (Nat × List Char) := do
  closed? mode (text.length + 1) [] {} true (← opened? mode text)

end Courier.Pattern
