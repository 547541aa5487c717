import Courier.Pattern.Bracket

/-! Regular patterns, and which of them are well-formed. They are patterns as they can stand in a
place where neither a comma nor an equals sign nor a closing brace can, so repetitions with counts,
which need a brace, are not among them. -/
namespace Courier.Pattern

/-- A part of a sequence: how deep it nests, and whether it can be repeated. -/
structure Part where
  depth : Nat := 0
  repeatable : Bool := true
  deriving DecidableEq, Repr

/-- The current group: the parts of its last alternative, last first, and the depth of the
alternatives before it. -/
structure Group where
  mode : Mode := {}
  parts : List Part := []
  earlier : Option Nat := none
  deriving DecidableEq, Repr

namespace Group

def add (group : Group) (part : Part) : Group :=
  { group with parts := part :: group.parts }

/-- Several parts are one level deeper than each of them. -/
def sequenceDepth (group : Group) : Nat :=
  let deepest := (group.parts.map Part.depth).foldl max 0
  if 2 ≤ group.parts.length then deepest + 1 else deepest

def depth (group : Group) : Nat :=
  match group.earlier with
  | none => group.sequenceDepth
  | some earlier => max earlier group.sequenceDepth + 1

def alternative (group : Group) : Group :=
  { group with
    parts := []
    earlier := some (max (group.earlier.getD 0) group.sequenceDepth) }

def repeat? (group : Group) : Option Group :=
  match group.parts with
  | part :: parts =>
    if part.repeatable then
      some { group with parts := { depth := part.depth + 1 } :: parts }
    else none
  | [] => none

end Group

/-- How far a pattern has been read: the current group, those around it, and the names given. -/
structure Reading where
  group : Group := {}
  outer : List Group := []
  names : List (List Char) := []
  deriving DecidableEq, Repr

def depthLimit : Nat := 250

def isName : List Char → Bool
  | [] => false
  | first :: rest =>
    (first == '_' || Unicode.isAlphabetic first) &&
      rest.all fun char => "_.[]".toList.contains char || Unicode.isAlphanumeric char

namespace Reading

def opening (reading : Reading) (mode : Mode) : Reading :=
  { reading with group := { mode }, outer := reading.group :: reading.outer }

def openNamed? (reading : Reading) (text : List Char) : Option (Reading × List Char) :=
  let name := text.takeWhile (· != '>')
  match text.dropWhile (· != '>') with
  | '>' :: rest =>
    if isName name && !reading.names.contains name then
      some ({ reading.opening reading.group.mode with names := name :: reading.names }, rest)
    else none
  | _ => none

/-- Flags for what follows in the group, or for a group of their own; the question mark has been
read. -/
def flags? (reading : Reading) (text : List Char) : Option (Reading × List Char) :=
  let isEnd (char : Char) : Bool := char == ':' || char == ')'
  let flags := text.takeWhile (!isEnd ·)
  let mode := reading.group.mode.change flags
  if !areFlags flags then none
  else
    match text.dropWhile (!isEnd ·) with
    | ':' :: rest => some (reading.opening mode, rest)
    | ')' :: rest =>
      if flags.isEmpty then none
      else
        let group := { reading.group with mode }.add { repeatable := false }
        some ({ reading with group }, rest)
    | _ => none

def open? (reading : Reading) (text : List Char) : Option (Reading × List Char) :=
  match skip reading.group.mode text with
  | '?' :: 'P' :: '<' :: rest | '?' :: '<' :: rest => reading.openNamed? rest
  | '?' :: rest => reading.flags? rest
  | rest => some (reading.opening reading.group.mode, rest)

def close? (reading : Reading) : Option Reading :=
  match reading.outer with
  | [] => none
  | around :: outer =>
    some { reading with group := around.add { depth := reading.group.depth + 1 }, outer }

def atom? (reading : Reading) (char : Char) (rest : List Char) :
    Option (Reading × List Char) := do
  let mode := reading.group.mode
  let (atom, rest) ← match char with
    | '\\' => escape? mode rest
    | '.' => some (.dot, rest)
    | '^' | '$' => some (.anchor, rest)
    | _ => some (.literal char false, rest)
  if atom.isSupported mode then return ({ reading with group := reading.group.add {} }, rest)
  else none

/-- Read one part. A question mark behind a repetition belongs to it. -/
def step (reading : Reading) (char : Char) (rest : List Char) : Option (Reading × List Char) :=
  match char with
  | '(' => reading.open? rest
  | ')' => reading.close?.map (·, rest)
  | '|' => some ({ reading with group := reading.group.alternative }, rest)
  | '[' => do
    let (depth, rest) ← bracket? reading.group.mode rest
    return ({ reading with group := reading.group.add { depth } }, rest)
  | '?' | '*' | '+' => do
    let group ← reading.group.repeat?
    return ({ reading with group }, if rest.head? == some '?' then rest.tail else rest)
  | '\x7b' => none
  | _ => reading.atom? char rest

def run (reading : Reading) : Nat → List Char → Option Reading
  | 0, _ => none
  | fuel + 1, text =>
    match skip reading.group.mode text with
    | [] => some reading
    | char :: rest => do
      let (next, rest) ← reading.step char rest
      next.run fuel rest

end Reading

/-- Every group is closed, and the pattern nests no deeper than allowed. -/
def isValid (text : List Char) : Bool :=
  match ({} : Reading).run (text.length + 1) text with
  | some reading => reading.outer.isEmpty && reading.group.depth ≤ depthLimit
  | none => false

end Courier.Pattern
