import Courier.Toml.Moment
import Courier.Toml.Quoted
import Courier.Toml.Table

namespace Courier.Toml

inductive Statement where
  | table (key : Key)
  | element (key : Key)
  | pair (key : Key) (value : Value)
  deriving Repr

/-- How deep arrays and inline tables may nest, and how many parts a key may have. -/
def depthLimit : Nat := 79

def part? (text : List Char) : Option (String × List Char) :=
  match line? text with
  | some (chars, rest) => some (String.ofList chars, rest)
  | none =>
    match text.takeWhile isBareKey with
    | [] => none
    | chars => some (String.ofList chars, text.dropWhile isBareKey)

/-- The parts of a key, separated by dots, with blanks anywhere between. -/
def parts? : Nat → List Char → Option (List String × List Char)
  | 0, _ => none
  | count + 1, text => do
    let (first, rest) ← part? (skipBlanks text)
    match skipBlanks rest with
    | '.' :: rest =>
      let (more, rest) ← parts? count rest
      return (first :: more, rest)
    | rest => return ([first], rest)

def key? (text : List Char) : Option (Key × List Char) := do
  let (parts, rest) ← parts? depthLimit text
  return (⟨parts.dropLast, (parts.getLast?).getD ""⟩, rest)

/-- Blanks, ends of lines and comments, as they may stand between the elements of an array. Takes
as many lines as `fuel` allows. -/
def skipLines : Nat → List Char → List Char
  | 0, text => text
  | fuel + 1, text =>
    match newline? (skipComment (skipBlanks text)) with
    | some rest => skipLines fuel rest
    | none => skipBlanks text

def skipSpace (text : List Char) : List Char :=
  skipLines text.length text

def elements? (value? : List Char → Option (Value × List Char)) :
    Nat → List Char → Option (List Value × List Char)
  | 0, _ => none
  | fuel + 1, text =>
    match skipSpace text with
    | ']' :: rest => some ([], rest)
    | start => do
      let (first, rest) ← value? start
      match skipSpace rest with
      | ',' :: rest =>
        let (more, rest) ← elements? value? fuel rest
        return (first :: more, rest)
      | ']' :: rest => return ([first], rest)
      | _ => none

def pair? (value? : List Char → Option (Value × List Char)) (text : List Char) :
    Option ((Key × Value) × List Char) := do
  let (key, rest) ← key? text
  let (value, rest) ← value? (skipBlanks (← given? '=' rest))
  return ((key, value), skipBlanks rest)

/-- The pairs of an inline table up to the closing brace; a comma is followed by another pair. -/
def pairs? (value? : List Char → Option (Value × List Char)) :
    Nat → List Char → Option (List (Key × Value) × List Char)
  | 0, _ => none
  | fuel + 1, text => do
    let (first, rest) ← pair? value? text
    match rest with
    | ',' :: rest =>
      let (more, rest) ← pairs? value? fuel rest
      return (first :: more, rest)
    | '}' :: rest => return ([first], rest)
    | _ => none

def flag? : List Char → Option (Value × List Char)
  | 't' :: 'r' :: 'u' :: 'e' :: rest => some (.flag true, rest)
  | 'f' :: 'a' :: 'l' :: 's' :: 'e' :: rest => some (.flag false, rest)
  | _ => none

def text? (text : List Char) : Option (Value × List Char) :=
  (quoted? text).map fun (chars, rest) => (.text (String.ofList chars), rest)

def scalarValue? (text : List Char) : Option (Value × List Char) :=
  text? text <|> flag? text <|> moment? text <|> real? text <|> integer? text

def inlineTable? (value? : List Char → Option (Value × List Char)) (text : List Char) :
    Option (Value × List Char) :=
  match skipBlanks text with
  | '}' :: rest => some (.table .inline [], rest)
  | start => do
    let (pairs, rest) ← pairs? value? (start.length + 1) start
    let branch ← Branch.ofPairs pairs
    return (branch.toValue, rest)

/-- A value in which arrays and inline tables nest at most `depth` deep. -/
def value? : Nat → List Char → Option (Value × List Char)
  | depth + 1, '[' :: rest =>
    (elements? (value? depth) (rest.length + 1) rest).map fun (values, rest) =>
      (.list values, rest)
  | depth + 1, '\x7b' :: rest => inlineTable? (value? depth) rest
  | _, text => scalarValue? text

/-- A header between brackets; the opening bracket has been read. -/
def header? (text : List Char) : Option (Statement × List Char) :=
  match text with
  | '[' :: rest => do
    let (key, rest) ← key? rest
    return (.element key, ← given? ']' (← given? ']' rest))
  | rest => do
    let (key, rest) ← key? rest
    return (.table key, ← given? ']' rest)

def statement? (text : List Char) : Option (Statement × List Char) :=
  match text with
  | '[' :: rest => header? rest
  | text => do
    let ((key, value), rest) ← pair? (value? depthLimit) text
    return (.pair key value, rest)

/-- The statements of a text that begins at the start of a line. Takes as many lines as `fuel`
allows. -/
def statements? : Nat → List Char → Option (List Statement)
  | 0, _ => none
  | fuel + 1, text =>
    match skipBlanks text with
    | [] => some []
    | start =>
      match lineEnd? start with
      | some rest => statements? fuel rest
      | none => do
        let (first, rest) ← statement? start
        let more ← statements? fuel (← lineEnd? rest)
        return first :: more

end Courier.Toml
