/-! Writing text as a TOML string. Of the styles that need no escapes the first one that fits is
taken: quotation marks, apostrophes, tripled quotation marks, tripled apostrophes. Otherwise the
text is escaped, on several lines when it has any. -/
namespace Courier.Toml

/-- How many `mark`s stand in a row at most. -/
def longestRun (mark : Char) (chars : List Char) : Nat :=
  (chars.foldl
    (fun (run, longest) char =>
      if char = mark then (run + 1, max longest (run + 1)) else (0, longest))
    (0, 0)).2

def isControl (char : Char) : Bool :=
  (char < ' ' && char != '\t' && char != '\n') || char == '\x7f'

inductive Style where
  | basic
  | literal
  | basicLines
  | literalLines
  deriving DecidableEq, Repr

def styleOf (chars : List Char) : Style :=
  let control := chars.any isControl
  let backslash := chars.contains '\\'
  let newline := chars.contains '\n'
  let marks := longestRun '"' chars
  let apostrophes := longestRun '\'' chars
  if !control && !backslash && marks == 0 && !newline then .basic
  else if !control && apostrophes == 0 && !newline then .literal
  else if !control && !backslash && marks ≤ 2 then .basicLines
  else if !control && apostrophes ≤ 2 then .literalLines
  else if newline then .basicLines
  else .basic

def hexDigit (value : Nat) : Char :=
  if value < 10 then Char.ofNat ('0'.toNat + value) else Char.ofNat ('A'.toNat + (value - 10))

/-- The escape of a character that may not stand for itself, with quotation marks apart. -/
def escapeOf? (char : Char) (lines : Bool) : Option (List Char) :=
  match char with
  | '\x08' => some ['\\', 'b']
  | '\t' => some ['\\', 't']
  | '\n' => if lines then none else some ['\\', 'n']
  | '\x0c' => some ['\\', 'f']
  | '\r' => some ['\\', 'r']
  | '\\' => some ['\\', '\\']
  | char =>
    if isControl char then
      some ['\\', 'u', '0', '0', hexDigit (char.toNat / 16), hexDigit (char.toNat % 16)]
    else
      none

/-- Escape a text in which up to `free` quotation marks in a row may stand as they are; `run` of
them stand in front of it. -/
def escapeFrom (lines : Bool) (free run : Nat) : List Char → List Char
  | [] => []
  | '"' :: rest =>
    if run < free then '"' :: escapeFrom lines free (run + 1) rest
    else '\\' :: '"' :: escapeFrom lines free 0 rest
  | char :: rest =>
    match escapeOf? char lines with
    | some escaped => escaped ++ escapeFrom lines free 0 rest
    | none => char :: escapeFrom lines free 0 rest

def quoteAs (style : Style) (chars : List Char) : List Char :=
  let opening := if chars.contains '\n' then ['\n'] else []
  match style with
  | .basic => ['"'] ++ escapeFrom false 0 0 chars ++ ['"']
  | .literal => ['\''] ++ chars ++ ['\'']
  | .basicLines => ['"', '"', '"'] ++ opening ++ escapeFrom true 2 0 chars ++ ['"', '"', '"']
  | .literalLines => ['\'', '\'', '\''] ++ opening ++ chars ++ ['\'', '\'', '\'']

def quote (chars : List Char) : List Char :=
  quoteAs (styleOf chars) chars

end Courier.Toml
