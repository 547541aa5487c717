namespace Courier.Toml

def isBlank (char : Char) : Bool :=
  char == ' ' || char == '\t'

def isPrintable (char : Char) : Bool :=
  char == '\t' || (' ' ≤ char && char != '\x7f')

/-- The characters that stand for themselves between quotation marks. -/
def isBasic (char : Char) : Bool :=
  isPrintable char && char != '"' && char != '\\'

def isLiteral (char : Char) : Bool :=
  isPrintable char && char != '\''

def isBareKey (char : Char) : Bool :=
  char.isAlphanum || char == '_' || char == '-'

def skipBlanks (text : List Char) : List Char :=
  text.dropWhile isBlank

/-- A line ends with a line feed, which may follow a carriage return. -/
def newline? : List Char → Option (List Char)
  | '\n' :: rest => some rest
  | '\r' :: '\n' :: rest => some rest
  | _ => none

/-- A comment runs to the end of the line. -/
def skipComment : List Char → List Char
  | '#' :: rest => rest.dropWhile isPrintable
  | text => text

/-- The rest of a line that holds nothing more than blanks and a comment. -/
def lineEnd? (text : List Char) : Option (List Char) :=
  match skipComment (skipBlanks text) with
  | [] => some []
  | rest => newline? rest

theorem length_of_newline? {text rest : List Char} (found : newline? text = some rest) :
    rest.length < text.length := by
  unfold newline? at found
  split at found <;> cases found <;> simp only [List.length_cons] <;> omega

end Courier.Toml
