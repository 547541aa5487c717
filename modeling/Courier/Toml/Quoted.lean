import Courier.Digit
import Courier.Toml.Character

/-! Reading quoted text: between quotation marks, where a backslash escapes, or between
apostrophes, where nothing does, on one line or, with the mark tripled, on several. -/
namespace Courier.Toml

def hexNumber? (value : Nat) : Nat → List Char → Option (Nat × List Char)
  | 0, rest => some (value, rest)
  | _ + 1, [] => none
  | count + 1, char :: rest =>
    (Digit.hex? char).bind fun digit => hexNumber? (value * 16 + digit) count rest

def scalar? (count : Nat) (text : List Char) : Option (Char × List Char) :=
  (hexNumber? 0 count text).bind fun (value, rest) =>
    if value.isValidChar then some (Char.ofNat value, rest) else none

/-- The character that an escape stands for; the backslash has been read. -/
def escape? : List Char → Option (Char × List Char)
  | 'b' :: rest => some ('\x08', rest)
  | 't' :: rest => some ('\t', rest)
  | 'n' :: rest => some ('\n', rest)
  | 'f' :: rest => some ('\x0c', rest)
  | 'r' :: rest => some ('\r', rest)
  | '"' :: rest => some ('"', rest)
  | '\\' :: rest => some ('\\', rest)
  | 'u' :: rest => scalar? 4 rest
  | 'U' :: rest => scalar? 8 rest
  | _ => none

theorem length_of_hexNumber? {count value number : Nat} {text rest : List Char}
    (found : hexNumber? value count text = some (number, rest)) :
    text.length = count + rest.length := by
  induction count generalizing value text with
  | zero => cases found; simp
  | succ count ih =>
    cases text with
    | nil => cases found
    | cons char text =>
      obtain ⟨digit, -, deeper⟩ := Option.bind_eq_some_iff.mp found
      have := ih deeper
      simp only [List.length_cons]
      omega

theorem length_of_scalar? {count : Nat} {text rest : List Char} {char : Char}
    (found : scalar? count text = some (char, rest)) : rest.length ≤ text.length := by
  obtain ⟨⟨number, tail⟩, read, valid⟩ := Option.bind_eq_some_iff.mp found
  have := length_of_hexNumber? read
  dsimp only at valid
  split at valid
  · cases valid; omega
  · cases valid

theorem length_of_escape? {text rest : List Char} {char : Char}
    (found : escape? text = some (char, rest)) : rest.length < text.length := by
  unfold escape? at found
  split at found
  case h_8 | h_9 =>
    have shorter := length_of_scalar? found
    simp only [List.length_cons]
    omega
  case h_10 => cases found
  all_goals
    cases found
    simp

/-- Text between quotation marks on one line; the opening mark has been read. -/
def basic? (text : List Char) : Option (List Char × List Char) :=
  match text with
  | [] => none
  | '"' :: rest => some ([], rest)
  | '\\' :: rest =>
    match _read : escape? rest with
    | none => none
    | some (char, rest) => (basic? rest).map fun (chars, rest) => (char :: chars, rest)
  | char :: rest =>
    if isBasic char then (basic? rest).map fun (chars, rest) => (char :: chars, rest) else none
termination_by text.length
decreasing_by
  · have := length_of_escape? _read
    simp only [List.length_cons]
    omega
  · simp

/-- Text between apostrophes on one line; the opening mark has been read. -/
def literal? : List Char → Option (List Char × List Char)
  | [] => none
  | '\'' :: rest => some ([], rest)
  | char :: rest =>
    if isLiteral char then (literal? rest).map fun (chars, rest) => (char :: chars, rest) else none

/-- Behind a closing triple mark, up to two more marks still belong to the text. -/
def closing (mark : Char) : List Char → List Char × List Char
  | first :: second :: rest =>
    if first = mark then
      if second = mark then ([mark, mark], rest) else ([mark], second :: rest)
    else
      ([], first :: second :: rest)
  | [single] => if single = mark then ([mark], []) else ([], [single])
  | [] => ([], [])

def skipBlankLines : List Char → List Char
  | '\r' :: '\n' :: rest => skipBlankLines rest
  | '\n' :: rest => skipBlankLines rest
  | char :: rest => if isBlank char then skipBlankLines rest else char :: rest
  | [] => []

/-- A backslash in front of the end of a line skips to the next character that is not blank. -/
def continuation? (text : List Char) : Option (List Char) :=
  (newline? (skipBlanks text)).map skipBlankLines

theorem length_skipBlankLines (text : List Char) :
    (skipBlankLines text).length ≤ text.length := by
  fun_induction skipBlankLines text <;> grind

theorem length_of_continuation? {text rest : List Char} (found : continuation? text = some rest) :
    rest.length < text.length := by
  obtain ⟨tail, line, rfl⟩ := Option.map_eq_some_iff.mp found
  have first := length_of_newline? line
  have second := length_skipBlankLines tail
  have third := (List.dropWhile_sublist isBlank (l := text)).length_le
  simp only [skipBlanks] at first
  omega

def basicLines? (text : List Char) : Option (List Char × List Char) :=
  match text with
  | [] => none
  | '"' :: '"' :: '"' :: rest => some (closing '"' rest)
  | '"' :: rest => (basicLines? rest).map fun (chars, rest) => ('"' :: chars, rest)
  | '\r' :: '\n' :: rest => (basicLines? rest).map fun (chars, rest) => ('\n' :: chars, rest)
  | '\n' :: rest => (basicLines? rest).map fun (chars, rest) => ('\n' :: chars, rest)
  | '\\' :: rest =>
    match _skipped : continuation? rest with
    | some rest => basicLines? rest
    | none =>
      match _read : escape? rest with
      | none => none
      | some (char, rest) => (basicLines? rest).map fun (chars, rest) => (char :: chars, rest)
  | char :: rest =>
    if isBasic char then (basicLines? rest).map fun (chars, rest) => (char :: chars, rest)
    else none
termination_by text.length
decreasing_by
  · simp
  · simp only [List.length_cons]
    omega
  · simp
  · have shorter := length_of_continuation? _skipped
    simp only [List.length_cons]
    omega
  · have shorter := length_of_escape? _read
    simp only [List.length_cons]
    omega
  · simp

def literalLines? : List Char → Option (List Char × List Char)
  | [] => none
  | '\'' :: '\'' :: '\'' :: rest => some (closing '\'' rest)
  | '\'' :: rest => (literalLines? rest).map fun (chars, rest) => ('\'' :: chars, rest)
  | '\r' :: '\n' :: rest => (literalLines? rest).map fun (chars, rest) => ('\n' :: chars, rest)
  | '\n' :: rest => (literalLines? rest).map fun (chars, rest) => ('\n' :: chars, rest)
  | char :: rest =>
    if isLiteral char then (literalLines? rest).map fun (chars, rest) => (char :: chars, rest)
    else none

/-- A newline right behind an opening triple mark is not part of the text. -/
def skipNewline (text : List Char) : List Char :=
  (newline? text).getD text

def line? : List Char → Option (List Char × List Char)
  | '"' :: rest => basic? rest
  | '\'' :: rest => literal? rest
  | _ => none

def quoted? : List Char → Option (List Char × List Char)
  | '"' :: '"' :: '"' :: rest => basicLines? (skipNewline rest)
  | '\'' :: '\'' :: '\'' :: rest => literalLines? (skipNewline rest)
  | text => line? text

end Courier.Toml
