import Courier.Unicode

namespace Courier.Pattern

/-- Only the modes that decide whether a pattern is well-formed are kept. -/
structure Mode where
  ignoreCase : Bool := false
  /-- What is matched are characters, and not bytes. -/
  unicode : Bool := true
  spaced : Bool := false
  deriving DecidableEq, Repr

namespace Mode

def set (mode : Mode) (flag : Char) (on : Bool) : Mode :=
  match flag with
  | 'i' => { mode with ignoreCase := on }
  | 'u' => { mode with unicode := on }
  | 'x' => { mode with spaced := on }
  | _ => mode

def change (mode : Mode) (flags : List Char) : Mode :=
  let on := (flags.takeWhile (· != '-')).foldl (fun mode flag => mode.set flag true) mode
  (flags.dropWhile (· != '-')).foldl (fun mode flag => mode.set flag false) on

end Mode

/-- Flags are letters, each at most once, and a minus sign at most once and not at the end. -/
def areFlags (flags : List Char) : Bool :=
  flags.all ("ismUuRx-".toList.contains ·) && flags.eraseDups == flags &&
    flags.getLast? != some '-'

def dropSpace (inComment : Bool) : List Char → List Char
  | [] => []
  | char :: rest =>
    if inComment then dropSpace (char != '\n') rest
    else if Unicode.isSpace char then dropSpace false rest
    else if char == '#' then dropSpace true rest
    else char :: rest

def skip (mode : Mode) (text : List Char) : List Char :=
  if mode.spaced then dropSpace false text else text

end Courier.Pattern
