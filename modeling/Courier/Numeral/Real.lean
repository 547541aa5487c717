namespace Courier.Numeral

def skipSign : List Char → List Char
  | '+' :: rest | '-' :: rest => rest
  | text => text

def isWhole (text : List Char) : Bool :=
  !text.isEmpty && text.all Char.isDigit

def isExponent : List Char → Bool
  | [] => true
  | 'e' :: rest | 'E' :: rest => isWhole (skipSign rest)
  | _ => false

/-- Digits with at most one point before, among or behind them, and an optional exponent. -/
def isFinite (text : List Char) : Bool :=
  let whole := text.takeWhile Char.isDigit
  match text.dropWhile Char.isDigit with
  | '.' :: rest =>
    !(whole ++ rest.takeWhile Char.isDigit).isEmpty && isExponent (rest.dropWhile Char.isDigit)
  | rest => !whole.isEmpty && isExponent rest

def isReal (text : List Char) : Bool :=
  let magnitude := skipSign text
  isFinite magnitude ||
    ["inf", "infinity", "nan"].any fun word => word.toList == magnitude.map Char.toLower

end Courier.Numeral
