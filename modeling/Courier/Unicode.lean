import Courier.Unicode.Alphabetic
import Courier.Unicode.Numeric

namespace Courier.Unicode

def inRanges (ranges : List (Nat × Nat)) (char : Char) : Bool :=
  ranges.any fun (first, last) => first ≤ char.toNat && char.toNat ≤ last

def isAlphabetic (char : Char) : Bool :=
  inRanges alphabeticRanges char

def isNumeric (char : Char) : Bool :=
  inRanges numericRanges char

def isAlphanumeric (char : Char) : Bool :=
  isAlphabetic char || isNumeric char

/-- The ranges of the property White_Space. -/
def spaceRanges : List (Nat × Nat) :=
  [(0x9, 0xD), (0x20, 0x20), (0x85, 0x85), (0xA0, 0xA0), (0x1680, 0x1680), (0x2000, 0x200A),
    (0x2028, 0x2029), (0x202F, 0x202F), (0x205F, 0x205F), (0x3000, 0x3000)]

def isSpace (char : Char) : Bool :=
  inRanges spaceRanges char

end Courier.Unicode
