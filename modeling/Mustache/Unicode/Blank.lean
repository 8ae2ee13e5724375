import Mustache.Unicode.Ranges

/-! # White space
The characters with the Unicode property White_Space. They separate the fields of a tag that changes
the delimiters; inside other tags only four of them are blank, which is a matter of the scanner. -/

namespace Mustache.Unicode

/-- The ranges of White_Space. -/
def blankRanges : List (Nat × Nat) :=
  [(0x9, 0xD), (0x20, 0x20), (0x85, 0x85), (0xA0, 0xA0), (0x1680, 0x1680), (0x2000, 0x200A),
   (0x2028, 0x2029), (0x202F, 0x202F), (0x205F, 0x205F), (0x3000, 0x3000)]

/-- Whether a character is white space. -/
def isBlank (c : Char) : Bool := inRanges blankRanges c

end Mustache.Unicode
