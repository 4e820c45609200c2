import Interop.Unicode.Range

/-!
# Blank characters

The characters with the property `White_Space`, and the removal of them from both ends of a text.
-/

namespace Interop.Unicode

/-- The blank code points, in ascending order. -/
def blankRanges : List Range := [
  (0x9, 0xD), (0x20, 0x20), (0x85, 0x85), (0xA0, 0xA0), (0x1680, 0x1680), (0x2000, 0x200A),
  (0x2028, 0x2029), (0x202F, 0x202F), (0x205F, 0x205F), (0x3000, 0x3000)]

def isBlank (c : Char) : Bool := Range.anyContains blankRanges c.toNat

def trimEnd (cs : List Char) : List Char := (cs.reverse.dropWhile isBlank).reverse

/-- A text without the blank characters at its two ends. -/
def trim (cs : List Char) : List Char := trimEnd (cs.dropWhile isBlank)

end Interop.Unicode
