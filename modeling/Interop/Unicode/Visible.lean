import Interop.Unicode.GraphemeExtend
import Interop.Unicode.Printable

/-!
# Visible characters

A character is visible if it shows as itself wherever it stands: it prints, it does not join the
character before it, and it is no blank letter. The halfwidth sound marks count as joining, but each
takes a cell of its own, so they are visible; the Hangul fillers are letters and show nothing.
-/

namespace Interop.Unicode

/-- The letters that fill the place of a missing part of a syllable. -/
def hangulFillers : List Char := ['\u115F', '\u1160', '\u3164', '\uFFA0']

/-- The sound marks of halfwidth letters. -/
def halfwidthSoundMarks : List Char := ['\uFF9E', '\uFF9F']

/-- Whether a character shows as itself wherever it stands. -/
def isVisible (c : Char) : Bool :=
  halfwidthSoundMarks.contains c ||
    (isPrintable c && !isGraphemeExtend c && !hangulFillers.contains c)

end Interop.Unicode
