/-!
# Anchors

An anchor is a condition on a place in a text that is decided by the characters before and behind
it. The edges of words are conditions on whether these are word characters.
-/

namespace Interop.Log

/-- A condition on what is before and behind a place: word characters or others. -/
inductive WordEdge
  | boundary
  | noBoundary
  | start
  | stop
  | startHalf
  | stopHalf
  deriving Repr, DecidableEq

/-- A condition on a place in a text. The words of an edge are made of ASCII characters, or of the
word characters of all scripts. -/
inductive Anchor
  | textStart
  | textEnd
  | lineStart
  | lineEnd
  | lineStartCrlf
  | lineEndCrlf
  | word (edge : WordEdge) (ascii : Bool)
  deriving Repr, DecidableEq

def isWordChar (c : Char) : Bool := c.isAlphanum || c = '_'

/-- Whether the condition holds between a word character or none and a word character or none. -/
def WordEdge.holds (edge : WordEdge) (before behind : Bool) : Bool :=
  match edge with
  | .boundary => before != behind
  | .noBoundary => before == behind
  | .start => !before && behind
  | .stop => before && !behind
  | .startHalf => !before
  | .stopHalf => !behind

/-- Whether the condition holds between two characters, of which one or both are missing at an end
of the text. Words count as ASCII words. -/
def Anchor.holds (anchor : Anchor) (before behind : Option Char) : Bool :=
  match anchor with
  | .textStart => before = none
  | .textEnd => behind = none
  | .lineStart => before = none || before = some '\n'
  | .lineEnd => behind = none || behind = some '\n'
  | .lineStartCrlf =>
    before = none || before = some '\n' || (before = some '\r' && behind ≠ some '\n')
  | .lineEndCrlf =>
    behind = none || behind = some '\r' || (behind = some '\n' && before ≠ some '\r')
  | .word edge _ => edge.holds (before.any isWordChar) (behind.any isWordChar)

end Interop.Log
