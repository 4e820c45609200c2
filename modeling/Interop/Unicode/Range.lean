/-!
# Ranges of code points

A property of characters is given as an ascending list of inclusive ranges of code points. Lookup
stops at the first range that starts beyond the code point.
-/

namespace Interop.Unicode

/-- The first and the last code point of a range. -/
abbrev Range := Nat × Nat

/-- Whether one of the ascending ranges holds the code point. -/
def Range.anyContains : List Range → Nat → Bool
  | [], _ => false
  | (first, last) :: ranges, n => first ≤ n && (n ≤ last || Range.anyContains ranges n)

end Interop.Unicode
