import Interop.Unicode.Range

/-!
# Sets of code points

A set is a list of inclusive ranges of code points. The surrogates are no characters, so the code
points on both sides of them are neighbours. Union, intersection and difference keep the ranges
ascending, with those that touch joined; the complement gives the gaps of such a list.
-/

namespace Interop.Unicode

/-- A set of code points. -/
abbrev RangeSet := List Range

def nextPoint (n : Nat) : Nat := if n = 0xD7FF then 0xE000 else n + 1

def previousPoint (n : Nat) : Nat := if n = 0xE000 then 0xD7FF else n - 1

namespace RangeSet

def has (s : RangeSet) (n : Nat) : Bool := s.any fun (first, last) => first ≤ n && n ≤ last

/-- A range before ascending ranges, joined with those that it reaches. -/
def join (r : Range) : RangeSet → RangeSet
  | [] => [r]
  | (low, high) :: rest =>
    if low ≤ r.2 + 1 then join (r.1, max r.2 high) rest else r :: (low, high) :: rest

def ofRanges (rs : List Range) : RangeSet :=
  (rs.mergeSort fun a b => a.1 ≤ b.1).foldr join []

def ofChars (cs : List Char) : RangeSet := ofRanges (cs.map fun c => (c.toNat, c.toNat))

def union (s t : RangeSet) : RangeSet := ofRanges (s ++ t)

def inter (s t : RangeSet) : RangeSet :=
  ofRanges (s.flatMap fun a => t.filterMap fun b =>
    let low := max a.1 b.1
    let high := min a.2 b.2
    if low ≤ high then some (low, high) else none)

/-- The parts of a range in front of and behind another. -/
def cut (r hole : Range) : RangeSet :=
  (if r.1 < hole.1 then [(r.1, min r.2 (previousPoint hole.1))] else [])
    ++ (if hole.2 < r.2 then [(max r.1 (nextPoint hole.2), r.2)] else [])

def diff (s t : RangeSet) : RangeSet := t.foldl (fun s hole => s.flatMap fun r => cut r hole) s

def symmDiff (s t : RangeSet) : RangeSet := diff (s.union t) (s.inter t)

/-- The gaps behind the code point `high`. A gap goes from the neighbour of the range before it to
the neighbour of the range behind it; its ends are put in order, so two ranges with nothing but the
surrogates between them have the two characters beside the surrogates as their gap. -/
def gapsBehind (high : Nat) : RangeSet → RangeSet
  | [] => if high < 0x10FFFF then [(nextPoint high, 0x10FFFF)] else []
  | (low, high') :: rest =>
    let first := nextPoint high
    let last := previousPoint low
    (min first last, max first last) :: gapsBehind high' rest

/-- The code points that are not in the set, as its gaps. -/
def complement : RangeSet → RangeSet
  | [] => [(0, 0x10FFFF)]
  | (low, high) :: rest =>
    (if 0 < low then [(0, previousPoint low)] else []) ++ gapsBehind high rest

/-- The set with the other case of each ASCII letter in it. -/
def withCases (s : RangeSet) : RangeSet :=
  let small := (s.inter [(0x61, 0x7A)]).map fun (a, b) => (a - 0x20, b - 0x20)
  let capital := (s.inter [(0x41, 0x5A)]).map fun (a, b) => (a + 0x20, b + 0x20)
  ofRanges (s ++ small ++ capital)

end RangeSet

end Interop.Unicode
