import Interop.Log.Pattern.Anchor
import Interop.Unicode.RangeSet

/-!
# Patterns

A pattern describes parts of a text. Patterns are built in a normal form: neighbouring texts are one
text, a set of one character is a text, sequences and choices are nested to the right and contain no
sequence or choice directly on the left, options that are all sets are one set, options that all
start with the same parts share them, and what can only fit nothing is repeated at most once.
-/

namespace Interop.Log

open Unicode (RangeSet)

/-- A description of parts of a text. Groups that capture what they fit are numbered. -/
inductive Pattern
  | empty
  | text (chars : List Char)
  | oneOf (set : RangeSet)
  | anchor (anchor : Anchor)
  | group (number : Nat) (body : Pattern)
  | sequence (first second : Pattern)
  | choice (first second : Pattern)
  | repeated (body : Pattern) (least : Nat) (most : Option Nat)
  deriving Repr, DecidableEq

namespace Pattern

/-! ## Properties -/

/-- Whether the pattern can fit nothing but the empty part of a text. -/
def onlyEmpty : Pattern → Bool
  | .empty | .anchor _ => true
  | .text _ | .oneOf _ => false
  | .group _ p => p.onlyEmpty
  | .sequence p q | .choice p q => p.onlyEmpty && q.onlyEmpty
  | .repeated p _ _ => p.onlyEmpty

/-- The least number of characters that a part which fits can have; none if an empty set is part of
the pattern, wherever it stands. -/
def shortest : Pattern → Option Nat
  | .empty | .anchor _ => some 0
  | .text cs => some cs.length
  | .oneOf set => if set = [] then none else some 1
  | .group _ p => p.shortest
  | .sequence p q => do return (← p.shortest) + (← q.shortest)
  | .choice p q => do return min (← p.shortest) (← q.shortest)
  | .repeated p least _ => do return (← p.shortest) * least

/-- Whether a part that fits must begin with the text. -/
def opensText : Pattern → Bool
  | .empty | .text _ | .oneOf _ => false
  | .anchor a => a = .textStart
  | .group _ p => p.opensText
  | .sequence p q => p.opensText || (p.onlyEmpty && q.opensText)
  | .choice p q => p.opensText && q.opensText
  | .repeated p least _ => least ≠ 0 && p.opensText

/-- Whether a part that fits must end with the text. -/
def closesText : Pattern → Bool
  | .empty | .text _ | .oneOf _ => false
  | .anchor a => a = .textEnd
  | .group _ p => p.closesText
  | .sequence p q => q.closesText || (q.onlyEmpty && p.closesText)
  | .choice p q => p.closesText && q.closesText
  | .repeated p least _ => least ≠ 0 && p.closesText

/-- Whether some condition speaks of the words of all scripts. -/
def needsWordTable : Pattern → Bool
  | .empty | .text _ | .oneOf _ => false
  | .anchor (.word _ ascii) => !ascii
  | .anchor _ => false
  | .group _ p => p.needsWordTable
  | .sequence p q | .choice p q => p.needsWordTable || q.needsWordTable
  | .repeated p _ _ => p.needsWordTable

/-- The number of patterns of which the pattern is built. -/
def size : Pattern → Nat
  | .empty | .text _ | .oneOf _ | .anchor _ => 1
  | .group _ p => p.size + 1
  | .sequence p q | .choice p q => p.size + q.size + 1
  | .repeated p _ _ => p.size + 1

/-! ## Construction -/

/-- The pattern of the characters of a set. -/
def ofSet : RangeSet → Pattern
  | [(low, high)] => if low = high then .text [Char.ofNat low] else .oneOf [(low, high)]
  | set => .oneOf set

def parts : Pattern → List Pattern
  | .empty => []
  | .sequence p q => p :: q.parts
  | p => [p]

/-- Parts with neighbouring texts made one. -/
def joinTexts : List Pattern → List Pattern
  | [] => []
  | .text cs :: rest =>
    match joinTexts rest with
    | .text ds :: rest => .text (cs ++ ds) :: rest
    | rest => .text cs :: rest
  | p :: rest => p :: joinTexts rest

def nestParts : List Pattern → Pattern
  | [] => .empty
  | [p] => p
  | p :: rest => .sequence p (nestParts rest)

/-- The pattern of parts that follow one another. -/
def ofParts (ps : List Pattern) : Pattern := nestParts (joinTexts (ps.flatMap parts))

def options : Pattern → List Pattern
  | .choice p q => p :: q.options
  | p => [p]

def nestOptions : List Pattern → Pattern
  | [] => .oneOf []
  | [p] => p
  | p :: rest => .choice p (nestOptions rest)

def char? : Pattern → Option Char
  | .text [c] => some c
  | _ => none

def set? : Pattern → Option RangeSet
  | .oneOf set => some set
  | _ => none

def sequence? : Pattern → Option (List Pattern)
  | .sequence p q => some (p :: q.parts)
  | _ => none

/-- The parts with which two lists both start. -/
def sharedParts : List Pattern → List Pattern → List Pattern
  | p :: ps, q :: qs => if p = q then p :: sharedParts ps qs else []
  | _, _ => []

/-- The choice of options; `fuel` bounds how often a common start is taken out of them. -/
def ofOptionsWithin : Nat → List Pattern → Pattern
  | 0, ps => nestOptions (ps.flatMap options)
  | fuel + 1, ps =>
    match ps.flatMap options with
    | [] => .oneOf []
    | [p] => p
    | ps =>
      match ps.mapM char?, ps.mapM set?, ps.mapM sequence? with
      | some cs, _, _ => ofSet (RangeSet.ofChars cs)
      | _, some sets, _ => ofSet (RangeSet.ofRanges sets.flatten)
      | _, _, some (first :: rest) =>
        match rest.foldl sharedParts first with
        | [] => nestOptions ps
        | shared =>
          let others := (first :: rest).map fun parts => ofParts (parts.drop shared.length)
          ofParts (shared ++ [ofOptionsWithin fuel others])
      | _, _, _ => nestOptions ps

/-- The pattern of options. A common start is taken out at most once for each pattern in them. -/
def ofOptions (ps : List Pattern) : Pattern := ofOptionsWithin ((ps.map size).foldl (· + ·) 0) ps

def times (p : Pattern) (least : Nat) (most : Option Nat) : Pattern :=
  let least := if p.onlyEmpty then min least 1 else least
  let most := if p.onlyEmpty then some (min (most.getD 1) 1) else most
  if most = some 0 then .empty
  else if least = 1 && most = some 1 then p
  else .repeated p least most

end Pattern

end Interop.Log
