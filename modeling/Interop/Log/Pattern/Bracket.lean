import Interop.Log.Pattern.Notation

/-!
# Sets in brackets

A set of characters is written in brackets as characters, ranges, escapes, named sets and further
brackets, with a caret in front for the complement. Two ampersands, hyphens or tildes join what is
before them and what is behind them to the characters in both, in the first only, or in one only.
-/

namespace Interop.Log.Pattern

open Unicode (RangeSet)

/-- The sets with a name between colons. -/
def asciiSets : List (String × RangeSet) := [
  ("alnum", [(0x30, 0x39), (0x41, 0x5A), (0x61, 0x7A)]),
  ("alpha", [(0x41, 0x5A), (0x61, 0x7A)]),
  ("ascii", [(0x00, 0x7F)]),
  ("blank", [(0x09, 0x09), (0x20, 0x20)]),
  ("cntrl", [(0x00, 0x1F), (0x7F, 0x7F)]),
  ("digit", digitSet),
  ("graph", [(0x21, 0x7E)]),
  ("lower", [(0x61, 0x7A)]),
  ("print", [(0x20, 0x7E)]),
  ("punct", [(0x21, 0x2F), (0x3A, 0x40), (0x5B, 0x60), (0x7B, 0x7E)]),
  ("space", blankSet),
  ("upper", [(0x41, 0x5A)]),
  ("word", wordSet),
  ("xdigit", [(0x30, 0x39), (0x41, 0x46), (0x61, 0x66)])]

/-- Reads a set with a name between colons, behind its bracket: whether the name has a caret before
it, the set, and the rest. -/
def readAsciiSet? : List Char → Option (Bool × RangeSet × List Char)
  | ':' :: rest =>
    let negated := rest.head? = some '^'
    let rest := if negated then rest.drop 1 else rest
    let name := rest.takeWhile (· ≠ ':')
    match rest.dropWhile (· ≠ ':') with
    | ':' :: ']' :: rest => do
      let set ← asciiSets.lookup (String.ofList name)
      return (negated, set, rest)
    | _ => none
  | _ => none

/-- How two sets in brackets are joined. -/
inductive SetOperator
  | inter
  | diff
  | symmDiff
  deriving Repr, DecidableEq

/-- The operator at the front, if there is one. -/
def readOperator? : List Char → Option (SetOperator × List Char)
  | '&' :: '&' :: rest => some (.inter, rest)
  | '-' :: '-' :: rest => some (.diff, rest)
  | '~' :: '~' :: rest => some (.symmDiff, rest)
  | _ => none

def SetOperator.apply : SetOperator → RangeSet → RangeSet → RangeSet
  | .inter, s, t => s.inter t
  | .diff, s, t => s.diff t
  | .symmDiff, s, t => s.symmDiff t

/-- A set in brackets or a part of one, and how deeply the notation of it is nested. -/
structure Operand where
  set : RangeSet
  depth : Nat := 0
  deriving Repr, DecidableEq

/-- The depth of things in a row: several are one level deeper than the deepest of them. -/
def depthOfRow : List Nat → Nat
  | [] => 0
  | [depth] => depth
  | depths => depths.foldl max 0 + 1

def maxDepth : Nat := 250

/-- An open bracket: whether the set is negated, the operand and operator before the current
operand, and the items of the current operand, last first. -/
structure Bracket where
  negated : Bool
  left : Option (Operand × SetOperator) := none
  items : List Operand := []
  deriving Repr, DecidableEq

def Bracket.push (b : Bracket) (item : Operand) : Bracket := { b with items := item :: b.items }

/-- What is in an open bracket so far. The sides of an operator are folded before they are
joined. -/
def Bracket.content (f : Flags) (b : Bracket) : Operand :=
  let right := ⟨RangeSet.ofRanges (b.items.flatMap Operand.set),
    depthOfRow (b.items.map Operand.depth)⟩
  match b.left with
  | none => right
  | some (left, operator) =>
    ⟨operator.apply (f.fold left.set) (f.fold right.set), max left.depth right.depth + 1⟩

/-- The set of a bracket that is closed, which is one level deeper than what is in it. -/
def Bracket.close (f : Flags) (b : Bracket) : Except Fault Operand := do
  let content := b.content f
  let set := f.fold content.set
  let set ← if b.negated then f.complement set else .ok set
  if maxDepth ≤ content.depth then .error .tooDeep else return ⟨set, content.depth + 1⟩

/-- Reads the hyphens at the front of a set, which stand for themselves. -/
def readHyphens (f : Flags) (b : Bracket) (cs : List Char) :
    Except Fault (Bracket × List Char) := do
  let (hyphens, rest) := f.span (· = '-') cs
  let items ← hyphens.mapM fun c => return ⟨← f.listed (RangeSet.ofChars [c]), 0⟩
  return ({ b with items := items ++ b.items }, rest)

/-- Reads behind an opening bracket: the caret, hyphens, and a closing bracket that stands for
itself because nothing is before it. -/
def openBracket (f : Flags) (cs : List Char) : Except Fault (Bracket × List Char) := do
  let cs := f.skipSpace cs
  let negated := cs.head? = some '^'
  let cs := if negated then f.skipSpace (cs.drop 1) else cs
  let (b, cs) ← readHyphens f ⟨negated, none, []⟩ cs
  match cs with
  | [] => .error .unclosedClass
  | c :: rest =>
    if c = ']' && b.items = [] then
      return (b.push ⟨← f.listed (RangeSet.ofChars [']']), 0⟩, f.skipSpace rest)
    else return (b, cs)

/-- Reads a character or an escape inside brackets. -/
def readClassItem (f : Flags) : List Char → Except Fault (Primitive × List Char)
  | [] => .error .unclosedClass
  | '\\' :: rest => f.readEscape rest
  | c :: rest => .ok (.char c, rest)

/-- The character of an item that is an end of a range. -/
def rangeEnd (f : Flags) : Primitive → Except Fault Char
  | .char c => if !f.unicode && 0x7F < c.toNat then .error .insideCharacter else .ok c
  | .byte c => if !f.unicode && 0x7F < c.toNat then .error .insideCharacter else .ok c
  | _ => .error .invalidClassItem

/-- The set of an item that stands on its own in brackets. -/
def itemSet (f : Flags) : Primitive → Except Fault RangeSet
  | .named set negated => f.namedSet set negated
  | p => do
    let c ← rangeEnd f p
    f.listed (RangeSet.ofChars [c])

def readClassRange (f : Flags) (cs : List Char) : Except Fault (RangeSet × List Char) := do
  let (first, rest) ← readClassItem f cs
  let rest := f.skipSpace rest
  match rest with
  | [] => .error .unclosedClass
  | '-' :: behind =>
    if f.endsAtHyphen behind then return (← itemSet f first, rest)
    else
      let (second, behind) ← readClassItem f (f.skipSpace behind)
      let low ← rangeEnd f first
      let high ← rangeEnd f second
      if low ≤ high then return (← f.listed [(low.toNat, high.toNat)], behind)
      else .error .invalidClassRange
  | _ => return (← itemSet f first, rest)

def asciiSet (f : Flags) (negated : Bool) (set : RangeSet) : Except Fault RangeSet := do
  let set := f.fold (← f.listed set)
  if negated then f.complement set else return set

/-- Reads on in brackets, innermost first, up to the end of the outermost. Each step takes a
character at least, so `fuel` is enough if it exceeds the number of characters. -/
def readBrackets (f : Flags) : Nat → Bracket → List Bracket → List Char →
    Except Fault (Operand × List Char)
  | 0, _, _, _ => .error .unclosedClass
  | fuel + 1, b, outer, cs =>
    match f.skipSpace cs with
    | [] => .error .unclosedClass
    | '[' :: rest =>
      match readAsciiSet? rest with
      | some (negated, set, rest) => do
        let set ← asciiSet f negated set
        readBrackets f fuel (b.push ⟨set, 0⟩) outer rest
      | none => do
        let (inner, rest) ← openBracket f rest
        readBrackets f fuel inner (b :: outer) rest
    | ']' :: rest => do
      let content ← b.close f
      match outer with
      | [] => return (content, rest)
      | parent :: outer => readBrackets f fuel (parent.push content) outer rest
    | c :: rest =>
      match readOperator? (c :: rest) with
      | some (operator, rest) =>
        readBrackets f fuel { b with left := some (b.content f, operator), items := [] } outer rest
      | none => do
        let (set, rest) ← readClassRange f (c :: rest)
        readBrackets f fuel (b.push ⟨set, 0⟩) outer rest

/-- Reads a set in brackets behind the opening bracket. -/
def readClass (f : Flags) (fuel : Nat) (cs : List Char) : Except Fault (Operand × List Char) := do
  let (b, rest) ← openBracket f cs
  readBrackets f fuel b [] rest

end Interop.Log.Pattern
