import Interop.Log.Pattern.Bracket
import Interop.Log.Pattern.Weight
import Interop.Unicode.Alphabetic
import Interop.Unicode.Numeric

/-!
# The notation of patterns

Pieces follow one another; `|` separates alternatives and parentheses make groups. `?`, `*`, `+` and
counts in braces repeat the piece before them. A question mark behind an opening parenthesis starts
flags, which hold inside the group or, if the parenthesis closes at once, from there to the end of
the group around it. Notation that is nested too deeply is refused, and so is a pattern that is too
heavy or asks for the words of all scripts.
-/

namespace Interop.Log.Pattern

/-! ## Repetition -/

/-- Reads a decimal number that may have blanks around it. -/
def Flags.readCount (f : Flags) (cs : List Char) : Except Fault (Nat × List Char) :=
  let (digits, rest) := f.span Char.isDigit (cs.dropWhile Unicode.isBlank)
  let n := digits.foldl (fun n d => n * 10 + (d.toNat - 0x30)) 0
  if digits ≠ [] && n < UInt32.size then .ok (n, rest.dropWhile Unicode.isBlank)
  else .error .invalidRepetition

/-- The rest behind the question mark that makes a repetition prefer fewer rounds. -/
def dropLazyMark : List Char → List Char
  | '?' :: rest => rest
  | cs => cs

/-- Reads the counts of a repetition behind its opening brace. -/
def Flags.readBounds (f : Flags) (cs : List Char) :
    Except Fault ((Nat × Option Nat) × List Char) := do
  let (least, rest) ← f.readCount (f.skipSpace cs)
  let (most, rest) ←
    match rest with
    | ',' :: rest =>
      match f.skipSpace rest with
      | '\x7d' :: rest => .ok (none, '\x7d' :: rest)
      | rest => do
        let (most, rest) ← f.readCount rest
        pure (some most, rest)
    | rest => .ok (some least, rest)
  match rest with
  | '\x7d' :: rest =>
    if most.any (· < least) then .error .invalidRepetition
    else return ((least, most), dropLazyMark (f.skipSpace rest))
  | _ => .error .unclosedRepetition

/-! ## Groups -/

/-- A pattern and how deeply its notation is nested. -/
structure Piece where
  pattern : Pattern
  depth : Nat
  deriving Repr, DecidableEq

/-- A group that is being read: its finished alternatives and the pieces of the current one, last
first, its number if it captures, and the flags that hold again behind it. A piece that only sets
flags has no pattern. -/
structure Group where
  choices : List Piece := []
  pieces : List (Option Piece) := []
  number : Option Nat := none
  outerFlags : Flags := {}
  deriving Repr, DecidableEq

def Group.current (g : Group) : Piece where
  pattern := ofParts (g.pieces.reverse.filterMap fun piece => piece.map Piece.pattern)
  depth := depthOfRow (g.pieces.map fun piece => (piece.map Piece.depth).getD 0)

def Group.finishChoice (g : Group) : Group :=
  { g with choices := g.current :: g.choices, pieces := [] }

/-- What the whole group stands for. -/
def Group.content (g : Group) : Piece :=
  let all := g.finishChoice.choices.reverse
  { pattern := ofOptions (all.map Piece.pattern), depth := depthOfRow (all.map Piece.depth) }

/-- A piece one level deeper than another. -/
def Piece.wrap (piece : Piece) (wrapper : Pattern → Pattern) : Except Fault Piece :=
  if maxDepth ≤ piece.depth then .error .tooDeep
  else .ok ⟨wrapper piece.pattern, piece.depth + 1⟩

def Group.close (g : Group) : Except Fault Piece :=
  g.content.wrap fun pattern =>
    match g.number with
    | none => pattern
    | some number => .group number pattern

/-- The state of reading: the flags, the group, the groups around it, the number of groups that
capture, and the names in use. -/
structure State where
  flags : Flags := {}
  group : Group := {}
  outer : List Group := []
  captures : Nat := 0
  names : List (List Char) := []
  deriving Repr, DecidableEq

def State.push (s : State) (piece : Option Piece) : State :=
  { s with group := { s.group with pieces := piece :: s.group.pieces } }

def State.repeatLast (s : State) (least : Nat) (most : Option Nat) : Except Fault State :=
  match s.group.pieces with
  | some piece :: rest => do
    let repeated ← piece.wrap fun pattern => pattern.times least most
    return { s with group := { s.group with pieces := some repeated :: rest } }
  | _ => .error .nothingToRepeat

def State.enter (s : State) (number : Option Nat) (flags : Flags) : State :=
  { s with
    flags := flags
    group := { number := number, outerFlags := s.flags }
    outer := s.group :: s.outer }

def State.enterCapture (s : State) : State :=
  { s.enter (some (s.captures + 1)) s.flags with captures := s.captures + 1 }

def State.leave (s : State) : Except Fault State :=
  match s.outer with
  | [] => .error .unopenedGroup
  | parent :: outer => do
    let piece ← s.group.close
    return { s with
      flags := s.group.outerFlags
      group := { parent with pieces := some piece :: parent.pieces }
      outer := outer }

/-- Sets the flag of a letter. Preferring fewer rounds changes no match. -/
def Flags.set? (f : Flags) (letter : Char) (value : Bool) : Option Flags :=
  match letter with
  | 'i' => some { f with ignoreCase := value }
  | 'm' => some { f with multiLine := value }
  | 's' => some { f with dotAll := value }
  | 'u' => some { f with unicode := value }
  | 'R' => some { f with crlf := value }
  | 'x' => some { f with spaced := value }
  | 'U' => some f
  | _ => none

/-- Reads flags: letters, each at most once, of which those behind a hyphen are cleared. -/
def readFlags (f : Flags) (value : Bool) (seen : List Char) :
    List Char → Except Fault (Flags × List Char)
  | [] => .error .invalidFlags
  | c :: rest =>
    if c = ':' || c = ')' then
      if seen.head? = some '-' then .error .invalidFlags else .ok (f, c :: rest)
    else if seen.contains c then .error .invalidFlags
    else if c = '-' then readFlags f false (c :: seen) rest
    else match f.set? c value with
      | some f => readFlags f value (c :: seen) rest
      | none => .error .invalidFlags

/-- Whether a character may stand in the name of a group behind the first. -/
def isNameChar (c : Char) : Bool :=
  c = '_' || c = '.' || c = '[' || c = ']' || Unicode.isAlphabetic c || Unicode.isNumeric c

/-- Whether the characters can name a group. -/
def isGroupName : List Char → Bool
  | [] => false
  | c :: rest => (c = '_' || Unicode.isAlphabetic c) && rest.all isNameChar

def State.enterNamed (s : State) (cs : List Char) : Except Fault (State × List Char) :=
  let name := cs.takeWhile (· ≠ '>')
  if (cs.dropWhile (· ≠ '>')).isEmpty || !isGroupName name then .error .invalidName
  else if s.names.contains name then .error .repeatedName
  else .ok ({ s.enterCapture with names := name :: s.names }, cs.drop (name.length + 1))

/-- Reads the opening of a group behind its parenthesis, or flags that hold from here on. -/
def State.readOpening (s : State) (cs : List Char) : Except Fault (State × List Char) :=
  match s.flags.skipSpace cs with
  | '?' :: '=' :: _ | '?' :: '!' :: _ | '?' :: '<' :: '=' :: _ | '?' :: '<' :: '!' :: _ =>
    .error .lookaround
  | '?' :: 'P' :: '<' :: rest => s.enterNamed rest
  | '?' :: '<' :: rest => s.enterNamed rest
  | '?' :: rest => do
    let (flags, behind) ← readFlags s.flags true [] rest
    match behind with
    | ')' :: behind =>
      if rest.head? = some ')' then .error .nothingToRepeat
      else return ({ s with flags := flags }.push none, behind)
    | _ => return (s.enter none flags, behind.drop 1)
  | cs => .ok (s.enterCapture, cs)

/-- Reads one piece of notation, of which `c` is the first character. -/
def State.readPiece (s : State) (fuel : Nat) (c : Char) (rest : List Char) :
    Except Fault (State × List Char) :=
  let primitive (p : Primitive) (rest : List Char) : Except Fault (State × List Char) := do
    return (s.push (some ⟨← s.flags.primitive p, 0⟩), rest)
  match c with
  | '(' => s.readOpening rest
  | ')' => return (← s.leave, rest)
  | '|' => .ok ({ s with group := s.group.finishChoice }, rest)
  | '[' => do
    let (content, rest) ← readClass s.flags fuel rest
    return (s.push (some ⟨ofSet content.set, content.depth⟩), rest)
  | '?' => return (← s.repeatLast 0 (some 1), dropLazyMark rest)
  | '*' => return (← s.repeatLast 0 none, dropLazyMark rest)
  | '+' => return (← s.repeatLast 1 none, dropLazyMark rest)
  | '\x7b' => do
    let ((least, most), rest) ← s.flags.readBounds rest
    return (← s.repeatLast least most, rest)
  | '\\' => do
    let (p, rest) ← s.flags.readEscape rest
    primitive p rest
  | '.' => primitive .dot rest
  | '^' => primitive (.anchor s.flags.startAnchor) rest
  | '$' => primitive (.anchor s.flags.endAnchor) rest
  | c => primitive (.char c) rest

/-- Reads to the end of the notation. A piece has at least one character, so `fuel` is enough if it
exceeds the number of characters. -/
def State.readAll : Nat → State → List Char → Except Fault Piece
  | 0, _, _ => .error .unclosedGroup
  | fuel + 1, s, cs =>
    match s.flags.skipSpace cs with
    | [] => if s.outer = [] then .ok s.group.content else .error .unclosedGroup
    | c :: rest => do
      let (s, rest) ← s.readPiece fuel c rest
      readAll fuel s rest

def parse (text : List Char) : Except Fault Pattern := do
  let whole ← State.readAll (text.length + 1) {} text
  if maxDepth < whole.depth then .error .tooDeep
  else if whole.pattern.needsWordTable then .error .tableMissing
  else if !whole.pattern.isLight then .error .tooHeavy
  else return whole.pattern

end Interop.Log.Pattern
