import Interop.Log.Pattern
import Interop.Unicode.Blank

/-!
# Pieces of the notation of patterns

A character stands for itself unless it builds patterns, and then a backslash turns it into itself.
Other escapes name characters, conditions and sets. What a piece means depends on flags. Texts are
Unicode unless a flag says that only ASCII counts; classes and comparisons that would need a table
of Unicode properties are refused, and so is a piece that could end inside a character.
-/

namespace Interop.Log.Pattern

open Unicode (RangeSet)

/-- Why a text is no pattern. -/
inductive Fault
  | unclosedGroup
  | unopenedGroup
  | unclosedClass
  | invalidClassItem
  | invalidClassRange
  | nothingToRepeat
  | invalidRepetition
  | unclosedRepetition
  | invalidEscape
  | lookaround
  | invalidFlags
  | invalidName
  | repeatedName
  | tooDeep
  | tooHeavy
  | tableMissing
  | insideCharacter
  deriving Repr, DecidableEq

def Fault.message : Fault → String
  | .unclosedGroup => "unclosed group"
  | .unopenedGroup => "unopened group"
  | .unclosedClass => "unclosed character class"
  | .invalidClassItem => "invalid item in a character class"
  | .invalidClassRange => "invalid character class range"
  | .nothingToRepeat => "repetition operator missing expression"
  | .invalidRepetition => "invalid repetition count"
  | .unclosedRepetition => "unclosed counted repetition"
  | .invalidEscape => "unrecognized escape sequence"
  | .lookaround => "look-around is not supported"
  | .invalidFlags => "invalid flags"
  | .invalidName => "invalid capture group name"
  | .repeatedName => "duplicate capture group name"
  | .tooDeep => "pattern is nested too deeply"
  | .tooHeavy => "pattern is too large"
  | .tableMissing => "Unicode table not available"
  | .insideCharacter => "pattern can match inside a character"

/-- How the notation is read: what letters, lines, dots and blanks mean at this point. -/
structure Flags where
  ignoreCase : Bool := false
  multiLine : Bool := false
  dotAll : Bool := false
  unicode : Bool := true
  crlf : Bool := false
  spaced : Bool := false
  deriving Repr, DecidableEq

theorem length_behind_comment_lt {cs rest : List Char}
    (h : cs.dropWhile Unicode.isBlank = '#' :: rest) :
    ((rest.dropWhile (· ≠ '\n')).drop 1).length < cs.length := by
  have h₁ := (List.dropWhile_sublist Unicode.isBlank (l := cs)).length_le
  have h₂ := (List.dropWhile_sublist (· ≠ '\n') (l := rest)).length_le
  rw [h, List.length_cons] at h₁
  rw [List.length_drop]
  omega

/-- What remains behind blanks and comments. A comment starts with a number sign and ends with its
line. -/
def skipComments (cs : List Char) : List Char :=
  match h : cs.dropWhile Unicode.isBlank with
  | '#' :: rest =>
    have := length_behind_comment_lt h
    skipComments ((rest.dropWhile (· ≠ '\n')).drop 1)
  | rest => rest
termination_by cs.length
decreasing_by exact this

/-- What remains behind blanks and comments, if they are to be ignored. -/
def Flags.skipSpace (f : Flags) (cs : List Char) : List Char :=
  if f.spaced then skipComments cs else cs

theorem skipComments_length_le (cs : List Char) : (skipComments cs).length ≤ cs.length := by
  fun_induction skipComments cs with
  | case1 cs rest h shorter ih => omega
  | case2 cs h => exact (List.dropWhile_sublist Unicode.isBlank).length_le

theorem Flags.skipSpace_length_le (f : Flags) (cs : List Char) :
    (f.skipSpace cs).length ≤ cs.length := by
  unfold Flags.skipSpace
  split
  · exact skipComments_length_le cs
  · exact Nat.le_refl _

/-- The characters at the front that pass a test, each with the space behind it, and the rest. -/
def Flags.span (f : Flags) (p : Char → Bool) : List Char → List Char × List Char
  | [] => ([], [])
  | c :: cs =>
    if p c then
      have := f.skipSpace_length_le cs
      let (front, rest) := f.span p (f.skipSpace cs)
      (c :: front, rest)
    else ([], c :: cs)
termination_by cs => cs.length

/-- Whether what follows a hyphen in brackets makes it stand for itself: a closing bracket or a
further hyphen. If blanks are ignored, they are passed on the way, and so is one number sign. -/
def Flags.endsAtHyphen (f : Flags) (cs : List Char) : Bool :=
  let next :=
    if !f.spaced then cs
    else match cs.dropWhile Unicode.isBlank with
      | '#' :: rest => rest.dropWhile Unicode.isBlank
      | rest => rest
  next.head? = some ']' || next.head? = some '-'

/-- A piece of notation that stands on its own: a character, one given by two hexadecimal digits, a
dot, a condition, an edge of words, or a named set with its complement flag. -/
inductive Primitive
  | char (c : Char)
  | byte (c : Char)
  | dot
  | anchor (a : Anchor)
  | edge (e : WordEdge)
  | named (set : RangeSet) (negated : Bool)
  deriving Repr, DecidableEq

def digitSet : RangeSet := [(0x30, 0x39)]

def blankSet : RangeSet := [(0x09, 0x0D), (0x20, 0x20)]

def wordSet : RangeSet := [(0x30, 0x39), (0x41, 0x5A), (0x5F, 0x5F), (0x61, 0x7A)]

/-- The characters that build patterns, which a backslash turns into themselves. -/
def metaChars : List Char := "\\.+*?()|[]\x7b\x7d^$#&-~".toList

/-- Whether a backslash before the character has no effect. -/
def isPlainEscape (c : Char) : Bool :=
  metaChars.contains c || (c.toNat < 0x80 && !c.isAlphanum && c ≠ '<' && c ≠ '>')

def hexDigit? (c : Char) : Option Nat :=
  if c.isDigit then some (c.toNat - 0x30)
  else if 'a' ≤ c && c ≤ 'f' then some (c.toNat - 0x61 + 10)
  else if 'A' ≤ c && c ≤ 'F' then some (c.toNat - 0x41 + 10)
  else none

/-- The character whose number hexadecimal digits denote. -/
def hexChar? (digits : List Char) : Option Char := do
  let n ← digits.foldlM (fun n c => do return n * 16 + (← hexDigit? c)) 0
  if digits ≠ [] && n.isValidChar then some (Char.ofNat n) else none

/-- Reads so many characters, each with the space behind it. -/
def Flags.readChars? (f : Flags) : Nat → List Char → Option (List Char × List Char)
  | 0, cs => some ([], cs)
  | _ + 1, [] => none
  | n + 1, c :: cs => do
    let (chars, rest) ← f.readChars? n (f.skipSpace cs)
    return (c :: chars, rest)

/-- Reads the digits of a hexadecimal escape: `width` of them, or any number in braces. -/
def Flags.readHexEscape (f : Flags) (width : Nat) (cs : List Char) :
    Except Fault (Primitive × List Char) :=
  match f.skipSpace cs with
  | '\x7b' :: rest =>
    let (digits, rest) := f.span (fun c => (hexDigit? c).isSome) (f.skipSpace rest)
    match hexChar? digits, rest with
    | some c, '\x7d' :: rest => .ok (.char c, f.skipSpace rest)
    | _, _ => .error .invalidEscape
  | cs =>
    match f.readChars? width cs with
    | none => .error .invalidEscape
    | some (digits, rest) =>
      match hexChar? digits with
      | some c => .ok (if width = 2 then .byte c else .char c, rest)
      | none => .error .invalidEscape

def edgeNames : List (String × WordEdge) := [
  ("start", .start),
  ("end", .stop),
  ("start-half", .startHalf),
  ("end-half", .stopHalf)]

/-- Reads what may follow `b` in braces. Other braces are left for the repetition they are. -/
def Flags.readEdge (f : Flags) (cs : List Char) : Except Fault (WordEdge × List Char) :=
  match cs with
  | '\x7b' :: rest =>
    match f.skipSpace rest with
    | [] => .error .invalidEscape
    | rest =>
      let (name, rest) := f.span (fun c => c.isAlpha || c = '-') rest
      if name = [] then .ok (.boundary, cs)
      else match edgeNames.lookup (String.ofList name), rest with
        | some edge, '\x7d' :: rest => .ok (edge, rest)
        | _, _ => .error .invalidEscape
  | cs => .ok (.boundary, cs)

def Flags.readEscape (f : Flags) : List Char → Except Fault (Primitive × List Char)
  | [] => .error .invalidEscape
  | c :: rest =>
    if isPlainEscape c then .ok (.char c, rest)
    else match c with
      | 'x' => f.readHexEscape 2 rest
      | 'u' => f.readHexEscape 4 rest
      | 'U' => f.readHexEscape 8 rest
      | 'p' | 'P' => .error .tableMissing
      | 'd' => .ok (.named digitSet false, rest)
      | 'D' => .ok (.named digitSet true, rest)
      | 's' => .ok (.named blankSet false, rest)
      | 'S' => .ok (.named blankSet true, rest)
      | 'w' => .ok (.named wordSet false, rest)
      | 'W' => .ok (.named wordSet true, rest)
      | 'a' => .ok (.char '\x07', rest)
      | 'f' => .ok (.char '\x0c', rest)
      | 't' => .ok (.char '\t', rest)
      | 'n' => .ok (.char '\n', rest)
      | 'r' => .ok (.char '\r', rest)
      | 'v' => .ok (.char '\x0b', rest)
      | 'A' => .ok (.anchor .textStart, rest)
      | 'z' => .ok (.anchor .textEnd, rest)
      | 'B' => .ok (.edge .noBoundary, rest)
      | '<' => .ok (.edge .start, rest)
      | '>' => .ok (.edge .stop, rest)
      | 'b' => do
        let (edge, rest) ← f.readEdge rest
        return (.edge edge, rest)
      | _ => .error .invalidEscape

/-- The set that a range or a named set in brackets stands for. Where letters count in both cases
in all scripts, no set can be listed. -/
def Flags.listed (f : Flags) (set : RangeSet) : Except Fault RangeSet :=
  if f.unicode && f.ignoreCase then .error .tableMissing else .ok set

/-- The set with letters in both cases, if their case is ignored. Only ASCII sets can be listed
then, so the sets of all scripts are empty or full and need nothing. -/
def Flags.fold (f : Flags) (set : RangeSet) : RangeSet :=
  if f.ignoreCase && !f.unicode then set.withCases else set

/-- The characters that are not in a set. Where only ASCII counts, this would end inside others. -/
def Flags.complement (f : Flags) (set : RangeSet) : Except Fault RangeSet :=
  if f.unicode then .ok set.complement else .error .insideCharacter

def Flags.namedSet (f : Flags) (set : RangeSet) (negated : Bool) : Except Fault RangeSet :=
  if f.unicode then .error .tableMissing
  else if negated then f.complement set
  else .ok set

def Flags.charPattern (f : Flags) (c : Char) : Except Fault Pattern :=
  if f.ignoreCase && f.unicode then .error .tableMissing
  else .ok (ofSet (f.fold (RangeSet.ofChars [c])))

/-- The pattern of a piece of notation that stands on its own. -/
def Flags.primitive (f : Flags) : Primitive → Except Fault Pattern
  | .char c => f.charPattern c
  | .byte c => if !f.unicode && 0x7F < c.toNat then .error .insideCharacter else f.charPattern c
  | .dot =>
    if !f.unicode then .error .insideCharacter
    else
      let ends := if f.dotAll then [] else if f.crlf then ['\r', '\n'] else ['\n']
      .ok (.oneOf (RangeSet.ofChars ends).complement)
  | .anchor a => .ok (.anchor a)
  | .edge e => .ok (.anchor (.word e (!f.unicode)))
  | .named set negated => return ofSet (← f.namedSet set negated)

def Flags.startAnchor (f : Flags) : Anchor :=
  if !f.multiLine then .textStart else if f.crlf then .lineStartCrlf else .lineStart

def Flags.endAnchor (f : Flags) : Anchor :=
  if !f.multiLine then .textEnd else if f.crlf then .lineEndCrlf else .lineEnd

end Interop.Log.Pattern
