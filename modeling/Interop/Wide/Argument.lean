import Interop.Text.Quoted
import Interop.Wide.Conversion

/-!
# Wide-string arguments

An argument owns the converted units for the length of one call. A null argument stands for a null
pointer and is not the same as an empty one, which points at a lone terminator. The callee may
change the units in place, the terminator included, but cannot move or resize them.
-/

namespace Interop.Wide

/-- The units behind an argument, the last of them the terminator, and whether the callee sees a
null pointer instead. -/
structure Argument where
  units : List UInt16
  isNull : Bool
  deriving Repr, DecidableEq

namespace Argument

def null : Argument := ⟨[0], true⟩

/-- The argument for bytes that should be UTF-8. -/
def ofBytes (bytes : List UInt8) : Log.Logged Argument :=
  let converted := convert bytes
  ⟨⟨converted.value, false⟩, converted.records⟩

def ofString (s : String) : Log.Logged Argument := ofBytes (Utf8.ofString s)

/-- The argument for a string that may be missing. -/
def ofOption : Option String → Log.Logged Argument
  | none => ⟨null, []⟩
  | some s => ofString s

/-- The argument for a pointer to a zero-terminated byte string, given the bytes behind it. -/
def ofPointee (source : Option (List UInt8)) : Log.Logged Argument :=
  let converted := convertPointee source
  ⟨⟨converted.value, source.isNone⟩, converted.records⟩

def length (a : Argument) : Nat := a.units.length - 1

def isEmpty (a : Argument) : Bool := a.length = 0

def content (a : Argument) : List UInt16 := a.units.take a.length

/-- What a callee finds behind the pointer, the terminator included, or none for a null pointer. -/
def pointee (a : Argument) : Option (List UInt16) := if a.isNull then none else some a.units

/-- The text before the terminator, with lone surrogates replaced. -/
def text (a : Argument) : List Char := Utf16.decodeLossy a.content

/-- What a callee reads that stops at the first zero. -/
def readToZero (a : Argument) : Option (List Char) :=
  a.pointee.map fun units => Utf16.decodeLossy (units.takeWhile (· ≠ 0))

/-- One line about the argument: its text in quotes, or `null`. -/
def inspect (a : Argument) : String :=
  if a.isNull then "WideArg(null)"
  else "WideArg(" ++ String.ofList (Text.quotedChars a.text) ++ ")"

/-- How a callee's write went. -/
inductive Write
  | noBuffer
  | outOfRange
  | stored (result : Argument)
  deriving Repr, DecidableEq

/-- A callee stores a unit. It may store one over the terminator but none behind it. -/
def write (a : Argument) (i : Nat) (unit : UInt16) : Write :=
  if a.isNull then .noBuffer
  else if a.length < i then .outOfRange
  else .stored { a with units := a.units.set i unit }

/-- The capital of a small ASCII letter; any other unit is kept. -/
def capital (unit : UInt16) : UInt16 := if 0x61 ≤ unit && unit ≤ 0x7A then unit - 32 else unit

/-- Capital letters up to the first zero. -/
def capitalsToZero : List UInt16 → List UInt16
  | [] => []
  | unit :: rest => if unit = 0 then unit :: rest else capital unit :: capitalsToZero rest

/-- A callee turns the small ASCII letters before the first zero into capitals, without touching
the terminator. -/
def upcase (a : Argument) : Argument :=
  if a.isNull then a
  else { a with units := capitalsToZero a.content ++ a.units.drop a.length }

end Argument

end Interop.Wide
