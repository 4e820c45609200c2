/-!
# UTF-16

A scalar value is one unit, or a high and a low surrogate if it lies above U+FFFF. Reading pairs
each high surrogate with a low one that follows it; a surrogate without a partner is lone.
-/

namespace Interop.Utf16

/-- The units of one scalar value. -/
def encodeChar (c : Char) : List UInt16 :=
  if c.toNat < 0x10000 then [c.toNat.toUInt16]
  else
    let offset := c.toNat - 0x10000
    [(0xD800 + offset / 0x400).toUInt16, (0xDC00 + offset % 0x400).toUInt16]

def encode (cs : List Char) : List UInt16 := cs.flatMap encodeChar

/-- Whether a unit is the first half of a pair. -/
def isHigh (u : UInt16) : Bool := 0xD800 ≤ u && u ≤ 0xDBFF

/-- Whether a unit is the second half of a pair. -/
def isLow (u : UInt16) : Bool := 0xDC00 ≤ u && u ≤ 0xDFFF

/-- The scalar value of a unit on its own, none for a surrogate. -/
def single (u : UInt16) : Option Char :=
  if isHigh u || isLow u then none else some (Char.ofNat u.toNat)

def pair (high low : UInt16) : Char :=
  Char.ofNat (0x10000 + (high.toNat - 0xD800) * 0x400 + (low.toNat - 0xDC00))

/-- The scalar values of a unit sequence, with none in the place of each lone surrogate. -/
def scalars : List UInt16 → List (Option Char)
  | [] => []
  | [u] => [single u]
  | u :: v :: rest =>
    if isHigh u && isLow v then some (pair u v) :: scalars rest
    else single u :: scalars (v :: rest)

/-- Reading with replacement: every lone surrogate becomes U+FFFD. -/
def decodeLossy (units : List UInt16) : List Char := (scalars units).map fun c => c.getD '\ufffd'

/-- Strict reading: fails if some surrogate is lone. -/
def decode? (units : List UInt16) : Option (List Char) := (scalars units).mapM id

end Interop.Utf16
