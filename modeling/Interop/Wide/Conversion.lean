import Interop.Log.Record
import Interop.Unicode.Utf16
import Interop.Unicode.Utf8

/-!
# Conversion to zero-terminated UTF-16

A callee that takes wide strings expects UTF-16 units that end in a zero. Ill-formed input is not an
error: it is read with replacement, and the loss is reported in one record.
-/

namespace Interop.Wide

def conversionTarget : String := "widebridge::encoding"

/-- The record about a lossy conversion of `n` bytes. -/
def lossRecord (n : Nat) : Log.Record :=
  ⟨.debug, conversionTarget,
    s!"malformed UTF-8 ({n} bytes) replaced with U+FFFD at the UTF-16 boundary"⟩

/-- The units of a byte sequence, followed by a zero. -/
def convert (bytes : List UInt8) : Log.Logged (List UInt16) where
  value := Utf16.encode (Utf8.decodeLossy bytes) ++ [0]
  records := if Utf8.isWellFormed bytes then [] else [lossRecord bytes.length]

/-- The units of a zero-terminated byte string, given the bytes behind a pointer. They count up to
the first zero byte; a null pointer gives the lone terminator. -/
def convertPointee : Option (List UInt8) → Log.Logged (List UInt16)
  | none => ⟨[0], []⟩
  | some bytes => convert (bytes.takeWhile (· ≠ 0))

/-- The number of units before the first zero, or of all units if there is none. -/
def lengthToZero (units : List UInt16) : Nat := (units.takeWhile (· ≠ 0)).length

end Interop.Wide
