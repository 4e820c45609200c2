/-!
# Result codes of the Windows API

A result code is a 32-bit word; the negative ones are failures. An error value never stores zero: a
sentinel takes its place and is read back as zero. A system error number becomes a failure code of
the Win32 facility.
-/

namespace Interop.Os

structure HResult where
  code : UInt32
  deriving Repr, DecidableEq

namespace HResult

/-- The word that an error value holds in the place of zero. -/
def sentinel : UInt32 := 0x535F4F4B

/-- The word that an error value holds for the code. -/
def stored (h : HResult) : UInt32 := if h.code = 0 then sentinel else h.code

/-- The code that an error value gives back. -/
def ofStored (word : UInt32) : HResult := ⟨if word = sentinel then 0 else word⟩

/-- The code after a passage through an error value. -/
def throughError (h : HResult) : HResult := ofStored h.stored

/-- The code of a system error number. Zero and the numbers with the top bit set are codes
already. -/
def ofWin32 (number : UInt32) : HResult :=
  ⟨if number.toInt32 ≤ 0 then number else 0x80070000 ||| (number &&& 0xFFFF)⟩

def notUnicode : HResult := ofWin32 1113

def invalidInteger : HResult := ofWin32 13

end HResult

end Interop.Os
