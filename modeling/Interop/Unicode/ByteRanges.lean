import Interop.Unicode.RangeSet

/-!
# Ranges of encoded characters

The characters of a range, encoded in UTF-8, are the byte strings of finitely many sequences of byte
ranges: a string belongs to a sequence if each of its bytes lies in the range at its place. The
sequences of a range are disjoint and ascending, and all strings of one have the same length.
-/

namespace Interop.Unicode

/-- The numbers from `low` to `high`, each taken as a first digit and `k` digits of six bits behind
it, as sequences of one range for each digit. -/
def digitRanges : Nat → Nat → Nat → List (List Range)
  | 0, low, high => [[(low, high)]]
  | k + 1, low, high =>
    let block := 64 ^ (k + 1)
    let first := low / block
    let last := high / block
    if first = last then
      (digitRanges k (low % block) (high % block)).map ((first, first) :: ·)
    else
      let startsBlock := low % block = 0
      let endsBlock := high % block = block - 1
      let head := if startsBlock then [] else
        (digitRanges k (low % block) (block - 1)).map ((first, first) :: ·)
      let tail := if endsBlock then [] else
        (digitRanges k 0 (high % block)).map ((last, last) :: ·)
      let firstFull := if startsBlock then first else first + 1
      let lastFull := if endsBlock then last else last - 1
      let full := if firstFull ≤ lastFull then
        [(firstFull, lastFull) :: List.replicate (k + 1) (0, 63)] else []
      head ++ full ++ tail

/-- The code points whose encodings have equally many continuation bytes, with that number and the
first byte of the code point zero if it were encoded so. -/
def encodingLengths : List (Range × Nat × Nat) := [
  ((0x0, 0x7F), 0, 0x0),
  ((0x80, 0x7FF), 1, 0xC0),
  ((0x800, 0xD7FF), 2, 0xE0),
  ((0xE000, 0xFFFF), 2, 0xE0),
  ((0x10000, 0x10FFFF), 3, 0xF0)]

/-- The bytes of digits: the first digit is added to the first byte, the others to the byte of a
continuation. -/
def bytesOfDigits (firstByte : Nat) : List Range → List Range
  | [] => []
  | (low, high) :: rest =>
    (firstByte + low, firstByte + high) :: rest.map fun (low, high) => (0x80 + low, 0x80 + high)

/-- The sequences of byte ranges of the characters of a range. -/
def Range.byteSequences (r : Range) : List (List Range) :=
  encodingLengths.flatMap fun ((first, last), continuations, firstByte) =>
    let low := max r.1 first
    let high := min r.2 last
    if low ≤ high then (digitRanges continuations low high).map (bytesOfDigits firstByte) else []

end Interop.Unicode
