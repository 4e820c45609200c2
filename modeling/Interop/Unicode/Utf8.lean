/-!
# UTF-8

A byte sequence is cut from left to right into segments. A segment is either the encoding of one
scalar value or, where no encoding starts, the longest run of bytes that could still have become
one (a single byte if there is no such run). Reading with replacement turns each ill-formed segment
into one U+FFFD; strict reading refuses them.
-/

namespace Interop.Utf8

def encode (cs : List Char) : List UInt8 := cs.flatMap String.utf8EncodeChar

/-- What a lead byte announces: how many bytes follow, the bounds of the first of them, and the bits
that the lead byte contributes to the scalar value. -/
structure Lead where
  following : Nat
  low : UInt8
  high : UInt8
  bits : Nat
  deriving Repr, DecidableEq

/-- The lead bytes are C2 to F4. The bounds after E0, ED, F0 and F4 leave out overlong forms,
surrogates and values above U+10FFFF. -/
def Lead.ofByte? (b : UInt8) : Option Lead :=
  if b < 0xC2 then none
  else if b ≤ 0xDF then some ⟨1, 0x80, 0xBF, b.toNat - 0xC0⟩
  else if b = 0xE0 then some ⟨2, 0xA0, 0xBF, 0⟩
  else if b = 0xED then some ⟨2, 0x80, 0x9F, 0xD⟩
  else if b ≤ 0xEF then some ⟨2, 0x80, 0xBF, b.toNat - 0xE0⟩
  else if b = 0xF0 then some ⟨3, 0x90, 0xBF, 0⟩
  else if b ≤ 0xF3 then some ⟨3, 0x80, 0xBF, b.toNat - 0xF0⟩
  else if b = 0xF4 then some ⟨3, 0x80, 0x8F, 4⟩
  else none

/-- The longest run of at most `n` continuation bytes at the front, the first of them within the
given bounds. -/
def continuation : Nat → UInt8 → UInt8 → List UInt8 → List UInt8
  | 0, _, _, _ => []
  | _ + 1, _, _, [] => []
  | n + 1, low, high, b :: rest =>
    if low ≤ b ∧ b ≤ high then b :: continuation n 0x80 0xBF rest else []

/-- A piece of a byte sequence, with the scalar value it encodes if it is well-formed. -/
structure Segment where
  bytes : List UInt8
  scalar : Option Char
  deriving Repr, DecidableEq

/-- The segment that starts with the byte `b`. -/
def Segment.atFront (b : UInt8) (rest : List UInt8) : Segment :=
  if b < 0x80 then ⟨[b], some (Char.ofNat b.toNat)⟩
  else match Lead.ofByte? b with
    | none => ⟨[b], none⟩
    | some lead =>
      let run := continuation lead.following lead.low lead.high rest
      if run.length = lead.following then
        ⟨b :: run, some (Char.ofNat (run.foldl (fun v x => v * 64 + (x.toNat - 0x80)) lead.bits))⟩
      else ⟨b :: run, none⟩

/-- The character a segment stands for when reading with replacement. -/
def Segment.char (s : Segment) : Char := s.scalar.getD '\ufffd'

/-- The segments of a byte sequence, in order. -/
def cut : List UInt8 → List Segment
  | [] => []
  | b :: rest =>
    let segment := Segment.atFront b rest
    segment :: cut (rest.drop (segment.bytes.length - 1))
termination_by bytes => bytes.length
decreasing_by simp only [List.length_drop, List.length_cons]; omega

/-- Reading with replacement: every ill-formed segment becomes one U+FFFD. -/
def decodeLossy (bytes : List UInt8) : List Char := (cut bytes).map Segment.char

/-- Strict reading: fails if some segment is ill-formed. -/
def decode? (bytes : List UInt8) : Option (List Char) := (cut bytes).mapM Segment.scalar

/-- Whether no segment is ill-formed. -/
def isWellFormed (bytes : List UInt8) : Bool := (cut bytes).all fun s => s.scalar.isSome

/-- The number of bytes before the first ill-formed segment. -/
def wellFormedLength (bytes : List UInt8) : Nat :=
  (((cut bytes).takeWhile fun s => s.scalar.isSome).flatMap Segment.bytes).length

def ofString (s : String) : List UInt8 := encode s.toList

end Interop.Utf8
