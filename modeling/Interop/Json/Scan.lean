import Interop.Json.Fault

/-!
# Blanks and words

The smallest pieces of a document. Each reader takes the bytes that are left and gives back what
remains behind the piece.
-/

namespace Interop.Json

abbrev quoteMark : UInt8 := 0x22

abbrev backslash : UInt8 := 0x5C

abbrev comma : UInt8 := 0x2C

abbrev colon : UInt8 := 0x3A

abbrev openBracket : UInt8 := 0x5B

abbrev closeBracket : UInt8 := 0x5D

abbrev openBrace : UInt8 := 0x7B

abbrev closeBrace : UInt8 := 0x7D

abbrev minus : UInt8 := 0x2D

/-- The sign that an exponent may have otherwise. -/
abbrev plus : UInt8 := 0x2B

abbrev point : UInt8 := 0x2E

/-- The digit that no other digit may follow at the front. -/
abbrev zero : UInt8 := 0x30

def isBlank (b : UInt8) : Bool := b = 0x20 || b = 0x09 || b = 0x0A || b = 0x0D

/-- What remains behind the blanks at the front. -/
def skipBlanks (s : List UInt8) : List UInt8 := s.dropWhile isBlank

theorem skipBlanks_length_le (s : List UInt8) : (skipBlanks s).length ≤ s.length :=
  (List.dropWhile_sublist isBlank).length_le

theorem length_lt_of_skipBlanks_eq_cons {s rest : List UInt8} {b : UInt8}
    (h : skipBlanks s = b :: rest) : rest.length < s.length := by
  have hle := skipBlanks_length_le s
  rw [h, List.length_cons] at hle
  omega

def isDigit (b : UInt8) : Bool := 0x30 ≤ b && b ≤ 0x39

/-- Reads the rest of a word letter by letter. -/
def readWord : List UInt8 → List UInt8 → Except Fault (List UInt8)
  | [], s => .ok s
  | _ :: _, [] => stop .endInValue []
  | letter :: word, b :: rest => if b = letter then readWord word rest else stop .wordExpected rest

theorem readWord_length_le {word s rest : List UInt8} (h : readWord word s = .ok rest) :
    rest.length ≤ s.length := by
  fun_induction readWord word s with
  | case1 s => simp_all
  | case2 => simp [stop] at h
  | case3 letter word rest' ih =>
    have := ih h
    simp only [List.length_cons]
    omega
  | case4 => simp [stop] at h

/-- The letters of `null` behind the first. -/
def restOfNull : List UInt8 := [0x75, 0x6C, 0x6C]

def restOfTrue : List UInt8 := [0x72, 0x75, 0x65]

def restOfFalse : List UInt8 := [0x61, 0x6C, 0x73, 0x65]

/-- Reads the colon between a key and its value. -/
def readColon (s : List UInt8) : Except Fault (List UInt8) :=
  match skipBlanks s with
  | [] => stop .endInObject []
  | b :: rest => if b = colon then .ok rest else stop .colonExpected rest

theorem readColon_length_lt {s rest : List UInt8} (h : readColon s = .ok rest) :
    rest.length < s.length := by
  unfold readColon at h
  split at h
  · simp [stop] at h
  · next b r hs =>
    split at h
    · cases h
      exact length_lt_of_skipBlanks_eq_cons hs
    · simp [stop] at h

end Interop.Json
