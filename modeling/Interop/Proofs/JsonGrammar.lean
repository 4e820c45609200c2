import Interop.Json.Skip

/-!
# The grammar of documents

Every piece of a document is a relation between two byte sequences: `X s rest` says that an `X` stands
at the front of `s` and that `rest` is what lies behind it. A piece with a meaning has the meaning
in between. Nothing here says how far a piece reaches when it could end in several places, as a row
of digits can; that is settled by what has to come next.
-/

namespace Interop.Json

inductive Blanks : List UInt8 → List UInt8 → Prop
  | none (rest : List UInt8) : Blanks rest rest
  | more {b : UInt8} {s rest : List UInt8} (hb : b ∈ [0x20, 0x09, 0x0A, 0x0D])
      (hs : Blanks s rest) : Blanks (b :: s) rest

theorem isBlank_iff {b : UInt8} : isBlank b = true ↔ b ∈ [0x20, 0x09, 0x0A, 0x0D] := by
  simp [isBlank, or_assoc]

theorem blanks_skipBlanks (s : List UInt8) : Blanks s (skipBlanks s) := by
  induction s with
  | nil => exact .none []
  | cons b s ih =>
    by_cases hb : isBlank b = true
    · rw [skipBlanks, List.dropWhile_cons_of_pos hb]
      exact .more (isBlank_iff.1 hb) ih
    · rw [skipBlanks, List.dropWhile_cons_of_neg hb]
      exact .none (b :: s)

theorem Blanks.skipBlanks_eq {s rest : List UInt8} (h : Blanks s rest) :
    skipBlanks s = skipBlanks rest := by
  induction h with
  | none rest => rfl
  | more hb hs ih => rw [skipBlanks, List.dropWhile_cons_of_pos (isBlank_iff.2 hb), ← ih, skipBlanks]

theorem Blanks.trans {s s' rest : List UInt8} (h : Blanks s s') (h' : Blanks s' rest) :
    Blanks s rest := by
  induction h with
  | none _ => exact h'
  | more hb _ ih => exact .more hb (ih h')

/-- Where a byte other than a blank has to come next, all blanks are skipped. -/
theorem blanks_cons_iff {s rest : List UInt8} {b : UInt8} (hb : isBlank b = false) :
    Blanks s (b :: rest) ↔ skipBlanks s = b :: rest := by
  constructor
  · intro h
    rw [h.skipBlanks_eq, skipBlanks, List.dropWhile_cons_of_neg (by simp [hb])]
  · intro h
    rw [← h]
    exact blanks_skipBlanks s

theorem blanks_nil_iff {s : List UInt8} : Blanks s [] ↔ skipBlanks s = [] := by
  constructor
  · intro h
    exact h.skipBlanks_eq
  · intro h
    rw [← h]
    exact blanks_skipBlanks s

def Word (word : String) (s rest : List UInt8) : Prop := s = Utf8.ofString word ++ rest

/-! ## Strings -/

inductive HexDigit : UInt8 → Nat → Prop
  | decimal {b : UInt8} (low : 0x30 ≤ b) (high : b ≤ 0x39) : HexDigit b (b.toNat - 0x30)
  | capital {b : UInt8} (low : 0x41 ≤ b) (high : b ≤ 0x46) : HexDigit b (b.toNat - 0x41 + 10)
  | small {b : UInt8} (low : 0x61 ≤ b) (high : b ≤ 0x66) : HexDigit b (b.toNat - 0x61 + 10)

/-- Four hexadecimal digits and the unit they spell. -/
inductive HexUnit : List UInt8 → UInt16 → List UInt8 → Prop
  | four {a b c d : UInt8} {w x y z : Nat} {unit : UInt16} (rest : List UInt8) (ha : HexDigit a w)
      (hb : HexDigit b x) (hc : HexDigit c y) (hd : HexDigit d z)
      (hu : unit.toNat = ((w * 16 + x) * 16 + y) * 16 + z) :
      HexUnit (a :: b :: c :: d :: rest) unit rest

/-- The letters that may follow a backslash, apart from `u`, and the characters they stand for. -/
def escapeLetters : List (UInt8 × Char) :=
  [(0x22, '"'), (0x5C, '\\'), (0x2F, '/'), (0x62, '\x08'), (0x66, '\x0c'), (0x6E, '\n'), (0x72, '\r'),
    (0x74, '\t')]

/-- An escape behind its backslash, and the character it stands for. The units of a character are
its UTF-16 encoding, so surrogates come in pairs. -/
inductive Escape : List UInt8 → Char → List UInt8 → Prop
  | letter {b : UInt8} {c : Char} (rest : List UInt8) (h : (b, c) ∈ escapeLetters) :
      Escape (b :: rest) c rest
  | unit {s rest : List UInt8} {unit : UInt16} {c : Char} (hs : HexUnit s unit rest)
      (hc : Utf16.encodeChar c = [unit]) : Escape (0x75 :: s) c rest
  | pair {s s' rest : List UInt8} {high low : UInt16} {c : Char}
      (hs : HexUnit s high (backslash :: 0x75 :: s')) (hs' : HexUnit s' low rest)
      (hc : Utf16.encodeChar c = [high, low]) : Escape (0x75 :: s) c rest

/-- A string behind its opening quote, and the characters it spells. Control characters do not stand
in it, nor do quotes and backslashes without a backslash before them. -/
inductive Spells : List UInt8 → List Char → List UInt8 → Prop
  | close (rest : List UInt8) : Spells (quoteMark :: rest) [] rest
  | plain {c : Char} {cs : List Char} {s rest : List UInt8} (hc : ' ' ≤ c) (hq : c ≠ '"')
      (hb : c ≠ '\\') (hs : Spells s cs rest) : Spells (String.utf8EncodeChar c ++ s) (c :: cs) rest
  | escape {c : Char} {cs : List Char} {s s' rest : List UInt8} (hc : Escape s c s')
      (hs : Spells s' cs rest) : Spells (backslash :: s) (c :: cs) rest

/-- A byte of a string that is neither a control character nor a quote nor a backslash. -/
def Plain (b : UInt8) : Prop := 0x20 ≤ b ∧ b ≠ quoteMark ∧ b ≠ backslash

/-- A string behind its opening quote that need not spell anything: its bytes may be ill-formed, and
its escapes may be surrogates without a partner. -/
inductive Passes : List UInt8 → List UInt8 → Prop
  | close (rest : List UInt8) : Passes (quoteMark :: rest) rest
  | plain {b : UInt8} {s rest : List UInt8} (hb : Plain b) (h : Passes s rest) : Passes (b :: s) rest
  | letter {b : UInt8} {c : Char} {s rest : List UInt8} (hb : (b, c) ∈ escapeLetters)
      (h : Passes s rest) : Passes (backslash :: b :: s) rest
  | unit {unit : UInt16} {s s' rest : List UInt8} (hu : HexUnit s unit s') (h : Passes s' rest) :
      Passes (backslash :: 0x75 :: s) rest

/-! ## Numbers -/

inductive Digits : List UInt8 → List UInt8 → Prop
  | one {b : UInt8} (rest : List UInt8) (hb : isDigit b = true) : Digits (b :: rest) rest
  | more {b : UInt8} {s rest : List UInt8} (hb : isDigit b = true) (hs : Digits s rest) :
      Digits (b :: s) rest

/-- The digits in front of the point: zero alone, or digits of which the first is not zero. -/
inductive Whole : List UInt8 → List UInt8 → Prop
  | zero (rest : List UInt8) : Whole (zero :: rest) rest
  | digits {b : UInt8} {s rest : List UInt8} (h : b ≠ zero) (hs : Digits (b :: s) rest) :
      Whole (b :: s) rest

/-- The decimals, if there are any. -/
inductive Fraction : List UInt8 → List UInt8 → Prop
  | none (rest : List UInt8) : Fraction rest rest
  | some {s rest : List UInt8} (hs : Digits s rest) : Fraction (point :: s) rest

inductive Exponent : List UInt8 → List UInt8 → Prop
  | none (rest : List UInt8) : Exponent rest rest
  | plain {b : UInt8} {s rest : List UInt8} (hb : b ∈ [0x65, 0x45]) (hs : Digits s rest) :
      Exponent (b :: s) rest
  | signed {b sign : UInt8} {s rest : List UInt8} (hb : b ∈ [0x65, 0x45]) (hsign : sign ∈ [plus, minus])
      (hs : Digits s rest) : Exponent (b :: sign :: s) rest

inductive Magnitude : List UInt8 → List UInt8 → Prop
  | parts {s s₁ s₂ rest : List UInt8} (hw : Whole s s₁) (hf : Fraction s₁ s₂) (he : Exponent s₂ rest) :
      Magnitude s rest

/-! ## Values -/

def Frame.opening : Frame → UInt8
  | .list => openBracket
  | .object => openBrace

/-- What stands in front of a value inside a frame: nothing in a list, and in an object a key and
its colon. -/
inductive Entry : Frame → List UInt8 → List UInt8 → Prop
  | item (rest : List UInt8) : Entry .list rest rest
  | key {s s₁ s₂ rest : List UInt8} (hb : Blanks s (quoteMark :: s₁)) (hk : Passes s₁ s₂)
      (hc : Blanks s₂ (colon :: rest)) : Entry .object s rest

mutual

/-- A value of any type and depth. -/
inductive Value : List UInt8 → List UInt8 → Prop
  | word {word : String} {s rest : List UInt8} (hw : word ∈ ["null", "true", "false"])
      (h : Word word s rest) : Value s rest
  | number {s rest : List UInt8} (h : Magnitude s rest) : Value s rest
  | negative {s rest : List UInt8} (h : Magnitude s rest) : Value (minus :: s) rest
  | text {s rest : List UInt8} (h : Passes s rest) : Value (quoteMark :: s) rest
  | empty {s rest : List UInt8} (frame : Frame) (h : Blanks s (frame.close :: rest)) :
      Value (frame.opening :: s) rest
  | filled {s rest : List UInt8} (frame : Frame) (h : Items frame s rest) :
      Value (frame.opening :: s) rest

/-- The values in a frame, one or more, up to and with the end of the frame. -/
inductive Items : Frame → List UInt8 → List UInt8 → Prop
  | last {frame : Frame} {s s₁ s₂ s₃ rest : List UInt8} (he : Entry frame s s₁) (hb : Blanks s₁ s₂)
      (hv : Value s₂ s₃) (hc : Blanks s₃ (frame.close :: rest)) : Items frame s rest
  | more {frame : Frame} {s s₁ s₂ s₃ s₄ rest : List UInt8} (he : Entry frame s s₁)
      (hb : Blanks s₁ s₂) (hv : Value s₂ s₃) (hc : Blanks s₃ (comma :: s₄))
      (hi : Items frame s₄ rest) : Items frame s rest

end

end Interop.Json
