import Interop.Json.Text

/-!
# Numbers in a document

No setting is a number, so a number is either skipped, and then only its shape is checked, or named
in a message about a value of the wrong type, and then its value is wanted: a whole number as far as
64 bits reach, and a binary64 number beyond that and for all numbers with a fraction or exponent.
-/

namespace Interop.Json

/-- The digits at the front, and what remains behind them. -/
def spanDigits (s : List UInt8) : List UInt8 × List UInt8 :=
  (s.takeWhile isDigit, s.dropWhile isDigit)

def startsWithDigit (s : List UInt8) : Bool := s.head?.any isDigit

def isExponentMark (b : UInt8) : Bool := b = 0x65 || b = 0x45

def isSign (b : UInt8) : Bool := b = plus || b = minus

/-! ## Skipping -/

/-- Reads over an exponent behind its mark. -/
def skipExponent (s : List UInt8) : Except Fault (List UInt8) :=
  let s := if s.head?.any isSign then s.tail else s
  match s with
  | [] => stop .invalidNumber []
  | b :: rest => if isDigit b then .ok (rest.dropWhile isDigit) else stop .invalidNumber rest

/-- Reads over an exponent, if one follows. -/
def skipExponent? (s : List UInt8) : Except Fault (List UInt8) :=
  match s with
  | [] => .ok []
  | b :: rest => if isExponentMark b then skipExponent rest else .ok s

/-- Reads over what may follow the integer part. -/
def skipBehindInteger (s : List UInt8) : Except Fault (List UInt8) :=
  match s with
  | [] => .ok []
  | b :: rest =>
    if b = point then
      if startsWithDigit rest then skipExponent? (rest.dropWhile isDigit)
      else stopPast .invalidNumber rest
    else skipExponent? s

/-- Reads over a number behind its minus sign. -/
def skipNumber : List UInt8 → Except Fault (List UInt8)
  | [] => stop .invalidNumber []
  | b :: rest =>
    if b = zero then
      if startsWithDigit rest then stopPast .invalidNumber rest else skipBehindInteger rest
    else if isDigit b then skipBehindInteger (rest.dropWhile isDigit)
    else stop .invalidNumber rest

theorem dropDigits_length_le (s : List UInt8) : (s.dropWhile isDigit).length ≤ s.length :=
  (List.dropWhile_sublist isDigit).length_le

theorem skipExponent_length_le {s rest : List UInt8} (h : skipExponent s = .ok rest) :
    rest.length ≤ s.length := by
  unfold skipExponent at h
  have htail : (if s.head?.any isSign then s.tail else s).length ≤ s.length := by
    split <;> simp
  dsimp only at h
  split at h
  · simp [stop] at h
  · next b r hs =>
    rw [hs, List.length_cons] at htail
    split at h
    · cases h
      have := dropDigits_length_le r
      omega
    · simp [stop] at h

theorem skipExponent?_length_le {s rest : List UInt8} (h : skipExponent? s = .ok rest) :
    rest.length ≤ s.length := by
  unfold skipExponent? at h
  split at h
  · cases h
    simp
  · split at h
    · have := skipExponent_length_le h
      simp only [List.length_cons]
      omega
    · cases h
      simp

theorem skipBehindInteger_length_le {s rest : List UInt8} (h : skipBehindInteger s = .ok rest) :
    rest.length ≤ s.length := by
  unfold skipBehindInteger at h
  split at h
  · cases h
    simp
  · next b r =>
    split at h
    · split at h
      · have := skipExponent?_length_le h
        have := dropDigits_length_le r
        simp only [List.length_cons]
        omega
      · simp [stopPast, stop] at h
    · exact skipExponent?_length_le h

theorem skipNumber_length_lt {s rest : List UInt8} (h : skipNumber s = .ok rest) :
    rest.length < s.length := by
  unfold skipNumber at h
  split at h
  · simp [stop] at h
  · next b r =>
    have hd := dropDigits_length_le r
    simp only [List.length_cons]
    split at h
    · split at h
      · simp [stopPast, stop] at h
      · have := skipBehindInteger_length_le h
        omega
    · split at h
      · have := skipBehindInteger_length_le h
        omega
      · simp [stop] at h

/-! ## Values -/

/-- Appends decimal digits to a number while it stays within a limit, and counts the digits that
are left over. -/
def accumulate (limit : Nat) : Nat → List UInt8 → Nat × Nat
  | value, [] => (value, 0)
  | value, d :: digits =>
    let next := value * 10 + (d.toNat - 0x30)
    if next ≤ limit then accumulate limit next digits else (value, digits.length + 1)

/-- The power of ten that is nearest among the binary64 numbers. -/
def tenPower (n : Nat) : Float := Float.ofScientific 1 false n

/-- A binary64 number times a power of ten, by one product or quotient for an exponent up to 308
and by several quotients below -308. None if the result is too large. -/
def scale (x : Float) (exponent : Int) : Option Float :=
  if 308 < exponent then if x == 0 then some x else none
  else if 0 ≤ exponent then
    let y := x * tenPower exponent.toNat
    if y.isInf then none else some y
  else if -308 ≤ exponent then some (x / tenPower (-exponent).toNat)
  else if x == 0 then some x
  else scale (x / tenPower 308) (exponent + 308)
termination_by exponent.natAbs
decreasing_by omega

def signed (negative : Bool) (x : Float) : Found := .floating (if negative then -x else x).toBits

/-- Ends a number that has a fraction or an exponent, or too many digits. -/
def endFloating (negative : Bool) (significand : Nat) (exponent : Int) (s : List UInt8) :
    Except Fault Found :=
  match scale significand.toUInt64.toFloat exponent with
  | none => stop .numberOutOfRange s
  | some x => .ok (signed negative x)

/-- A number found in the document, and what remains behind it. -/
abbrev Numeral := Found × List UInt8

/-- Reads an exponent behind its mark. -/
def readExponent (negative : Bool) (significand : Nat) (before : Int) (s : List UInt8) :
    Except Fault Numeral :=
  let down := s.head? = some minus
  let s := if s.head?.any isSign then s.tail else s
  match s with
  | [] => stop .endInValue []
  | b :: rest =>
    if isDigit b then
      let (digits, rest) := spanDigits (b :: rest)
      let (exponent, excess) := accumulate 0x7FFFFFFF 0 digits
      if excess = 0 then do
        let found ← endFloating negative significand
          (if down then before - exponent else before + exponent) rest
        return (found, rest)
      else if significand ≠ 0 && !down then
        .error ⟨.numberOutOfRange, rest.length + (excess - 1)⟩
      else .ok (signed negative 0, rest)
    else stop .invalidNumber rest

/-- Reads the exponent of a number that has one, and ends the number. -/
def readExponent? (negative : Bool) (significand : Nat) (before : Int) (s : List UInt8) :
    Except Fault Numeral :=
  if s.head?.any isExponentMark then readExponent negative significand before s.tail
  else do
    let found ← endFloating negative significand before s
    return (found, s)

def readDecimals (negative : Bool) (significand : Nat) (excess : Nat) (s : List UInt8) :
    Except Fault Numeral :=
  let (digits, rest) := spanDigits s
  if digits = [] then stopPast (if s = [] then .endInValue else .invalidNumber) s
  else
    let (significand, dropped) := accumulate (UInt64.size - 1) significand digits
    readExponent? negative significand ((excess : Int) - (digits.length - dropped : Nat)) rest

/-- A number of 64 bits. Zero with a minus sign and numbers below -2^63 are not whole numbers. -/
def wholeNumber (negative : Bool) (significand : Nat) : Found :=
  if !negative then .integer significand
  else if significand = 0 || 0x8000000000000000 < significand then
    signed true significand.toUInt64.toFloat
  else .integer (-significand)

/-- Reads what may follow the integer part, of which `excess` digits did not fit in 64 bits. -/
def readBehindInteger (negative : Bool) (significand excess : Nat) (s : List UInt8) :
    Except Fault Numeral :=
  if s.head? = some point then readDecimals negative significand excess s.tail
  else if excess = 0 && !s.head?.any isExponentMark then .ok (wholeNumber negative significand, s)
  else readExponent? negative significand excess s

/-- Reads a number behind its minus sign. -/
def readNumber (negative : Bool) : List UInt8 → Except Fault Numeral
  | [] => stop .endInValue []
  | b :: rest =>
    if b = zero then
      if startsWithDigit rest then stopPast .invalidNumber rest
      else readBehindInteger negative 0 0 rest
    else if isDigit b then
      let (digits, rest) := spanDigits (b :: rest)
      let (significand, excess) := accumulate (UInt64.size - 1) 0 digits
      readBehindInteger negative significand excess rest
    else stop .invalidNumber rest

end Interop.Json
