/-!
# Shortest decimal text of a binary number

A finite binary64 number stands for every real that rounds to it. Its text has the fewest digits of
a decimal among those reals, and of several such decimals the nearest. Whole numbers keep a `.0`,
and a large or small number is written with an exponent and its sign.
-/

namespace Interop.Decimal

/-- A positive binary number: a whole mantissa times a power of two, and whether the number below
it is only half as far away as the number above. -/
structure Binary where
  mantissa : Nat
  exponent : Int
  narrowBelow : Bool
  deriving Repr, DecidableEq

/-- The magnitude that the bits of a binary64 number encode. -/
def Binary.ofBits (bits : UInt64) : Binary :=
  let stored := (bits >>> 52).toNat % 2048
  let fraction := bits.toNat % 0x10000000000000
  if stored = 0 then ⟨fraction, -1074, false⟩
  else ⟨0x10000000000000 + fraction, stored - 1075, fraction = 0 ∧ 1 < stored⟩

/-- A digit string read as a whole number, times a power of ten. -/
structure Digits where
  value : Nat
  exponent : Int
  deriving Repr, DecidableEq

/-- The reals that round to a number, as quarters of a unit in its last place over a common
denominator: `low ≤ x ≤ high` around `mid`, ends included for an even mantissa. -/
structure Interval where
  low : Nat
  mid : Nat
  high : Nat
  denominator : Nat
  closed : Bool

def Binary.interval (b : Binary) : Interval :=
  let scale := Nat.pow 2 (b.exponent - 2).toNat
  { low := (4 * b.mantissa - if b.narrowBelow then 1 else 2) * scale
    mid := 4 * b.mantissa * scale
    high := (4 * b.mantissa + 2) * scale
    denominator := Nat.pow 2 (2 - b.exponent).toNat
    closed := b.mantissa % 2 = 0 }

namespace Interval

/-- The power of ten of the first digit. -/
def leadingExponent (i : Interval) : Int :=
  if i.denominator ≤ i.mid then ((Nat.toDigits 10 (i.mid / i.denominator)).length : Int) - 1
  else -((Nat.toDigits 10 ((i.denominator - 1) / i.mid)).length : Int)

/-- A decimal over the denominator of the interval times a power of ten that the interval's bounds
are to be multiplied by as well. -/
def scaled (i : Interval) (d : Digits) : Nat × Nat :=
  (d.value * i.denominator * Nat.pow 10 d.exponent.toNat, Nat.pow 10 (-d.exponent).toNat)

def contains (i : Interval) (d : Digits) : Bool :=
  let (x, k) := i.scaled d
  if i.closed then i.low * k ≤ x && x ≤ i.high * k else i.low * k < x && x < i.high * k

/-- How far a decimal is from the middle, in comparable units for decimals of one exponent. -/
def distance (i : Interval) (d : Digits) : Nat :=
  let (x, k) := i.scaled d
  (x - i.mid * k) + (i.mid * k - x)

/-- The two decimals around the middle whose last digit has the given power of ten. -/
def neighbours (i : Interval) (exponent : Int) : Digits × Digits :=
  let below := i.mid * Nat.pow 10 (-exponent).toNat / (i.denominator * Nat.pow 10 exponent.toNat)
  (⟨below, exponent⟩, ⟨below + 1, exponent⟩)

/-- The nearer of the two neighbours that lie in the interval; of two equally near ones the even. -/
def nearest? (i : Interval) (exponent : Int) : Option Digits :=
  let (a, b) := i.neighbours exponent
  match i.contains a, i.contains b with
  | true, true =>
    if i.distance a < i.distance b then some a
    else if i.distance b < i.distance a then some b
    else if a.value % 2 = 0 then some a else some b
  | true, false => some a
  | false, true => some b
  | false, false => none

end Interval

/-- The digits of a positive binary number: the shortest decimal that rounds to it. Seventeen
digits always suffice. -/
def Binary.shortest (b : Binary) : Digits :=
  let i := b.interval
  let tries := (List.range 17).map fun (n : Nat) => i.leadingExponent - (n : Int)
  (tries.findSome? i.nearest?).getD (i.neighbours (i.leadingExponent - 16)).1

/-- The text of digits without zeros at the end, `e` the power of ten of the first of them. -/
def layout (digits : List Char) (e : Int) : String :=
  let zeros (n : Nat) := List.replicate n '0'
  if -5 ≤ e && e < 0 then
    String.ofList (['0', '.'] ++ zeros (-e - 1).toNat ++ digits)
  else if 0 ≤ e && e ≤ 15 then
    let whole := e.toNat + 1
    let front := digits.take whole
    let back := digits.drop whole
    let decimals := if back = [] then ['0'] else back
    String.ofList (front ++ zeros (whole - digits.length) ++ ['.'] ++ decimals)
  else
    let sign := if e < 0 then "-" else "+"
    let back := digits.drop 1
    let mark := if back = [] then [] else '.' :: back
    String.ofList (digits.take 1 ++ mark) ++ "e" ++ sign ++ toString e.natAbs

/-- The text of the finite binary64 number with the given bits. -/
def textOfBits (bits : UInt64) : String :=
  let sign := if bits >>> 63 = 1 then "-" else ""
  let b := Binary.ofBits bits
  if b.mantissa = 0 then sign ++ "0.0"
  else
    let d := b.shortest
    let digits := Nat.toDigits 10 d.value
    let trimmed := (digits.reverse.dropWhile (· = '0')).reverse
    sign ++ layout trimmed (d.exponent + digits.length - 1)

end Interop.Decimal
