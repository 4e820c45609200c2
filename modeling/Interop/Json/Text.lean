import Interop.Json.Scan
import Interop.Unicode.Utf16
import Interop.Unicode.Utf8

/-!
# Strings in a document

A string ends at the first quote without a backslash before it. A string that is kept has its
escapes resolved, and surrogate escapes must come in pairs. A string that is skipped is only checked
for control characters and for the shape of its escapes.
-/

namespace Interop.Json

/-- The value of a hexadecimal digit in capital or small letters. -/
def hexValue? (b : UInt8) : Option Nat :=
  if isDigit b then some (b.toNat - 0x30)
  else if 0x41 ≤ b && b ≤ 0x46 then some (b.toNat - 0x41 + 10)
  else if 0x61 ≤ b && b ≤ 0x66 then some (b.toNat - 0x61 + 10)
  else none

def hexUnit? (a b c d : UInt8) : Option UInt16 := do
  let a ← hexValue? a
  let b ← hexValue? b
  let c ← hexValue? c
  let d ← hexValue? d
  return (((a * 16 + b) * 16 + c) * 16 + d).toUInt16

/-- Reads the four digits of a `u` escape. Fewer bytes than that are all read before it stops. -/
def readHex : List UInt8 → Except Fault (UInt16 × List UInt8)
  | a :: b :: c :: d :: rest =>
    match hexUnit? a b c d with
    | some unit => .ok (unit, rest)
    | none => stop .invalidEscape rest
  | _ => stop .endInText []

/-- Reads one given byte of the second half of a pair of escapes. -/
def readPairByte (byte : UInt8) : List UInt8 → Except Fault (List UInt8)
  | [] => stop .endInText []
  | b :: rest => if b = byte then .ok rest else stop .unfinishedPair rest

/-- Reads a `u` escape behind its `u`, together with the escape of the low surrogate that has to
follow a high one. -/
def readCodePoint (s : List UInt8) : Except Fault (Char × List UInt8) := do
  let (unit, s) ← readHex s
  if Utf16.isLow unit then stop .loneSurrogate s
  else if Utf16.isHigh unit then
    let s ← readPairByte backslash s
    let s ← readPairByte 0x75 s
    let (second, s) ← readHex s
    if Utf16.isLow second then return (Utf16.pair unit second, s) else stop .loneSurrogate s
  else return (Char.ofNat unit.toNat, s)

/-- The character of an escape of one letter. -/
def letterEscape? (b : UInt8) : Option UInt8 :=
  if b = quoteMark || b = backslash || b = 0x2F then some b
  else if b = 0x62 then some 0x08
  else if b = 0x66 then some 0x0C
  else if b = 0x6E then some 0x0A
  else if b = 0x72 then some 0x0D
  else if b = 0x74 then some 0x09
  else none

/-- Reads an escape behind its backslash, and gives the bytes it stands for. -/
def readEscape : List UInt8 → Except Fault (List UInt8 × List UInt8)
  | [] => stop .endInText []
  | b :: rest =>
    match letterEscape? b with
    | some byte => .ok ([byte], rest)
    | none =>
      if b = 0x75 then do
        let (c, rest) ← readCodePoint rest
        return (String.utf8EncodeChar c, rest)
      else stop .invalidEscape rest

/-- Reads over an escape behind its backslash. A `u` escape may be any surrogate. -/
def skipEscape : List UInt8 → Except Fault (List UInt8)
  | [] => stop .endInText []
  | b :: rest =>
    match letterEscape? b with
    | some _ => .ok rest
    | none =>
      if b = 0x75 then do
        let (_, rest) ← readHex rest
        return rest
      else stop .invalidEscape rest

/-! ## What remains is shorter -/

theorem readHex_length_lt {s rest : List UInt8} {unit : UInt16}
    (h : readHex s = .ok (unit, rest)) : rest.length < s.length := by
  unfold readHex at h
  split at h
  · split at h
    · cases h
      simp only [List.length_cons]
      omega
    · simp [stop] at h
  · simp [stop] at h

theorem readPairByte_length_lt {byte : UInt8} {s rest : List UInt8}
    (h : readPairByte byte s = .ok rest) : rest.length < s.length := by
  unfold readPairByte at h
  split at h
  · simp [stop] at h
  · split at h
    · cases h
      simp
    · simp [stop] at h

theorem readCodePoint_length_lt {s rest : List UInt8} {c : Char}
    (h : readCodePoint s = .ok (c, rest)) : rest.length < s.length := by
  unfold readCodePoint at h
  obtain ⟨⟨unit, s₁⟩, h₁, h⟩ := bind_eq_ok_iff.1 h
  have l₁ := readHex_length_lt h₁
  dsimp only at h
  split at h
  · simp [stop] at h
  · split at h
    · obtain ⟨s₂, h₂, h⟩ := bind_eq_ok_iff.1 h
      obtain ⟨s₃, h₃, h⟩ := bind_eq_ok_iff.1 h
      obtain ⟨⟨second, s₄⟩, h₄, h⟩ := bind_eq_ok_iff.1 h
      have l₂ := readPairByte_length_lt h₂
      have l₃ := readPairByte_length_lt h₃
      have l₄ := readHex_length_lt h₄
      dsimp only at h
      split at h
      · obtain ⟨-, rfl⟩ := Prod.mk.inj (Except.ok.inj h)
        omega
      · simp [stop] at h
    · obtain ⟨-, rfl⟩ := Prod.mk.inj (Except.ok.inj h)
      exact l₁

theorem readEscape_length_lt {s rest bytes : List UInt8} (h : readEscape s = .ok (bytes, rest)) :
    rest.length < s.length := by
  unfold readEscape at h
  split at h
  · simp [stop] at h
  · split at h
    · cases h
      simp
    · split at h
      · obtain ⟨⟨c, s₁⟩, h₁, h⟩ := bind_eq_ok_iff.1 h
        have := readCodePoint_length_lt h₁
        cases h
        simp only [List.length_cons]
        omega
      · simp [stop] at h

theorem skipEscape_length_lt {s rest : List UInt8} (h : skipEscape s = .ok rest) :
    rest.length < s.length := by
  unfold skipEscape at h
  split at h
  · simp [stop] at h
  · split at h
    · cases h
      simp
    · split at h
      · obtain ⟨⟨unit, s₁⟩, h₁, h⟩ := bind_eq_ok_iff.1 h
        have := readHex_length_lt h₁
        cases h
        simp only [List.length_cons]
        omega
      · simp [stop] at h

/-- Reads a string behind its opening quote, and gives its bytes with the escapes resolved. A
control character counts as read when the reader stops at it. -/
def readText : List UInt8 → Except Fault (List UInt8 × List UInt8)
  | [] => stop .endInText []
  | b :: rest =>
    if b = quoteMark then .ok ([], rest)
    else if b < 0x20 then stop .controlCharacter rest
    else if b = backslash then
      match h : readEscape rest with
      | .error fault => .error fault
      | .ok (bytes, rest') =>
        have := readEscape_length_lt h
        (readText rest').map fun (text, s) => (bytes ++ text, s)
    else (readText rest).map fun (text, s) => (b :: text, s)
termination_by s => s.length
decreasing_by all_goals simp only [List.length_cons]; omega

/-- Reads over a string behind its opening quote. A control character does not count as read when
the reader stops at it. -/
def skipText : List UInt8 → Except Fault (List UInt8)
  | [] => stop .endInText []
  | b :: rest =>
    if b = quoteMark then .ok rest
    else if b = backslash then
      match h : skipEscape rest with
      | .error fault => .error fault
      | .ok rest' =>
        have := skipEscape_length_lt h
        skipText rest'
    else if b < 0x20 then stop .controlCharacter (b :: rest)
    else skipText rest
termination_by s => s.length
decreasing_by all_goals simp only [List.length_cons]; omega

theorem readText_length_lt {s rest text : List UInt8} (h : readText s = .ok (text, rest)) :
    rest.length < s.length := by
  fun_induction readText s generalizing text with
  | case1 => simp [stop] at h
  | case2 s =>
    cases h
    simp
  | case3 => simp [stop] at h
  | case4 => simp at h
  | case5 s bytes s' _ hlt _ _ ih =>
    obtain ⟨⟨tail, s''⟩, ht, he⟩ := map_eq_ok_iff.1 h
    cases he
    have := ih ht
    simp only [List.length_cons]
    omega
  | case6 b s _ _ _ ih =>
    obtain ⟨⟨tail, s''⟩, ht, he⟩ := map_eq_ok_iff.1 h
    cases he
    have := ih ht
    simp only [List.length_cons]
    omega

theorem skipText_length_lt {s rest : List UInt8} (h : skipText s = .ok rest) :
    rest.length < s.length := by
  fun_induction skipText s with
  | case1 => simp [stop] at h
  | case2 s =>
    cases h
    simp
  | case3 => simp at h
  | case4 s s' _ hlt _ ih =>
    have := ih h
    simp only [List.length_cons]
    omega
  | case5 => simp [stop] at h
  | case6 b s _ _ _ ih =>
    have := ih h
    simp only [List.length_cons]
    omega

end Interop.Json
