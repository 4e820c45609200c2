import Interop.Json.Skip
import Interop.Log.Settings

/-!
# Reading the fields of log settings

A level is a name in capital or small letters, or an object with a single such name and the value
null. Filters are a string or null, and timestamps a truth value. A value of another type is read
far enough to name it.
-/

namespace Interop.Log.Settings

open Json

/-- Where the bytes of a document come from. A text is well-formed as it is; in a file, the strings
that are kept are checked. -/
inductive Source
  | text
  | file
  deriving Repr, DecidableEq

/-- The string with the given bytes, when `rest` remains behind it. Ill-formed bytes are reported at
the first of them, counted back from the end of the string as if it held no escapes. -/
def Source.settle (source : Source) (content rest : List UInt8) : Except Fault String :=
  match source with
  | .text => .ok (String.ofList (Utf8.decodeLossy content))
  | .file =>
    match Utf8.decode? content with
    | some cs => .ok (String.ofList cs)
    | none =>
      .error ⟨.invalidCodePoint, rest.length + (content.length - Utf8.wellFormedLength content)⟩

def readString (source : Source) (s : List UInt8) : Except Fault (String × List UInt8) := do
  let (content, rest) ← readText s
  let text ← source.settle content rest
  return (text, rest)

/-- The fault of a value whose type is not the expected one, given its first byte. A scalar is read
to its end first, and what is wrong inside it comes first. -/
def mistyped {α : Type} (source : Source) (expected : String) (b : UInt8) (rest : List UInt8) :
    Except Fault α :=
  let refuse (found : Found) (s : List UInt8) : Except Fault α :=
    stop (.invalidType found expected) s
  if b = 0x6E then do
    let rest ← readWord restOfNull rest
    refuse .null rest
  else if b = 0x74 then do
    let rest ← readWord restOfTrue rest
    refuse (.boolean true) rest
  else if b = 0x66 then do
    let rest ← readWord restOfFalse rest
    refuse (.boolean false) rest
  else if b = minus then do
    let (found, rest) ← readNumber true rest
    refuse found rest
  else if isDigit b then do
    let (found, rest) ← readNumber false (b :: rest)
    refuse found rest
  else if b = quoteMark then do
    let (text, rest) ← readString source rest
    refuse (.text text) rest
  else if b = openBracket then refuse .sequence (b :: rest)
  else if b = openBrace then refuse .map (b :: rest)
  else stop .valueExpected rest

def levelNames : List String := Threshold.all.map Threshold.name

def readLevelName (source : Source) (s : List UInt8) : Except Fault (Threshold × List UInt8) := do
  let (name, rest) ← readString source s
  match Threshold.ofName? name.toList with
  | some level => return (level, rest)
  | none => stop (.unknownVariant name levelNames) rest

def readNull (source : Source) (s : List UInt8) : Except Fault (List UInt8) :=
  match skipBlanks s with
  | [] => stop .endInValue []
  | b :: rest =>
    if b = 0x6E then readWord restOfNull rest else mistyped source "unit" b rest

/-- Reads the end of the object around a level. -/
def closeLevel (level : Threshold) (s : List UInt8) : Except Fault (Threshold × List UInt8) :=
  match skipBlanks s with
  | [] => stop .endInObject []
  | b :: rest => if b = closeBrace then .ok (level, rest) else stop .valueExpected (b :: rest)

/-- Reads a level written as an object, behind its opening brace. -/
def readLevelObject (source : Source) (s : List UInt8) : Except Fault (Threshold × List UInt8) :=
  match skipBlanks s with
  | [] => stop .endInObject []
  | b :: rest =>
    if b = quoteMark then do
      let (level, rest) ← readLevelName source rest
      let rest ← readColon rest
      let rest ← readNull source rest
      closeLevel level rest
    else if b = closeBrace then stop .valueExpected rest
    else stop .keyExpected rest

def readLevel (source : Source) (s : List UInt8) : Except Fault (Threshold × List UInt8) :=
  match skipBlanks s with
  | [] => stop .endInValue []
  | b :: rest =>
    if b = quoteMark then readLevelName source rest
    else if b = openBrace then readLevelObject source rest
    else stop .valueExpected rest

def readFilters (source : Source) (s : List UInt8) :
    Except Fault (Option String × List UInt8) :=
  match skipBlanks s with
  | [] => stop .endInValue []
  | b :: rest =>
    if b = 0x6E then do
      let rest ← readWord restOfNull rest
      return (none, rest)
    else if b = quoteMark then do
      let (text, rest) ← readString source rest
      return (some text, rest)
    else mistyped source "a string" b rest

def readTimestamps (source : Source) (s : List UInt8) : Except Fault (Bool × List UInt8) :=
  match skipBlanks s with
  | [] => stop .endInValue []
  | b :: rest =>
    if b = 0x74 then do
      let rest ← readWord restOfTrue rest
      return (true, rest)
    else if b = 0x66 then do
      let rest ← readWord restOfFalse rest
      return (false, rest)
    else mistyped source "a boolean" b rest

/-! ## What remains is shorter -/

theorem readString_length_lt {source : Source} {s rest : List UInt8} {text : String}
    (h : readString source s = .ok (text, rest)) : rest.length < s.length := by
  unfold readString at h
  obtain ⟨⟨content, r⟩, ht, h⟩ := bind_eq_ok_iff.1 h
  obtain ⟨text', -, h⟩ := bind_eq_ok_iff.1 h
  obtain ⟨-, rfl⟩ := Prod.mk.inj (Except.ok.inj h)
  exact readText_length_lt ht

theorem mistyped_ne_ok {α : Type} {source : Source} {expected : String} {b : UInt8}
    {rest : List UInt8} {a : α} : mistyped source expected b rest ≠ .ok a := by
  intro h
  unfold mistyped at h
  dsimp only at h
  repeat' split at h
  all_goals first
    | (obtain ⟨_, -, h⟩ := bind_eq_ok_iff.1 h
       simp [stop] at h)
    | simp [stop] at h

theorem readLevelName_length_lt {source : Source} {s rest : List UInt8} {level : Threshold}
    (h : readLevelName source s = .ok (level, rest)) : rest.length < s.length := by
  unfold readLevelName at h
  obtain ⟨⟨name, r⟩, hr, h⟩ := bind_eq_ok_iff.1 h
  dsimp only at h
  split at h
  · obtain ⟨-, rfl⟩ := Prod.mk.inj (Except.ok.inj h)
    exact readString_length_lt hr
  · simp [stop] at h

theorem readNull_length_lt {source : Source} {s rest : List UInt8}
    (h : readNull source s = .ok rest) : rest.length < s.length := by
  unfold readNull at h
  split at h
  · simp [stop] at h
  · next b r hs =>
    have := length_lt_of_skipBlanks_eq_cons hs
    split at h
    · have := readWord_length_le h
      omega
    · exact absurd h mistyped_ne_ok

theorem closeLevel_length_lt {s rest : List UInt8} {level level' : Threshold}
    (h : closeLevel level s = .ok (level', rest)) : rest.length < s.length := by
  unfold closeLevel at h
  split at h
  · simp [stop] at h
  · next b r hs =>
    split at h
    · obtain ⟨-, rfl⟩ := Prod.mk.inj (Except.ok.inj h)
      exact length_lt_of_skipBlanks_eq_cons hs
    · simp [stop] at h

theorem readLevelObject_length_lt {source : Source} {s rest : List UInt8} {level : Threshold}
    (h : readLevelObject source s = .ok (level, rest)) : rest.length < s.length := by
  unfold readLevelObject at h
  split at h
  · simp [stop] at h
  · next b r hs =>
    have := length_lt_of_skipBlanks_eq_cons hs
    split at h
    · obtain ⟨⟨l, r₁⟩, h₁, h⟩ := bind_eq_ok_iff.1 h
      obtain ⟨r₂, h₂, h⟩ := bind_eq_ok_iff.1 h
      obtain ⟨r₃, h₃, h⟩ := bind_eq_ok_iff.1 h
      have := readLevelName_length_lt h₁
      have := readColon_length_lt h₂
      have := readNull_length_lt h₃
      have := closeLevel_length_lt h
      omega
    · split at h <;> simp [stop] at h

theorem readLevel_length_lt {source : Source} {s rest : List UInt8} {level : Threshold}
    (h : readLevel source s = .ok (level, rest)) : rest.length < s.length := by
  unfold readLevel at h
  split at h
  · simp [stop] at h
  · next b r hs =>
    have := length_lt_of_skipBlanks_eq_cons hs
    split at h
    · have := readLevelName_length_lt h
      omega
    · split at h
      · have := readLevelObject_length_lt h
        omega
      · simp [stop] at h

theorem readFilters_length_lt {source : Source} {s rest : List UInt8} {filters : Option String}
    (h : readFilters source s = .ok (filters, rest)) : rest.length < s.length := by
  unfold readFilters at h
  split at h
  · simp [stop] at h
  · next b r hs =>
    have := length_lt_of_skipBlanks_eq_cons hs
    split at h
    · obtain ⟨r₁, h₁, h⟩ := bind_eq_ok_iff.1 h
      obtain ⟨-, rfl⟩ := Prod.mk.inj (Except.ok.inj h)
      have := readWord_length_le h₁
      omega
    · split at h
      · obtain ⟨⟨text, r₁⟩, h₁, h⟩ := bind_eq_ok_iff.1 h
        obtain ⟨-, rfl⟩ := Prod.mk.inj (Except.ok.inj h)
        have := readString_length_lt h₁
        omega
      · exact absurd h mistyped_ne_ok

theorem readTimestamps_length_lt {source : Source} {s rest : List UInt8} {timestamps : Bool}
    (h : readTimestamps source s = .ok (timestamps, rest)) : rest.length < s.length := by
  unfold readTimestamps at h
  split at h
  · simp [stop] at h
  · next b r hs =>
    have := length_lt_of_skipBlanks_eq_cons hs
    split at h
    · obtain ⟨r₁, h₁, h⟩ := bind_eq_ok_iff.1 h
      obtain ⟨-, rfl⟩ := Prod.mk.inj (Except.ok.inj h)
      have := readWord_length_le h₁
      omega
    · split at h
      · obtain ⟨r₁, h₁, h⟩ := bind_eq_ok_iff.1 h
        obtain ⟨-, rfl⟩ := Prod.mk.inj (Except.ok.inj h)
        have := readWord_length_le h₁
        omega
      · exact absurd h mistyped_ne_ok

end Interop.Log.Settings
