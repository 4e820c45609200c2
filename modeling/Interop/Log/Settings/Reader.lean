import Interop.Log.Settings.Field

/-!
# Reading log settings

A settings document is an object with the keys `level`, `filters` and `timestamps`, each at most
once and in any order, or a list of at most three values in that order. What is missing has its
default. Other keys may occur any number of times; their values are skipped.
-/

namespace Interop.Log.Settings

open Json

/-! ## Members -/

/-- The fields read so far. -/
structure Draft where
  level : Option Threshold := none
  filters : Option (Option String) := none
  timestamps : Option Bool := none
  deriving Repr, DecidableEq

/-- The settings with defaults for the fields not read. -/
def Draft.settings (d : Draft) : Settings where
  level := d.level.getD (.upTo .info)
  filters := d.filters.getD none
  timestamps := d.timestamps.getD true

/-- The fault of a key that was read before. The object around it may still end here. -/
def repeated {α : Type} (name : String) (s : List UInt8) : Except Fault α :=
  match skipBlanks s with
  | [] => stop (.duplicateField name) []
  | b :: rest => stop (.duplicateField name) (if b = closeBrace then rest else b :: rest)

/-- Reads the value of a field from the colon on and puts it into the draft, unless the field was read
before. -/
def readField {α : Type} (name : String) (given : Option α)
    (read : List UInt8 → Except Fault (α × List UInt8)) (put : α → Draft) (s : List UInt8) :
    Except Fault (Draft × List UInt8) :=
  if given.isSome then repeated name s
  else do
    let s ← readColon s
    let (value, s) ← read s
    return (put value, s)

/-- Reads what belongs to a key, from the colon on. -/
def readMember (source : Source) (draft : Draft) (key : String) (s : List UInt8) :
    Except Fault (Draft × List UInt8) :=
  if key = "level" then
    readField key draft.level (readLevel source) (fun t => { draft with level := some t }) s
  else if key = "filters" then
    readField key draft.filters (readFilters source) (fun f => { draft with filters := some f }) s
  else if key = "timestamps" then
    readField key draft.timestamps (readTimestamps source)
      (fun b => { draft with timestamps := some b }) s
  else do
    let s ← readColon s
    let s ← skipValue s
    return (draft, s)

/-- Reads a key behind its opening quote, and what belongs to it. -/
def readKeyed (source : Source) (draft : Draft) (s : List UInt8) :
    Except Fault (Draft × List UInt8) := do
  let (key, s) ← readString source s
  readMember source draft key s

/-- Reads behind a comma between members, up to behind the next opening quote. -/
def nextKey (s : List UInt8) : Except Fault (List UInt8) :=
  match skipBlanks s with
  | [] => stop .endInValue []
  | b :: rest =>
    if b = quoteMark then .ok rest
    else if b = closeBrace then stop .trailingComma rest
    else stop .keyExpected rest

theorem repeated_ne_ok {α : Type} {name : String} {s : List UInt8} {a : α} :
    repeated name s ≠ .ok a := by
  unfold repeated
  split <;> simp [stop]

theorem readField_length_lt {α : Type} {name : String} {given : Option α}
    {read : List UInt8 → Except Fault (α × List UInt8)} {put : α → Draft}
    (hread : ∀ {s rest : List UInt8} {v : α}, read s = .ok (v, rest) → rest.length < s.length)
    {s rest : List UInt8} {draft : Draft} (h : readField name given read put s = .ok (draft, rest)) :
    rest.length < s.length := by
  unfold readField at h
  split at h
  · exact absurd h repeated_ne_ok
  · obtain ⟨r₁, h₁, h⟩ := bind_eq_ok_iff.1 h
    obtain ⟨⟨value, r₂⟩, h₂, h⟩ := bind_eq_ok_iff.1 h
    obtain ⟨-, rfl⟩ := Prod.mk.inj (Except.ok.inj h)
    have := readColon_length_lt h₁
    have := hread h₂
    omega

theorem readMember_length_lt {source : Source} {draft draft' : Draft} {key : String}
    {s rest : List UInt8} (h : readMember source draft key s = .ok (draft', rest)) :
    rest.length < s.length := by
  unfold readMember at h
  split at h
  · exact readField_length_lt readLevel_length_lt h
  · split at h
    · exact readField_length_lt readFilters_length_lt h
    · split at h
      · exact readField_length_lt readTimestamps_length_lt h
      · obtain ⟨r₁, h₁, h⟩ := bind_eq_ok_iff.1 h
        obtain ⟨r₂, h₂, h⟩ := bind_eq_ok_iff.1 h
        obtain ⟨-, rfl⟩ := Prod.mk.inj (Except.ok.inj h)
        have := readColon_length_lt h₁
        have := skipValue_length_lt h₂
        omega

theorem readKeyed_length_lt {source : Source} {draft draft' : Draft} {s rest : List UInt8}
    (h : readKeyed source draft s = .ok (draft', rest)) : rest.length < s.length := by
  unfold readKeyed at h
  obtain ⟨⟨key, r₁⟩, h₁, h⟩ := bind_eq_ok_iff.1 h
  have := readString_length_lt h₁
  have := readMember_length_lt h
  omega

theorem nextKey_length_lt {s rest : List UInt8} (h : nextKey s = .ok rest) :
    rest.length < s.length := by
  unfold nextKey at h
  split at h
  · simp [stop] at h
  · next b r hs =>
    split at h
    · cases h
      exact length_lt_of_skipBlanks_eq_cons hs
    · split at h <;> simp [stop] at h

/-! ## Objects, lists and documents -/

/-- Reads members up to the end of the object, from behind the opening quote of a key. -/
def readMembers (source : Source) (draft : Draft) (s : List UInt8) :
    Except Fault (Draft × List UInt8) :=
  match h : readKeyed source draft s with
  | .error fault => .error fault
  | .ok (draft, rest) =>
    match hs : skipBlanks rest with
    | [] => stop .endInObject []
    | b :: rest' =>
      if b = closeBrace then .ok (draft, rest')
      else if b = comma then
        match hk : nextKey rest' with
        | .error fault => .error fault
        | .ok rest'' =>
          have : rest''.length < s.length := by
            have := readKeyed_length_lt h
            have := length_lt_of_skipBlanks_eq_cons hs
            have := nextKey_length_lt hk
            omega
          readMembers source draft rest''
      else stop .objectEndExpected rest'
termination_by s.length

def readObject (source : Source) (s : List UInt8) : Except Fault (Draft × List UInt8) :=
  match skipBlanks s with
  | [] => stop .endInObject []
  | b :: rest =>
    if b = closeBrace then .ok ({}, rest)
    else if b = quoteMark then readMembers source {} rest
    else stop .keyExpected rest

/-- Whether a list goes on, behind an item: at its end, or at a further item. -/
inductive Item
  | last
  | more (s : List UInt8)

/-- Reads up to the next item of a list, or to the closing bracket, which is left unread. -/
def nextItem (s : List UInt8) : Except Fault Item :=
  match skipBlanks s with
  | [] => stop .endInList []
  | b :: rest =>
    if b = closeBracket then .ok .last
    else if b = comma then
      match skipBlanks rest with
      | [] => stop .endInValue []
      | c :: rest' =>
        if c = closeBracket then stop .trailingComma rest' else .ok (.more (c :: rest'))
    else stop .listEndExpected rest

/-- Reads up to the first item of a list, or to the closing bracket, which is left unread. -/
def firstItem (s : List UInt8) : Except Fault Item :=
  match skipBlanks s with
  | [] => stop .endInList []
  | b :: rest => if b = closeBracket then .ok .last else .ok (.more (b :: rest))

/-- Reads the items of a list in the order of the fields. -/
def readItems (source : Source) (s : List UInt8) : Except Fault (Draft × List UInt8) := do
  match ← firstItem s with
  | .last => return ({}, s)
  | .more s =>
    let (level, s) ← readLevel source s
    match ← nextItem s with
    | .last => return ({ level := some level }, s)
    | .more s =>
      let (filters, s) ← readFilters source s
      match ← nextItem s with
      | .last => return ({ level := some level, filters := some filters }, s)
      | .more s =>
        let (timestamps, s) ← readTimestamps source s
        return (⟨some level, some filters, some timestamps⟩, s)

def closeList (draft : Draft) (s : List UInt8) : Except Fault (Draft × List UInt8) :=
  match skipBlanks s with
  | [] => stop .endInList []
  | b :: rest =>
    if b = closeBracket then .ok (draft, rest)
    else if b = comma then
      match skipBlanks rest with
      | [] => stop .trailingCharacters []
      | c :: rest' =>
        if c = closeBracket then stop .trailingComma rest' else stop .trailingCharacters rest'
    else stop .trailingCharacters rest

def readList (source : Source) (s : List UInt8) : Except Fault (Draft × List UInt8) := do
  let (draft, s) ← readItems source s
  closeList draft s

/-- Reads the object or list that a document consists of. -/
def readRoot (source : Source) (s : List UInt8) : Except Fault (Draft × List UInt8) :=
  match skipBlanks s with
  | [] => stop .endInValue []
  | b :: rest =>
    if b = openBracket then readList source rest
    else if b = openBrace then readObject source rest
    else mistyped source "struct LogSettings" b rest

/-- Reads a whole document, behind which only blanks may follow. -/
def readDocument (source : Source) (bytes : List UInt8) : Except Fault Settings := do
  let (draft, rest) ← readRoot source bytes
  match skipBlanks rest with
  | [] => return draft.settings
  | _ :: rest => stop .trailingCharacters rest

/-- Reads a document, with the place of a fault given by line and column. -/
def ofDocument (source : Source) (bytes : List UInt8) : Except Failure Settings :=
  (readDocument source bytes).mapError fun fault => .config fault.cause (fault.position bytes)

def ofJson (json : String) : Except Failure Settings := ofDocument .text (Utf8.ofString json)

/-- What an attempt to read a file found. -/
inductive File
  | missing
  | directory
  | zeroInName
  | contents (bytes : List UInt8)
  deriving Repr, DecidableEq

def load : File → Except Failure Settings
  | .missing => .error (.io (.os ⟨2⟩))
  | .directory => .error (.io (.os ⟨21⟩))
  | .zeroInName =>
    .error (.io (.custom .invalidInput "file name contained an unexpected NUL byte"))
  | .contents bytes => ofDocument .file bytes

end Interop.Log.Settings
