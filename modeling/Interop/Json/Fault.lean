import Interop.Decimal.Shortest
import Interop.Text.Quoted

/-!
# Faults in a document

A reader that meets something it cannot accept stops with a cause and with the number of bytes that
were then still unread. From the whole document, that number gives the line and the column.
-/

namespace Interop.Json

/-- A well-formed value met where another type of value is wanted. -/
inductive Found
  | null
  | boolean (value : Bool)
  | integer (value : Int)
  | floating (bits : UInt64)
  | text (value : String)
  | sequence
  | map
  deriving Repr, DecidableEq

def Found.describe : Found → String
  | .null => "null"
  | .boolean value => s!"boolean `{value}`"
  | .integer value => s!"integer `{value}`"
  | .floating bits => "floating point `" ++ Decimal.textOfBits bits ++ "`"
  | .text value => "string " ++ Text.quoted value
  | .sequence => "sequence"
  | .map => "map"

/-- Why a reader stops. -/
inductive Cause
  | endInValue
  | endInList
  | endInObject
  | endInText
  | colonExpected
  | listEndExpected
  | objectEndExpected
  | wordExpected
  | valueExpected
  | keyExpected
  | invalidEscape
  | unfinishedPair
  | loneSurrogate
  | controlCharacter
  | invalidCodePoint
  | invalidNumber
  | numberOutOfRange
  | trailingComma
  | trailingCharacters
  | duplicateField (name : String)
  | unknownVariant (name : String) (known : List String)
  | invalidType (found : Found) (expected : String)
  deriving Repr, DecidableEq

/-- Names in backquotes, separated by commas. -/
def listing (names : List String) : String :=
  ", ".intercalate (names.map fun n => "`" ++ n ++ "`")

def Cause.text : Cause → String
  | .endInValue => "EOF while parsing a value"
  | .endInList => "EOF while parsing a list"
  | .endInObject => "EOF while parsing an object"
  | .endInText => "EOF while parsing a string"
  | .colonExpected => "expected `:`"
  | .listEndExpected => "expected `,` or `]`"
  | .objectEndExpected => "expected `,` or `\x7d`"
  | .wordExpected => "expected ident"
  | .valueExpected => "expected value"
  | .keyExpected => "key must be a string"
  | .invalidEscape => "invalid escape"
  | .unfinishedPair => "unexpected end of hex escape"
  | .loneSurrogate => "lone leading surrogate in hex escape"
  | .controlCharacter => "control character (\\u0000-\\u001F) found while parsing a string"
  | .invalidCodePoint => "invalid unicode code point"
  | .invalidNumber => "invalid number"
  | .numberOutOfRange => "number out of range"
  | .trailingComma => "trailing comma"
  | .trailingCharacters => "trailing characters"
  | .duplicateField name => "duplicate field `" ++ name ++ "`"
  | .unknownVariant name known =>
    "unknown variant `" ++ name ++ "`, expected one of " ++ listing known
  | .invalidType found expected => "invalid type: " ++ found.describe ++ ", expected " ++ expected

/-- Where a reader stopped, counted from the end of the document, and why. -/
structure Fault where
  cause : Cause
  unread : Nat
  deriving Repr, DecidableEq

/-- Stops with everything in `rest` unread. -/
def stop {α : Type} (cause : Cause) (rest : List UInt8) : Except Fault α :=
  .error ⟨cause, rest.length⟩

/-- Stops at the first byte of `rest`, which counts as read. -/
def stopPast {α : Type} (cause : Cause) (rest : List UInt8) : Except Fault α := stop cause rest.tail

/-- Two readers in a row succeed if the first does, and the second does with what it gave. -/
theorem bind_eq_ok_iff {α β : Type} {x : Except Fault α} {f : α → Except Fault β} {b : β} :
    (x >>= f) = .ok b ↔ ∃ a, x = .ok a ∧ f a = .ok b := by
  cases x <;> simp [bind, Except.bind]

/-- A reader whose result is changed succeeds if the reader does. -/
theorem map_eq_ok_iff {α β : Type} {x : Except Fault α} {f : α → β} {b : β} :
    x.map f = .ok b ↔ ∃ a, x = .ok a ∧ f a = b := by
  cases x <;> simp [Except.map]

/-- A place in a document: its line, and the number of bytes before it on that line. -/
structure Position where
  line : Nat
  column : Nat
  deriving Repr, DecidableEq

def Position.after (bytes : List UInt8) : Position where
  line := bytes.count 0x0A + 1
  column := (bytes.reverse.takeWhile (· ≠ 0x0A)).length

def Fault.position (document : List UInt8) (fault : Fault) : Position :=
  Position.after (document.take (document.length - fault.unread))

end Interop.Json
