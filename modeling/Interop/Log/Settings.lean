import Interop.Failure
import Interop.Log.Level
import Interop.Unicode.Utf8

/-!
# Log settings

The level that holds where no directive says otherwise, the directives, and whether lines carry a
timestamp. Settings have one written form as a JSON document.
-/

namespace Interop.Log

/-- How the logger is to be set up. -/
structure Settings where
  level : Threshold := .upTo .info
  filters : Option String := none
  timestamps : Bool := true
  deriving Repr, DecidableEq

namespace Settings

/-- The settings of an environment, given the bytes of the variable. An empty or ill-formed value
counts as not set. -/
def ofVariable (value : Option (List UInt8)) : Settings :=
  match value.bind Utf8.decode? with
  | none | some [] => {}
  | some cs => { filters := some (String.ofList cs) }

def inspect (s : Settings) : String :=
  let filters := match s.filters with
    | none => "None"
    | some text => "Some(" ++ Text.quoted text ++ ")"
  "LogSettings \x7b level: " ++ s.level.label ++ ", filters: " ++ filters ++ ", timestamps: "
    ++ toString s.timestamps ++ " \x7d"

/-- The written form of a character inside a JSON string. -/
def jsonChar (c : Char) : List Char :=
  if c = '"' then ['\\', '"']
  else if c = '\\' then ['\\', '\\']
  else if c = '\x08' then ['\\', 'b']
  else if c = '\x0c' then ['\\', 'f']
  else if c = '\n' then ['\\', 'n']
  else if c = '\r' then ['\\', 'r']
  else if c = '\t' then ['\\', 't']
  else if c.toNat < 0x10 then ['\\', 'u', '0', '0', '0'] ++ Text.hexDigits c.toNat
  else if c.toNat < 0x20 then ['\\', 'u', '0', '0'] ++ Text.hexDigits c.toNat
  else [c]

def jsonText (s : String) : List Char := '"' :: (s.toList.flatMap jsonChar ++ ['"'])

def toJson (s : Settings) : String :=
  let filters := match s.filters with
    | none => "null".toList
    | some text => jsonText text
  String.ofList <|
    "\x7b\"level\":".toList ++ jsonText s.level.name ++ ",\"filters\":".toList ++ filters
      ++ ",\"timestamps\":".toList ++ (toString s.timestamps).toList ++ "\x7d".toList

end Settings

end Interop.Log
