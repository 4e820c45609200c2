import Interop.Log.Record

/-!
# Lines

A record is written as a header in brackets and the message. The header holds the time if wanted,
the level, and the target if it has one. The further lines of a message are indented, so that only
a record starts with a bracket at the margin.
-/

namespace Interop.Log

/-- The name of a level, filled with blanks to the width of the longest. -/
def Level.padded (l : Level) : List Char :=
  l.name.toList ++ List.replicate (5 - l.name.length) ' '

/-- The margin of the further lines of a message. -/
def margin : List Char := List.replicate 4 ' '

/-- A message with every line after the first indented. -/
def indent (message : List Char) : List Char :=
  message.flatMap fun c => if c = '\n' then '\n' :: margin else [c]

def header (time : Option String) (r : Record) : List Char :=
  let time := match time with
    | none => []
    | some t => t.toList ++ [' ']
  let target := if r.target = "" then [] else ' ' :: r.target.toList
  '[' :: (time ++ r.level.padded ++ target ++ [']', ' '])

/-- A record as it is written. -/
def Record.line (time : Option String) (r : Record) : String :=
  String.ofList (header time r ++ indent r.message.toList ++ ['\n'])

end Interop.Log
