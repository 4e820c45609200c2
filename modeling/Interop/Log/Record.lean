import Interop.Log.Level

/-!
# Records

A record is one message of a given level about a target. An operation that reports what it does
returns its records next to its value.
-/

namespace Interop.Log

/-- One message: how grave it is, which part of the program it is about, and its text. -/
structure Record where
  level : Level
  target : String
  message : String
  deriving Repr, DecidableEq

/-- A record of the gravest level whose text is marked as critical. -/
def Record.critical (target text : String) : Record := ⟨.error, target, "CRITICAL: " ++ text⟩

/-- A value together with the records emitted while it was computed, oldest first. -/
structure Logged (α : Type) where
  value : α
  records : List Record
  deriving Repr

end Interop.Log
