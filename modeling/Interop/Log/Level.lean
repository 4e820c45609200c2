/-!
# Levels

A record has one of five levels. A threshold admits the records up to a level, or none at all.
-/

namespace Interop.Log

/-- How grave a record is, gravest first. -/
inductive Level
  | error | warn | info | debug | trace
  deriving Repr, DecidableEq

/-- The place of a level, counted from the gravest. -/
def Level.rank : Level → Nat
  | .error => 1
  | .warn => 2
  | .info => 3
  | .debug => 4
  | .trace => 5

def Level.name : Level → String
  | .error => "ERROR"
  | .warn => "WARN"
  | .info => "INFO"
  | .debug => "DEBUG"
  | .trace => "TRACE"

/-- Which records are let through: none, or those up to a level. -/
inductive Threshold
  | off
  | upTo (level : Level)
  deriving Repr, DecidableEq

namespace Threshold

/-- The place of a threshold, counted from the strictest. -/
def rank : Threshold → Nat
  | .off => 0
  | .upTo level => level.rank

/-- Whether a record of the level is let through. -/
def admits (t : Threshold) (l : Level) : Bool := l.rank ≤ t.rank

/-- The more permissive of two thresholds. -/
def max (a b : Threshold) : Threshold := if a.rank ≤ b.rank then b else a

def name : Threshold → String
  | .off => "OFF"
  | .upTo level => level.name

def all : List Threshold :=
  [.off, .upTo .error, .upTo .warn, .upTo .info, .upTo .debug, .upTo .trace]

/-- The threshold with the given name, in capital or small ASCII letters. -/
def ofName? (s : List Char) : Option Threshold :=
  all.find? fun t => t.name.toList = s.map Char.toUpper

/-- The name with only its first letter a capital. -/
def label : Threshold → String
  | .off => "Off"
  | .upTo .error => "Error"
  | .upTo .warn => "Warn"
  | .upTo .info => "Info"
  | .upTo .debug => "Debug"
  | .upTo .trace => "Trace"

end Threshold

end Interop.Log
