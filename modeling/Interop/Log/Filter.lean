import Interop.Log.Directive
import Interop.Log.Pattern.Automaton
import Interop.Log.Record
import Interop.Log.Settings

/-!
# The filter

A filter decides which records are written. It is made from settings: the level of the settings is
a directive for all targets, and the directives of the filters come after it. Of two directives with
one name the later counts, and for a target the directive with the longest name that fits.
-/

namespace Interop.Log

/-- Directives with distinct names, shorter names first, and the pattern that messages must fit. -/
structure Filter where
  directives : List Directive
  pattern : Option Pattern
  deriving Repr, DecidableEq

namespace Directive

/-- The number of bytes of the name. -/
def nameLength (d : Directive) : Nat := (d.name.map fun cs => (Utf8.encode cs).length).getD 0

def covers (d : Directive) (target : List Char) : Bool :=
  match d.name with
  | none => true
  | some name => name.isPrefixOf target

/-- Enters a directive into a table, in the place of the one with its name. -/
def enter (table : List Directive) (d : Directive) : List Directive :=
  if table.any fun e => e.name = d.name then
    table.map fun e => if e.name = d.name then d else e
  else table ++ [d]

/-- The table of directives with distinct names. -/
def table (ds : List Directive) : List Directive := ds.foldl enter []

end Directive

namespace Filter

/-- The filter of directives in the order in which they are given. -/
def ofDirectives (ds : List Directive) (pattern : Option Pattern) : Filter where
  directives := (Directive.table ds).mergeSort fun a b => a.nameLength ≤ b.nameLength
  pattern := pattern

def filtersOf (s : Settings) : Filters :=
  match s.filters with
  | none => {}
  | some text => Filters.parse text.toList

def ofSettings (s : Settings) : Filter :=
  ofDirectives (⟨none, s.level⟩ :: (filtersOf s).directives) (filtersOf s).pattern

/-- The directive that decides about a target: the last that covers it. -/
def deciding? (f : Filter) (target : List Char) : Option Directive :=
  f.directives.reverse.find? fun d => d.covers target

/-- Whether records of a level about a target are admitted. -/
def enables (f : Filter) (level : Level) (target : String) : Bool :=
  (f.deciding? target.toList).any fun d => d.threshold.admits level

def admits (f : Filter) (r : Record) : Bool :=
  f.enables r.level r.target && f.pattern.all fun p => p.isIn r.message

/-- The most permissive threshold of the directives. -/
def maxThreshold (f : Filter) : Threshold :=
  f.directives.foldl (fun t d => t.max d.threshold) .off

end Filter

end Interop.Log
